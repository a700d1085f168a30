import ParseTrace.Capture.Draft

/-!
# What a draft records

A draft takes requests one after the other. It keeps what was declared and recorded, in order, and
adds to it only what follows: identifiers, which count up, and levels. Every invocation is at level
zero or hangs one level below an earlier one, so no level exceeds the number of its node, and the
depth in the header is one more than the largest level.

A request that is refused changes nothing. So a draft is always what the requests that it took, in
order, lead to.
-/

namespace ParseTrace

/-- What is declared of a rule. -/
structure Declaration where
  className : String
  kind : RuleKind
  name : String
  deriving DecidableEq, Repr

/-- A rule as it was declared. -/
def Rule.declaration (rule : Rule) : Declaration :=
  ⟨rule.className, rule.kind, rule.name⟩

/-- An invocation as it was recorded. -/
def Invocation.call (invocation : Invocation) : Call where
  parent := invocation.parent
  rule := invocation.rule
  success := invocation.success
  start := invocation.start
  stop := invocation.stop
  nanos := invocation.nanos

namespace Draft

/-- What a draft can be asked to take. -/
inductive Request where
  | rule (declaration : Declaration)
  | node (call : Call)
  deriving DecidableEq, Repr

namespace Request

/-- The declaration of a rule, if it is one. -/
def declaration? : Request → Option Declaration
  | rule declaration => some declaration
  | node _ => none

/-- The call that is recorded, if it is one. -/
def call? : Request → Option Call
  | rule _ => none
  | node call => some call

end Request

/-- The draft behind a request, unless it is refused. -/
def take? (draft : Draft) : Request → Option Draft
  | .rule declaration =>
      some (draft.addRule declaration.className declaration.kind declaration.name).2
  | .node call => (draft.addNode? call).map Prod.snd

/-- The draft behind several requests, unless one is refused. -/
def takeAll? (draft : Draft) (requests : List Request) : Option Draft :=
  requests.foldlM take? draft

variable {draft after : Draft} {request : Request} {requests : List Request} {call : Call}
  {place : Nat} {node : Invocation}

theorem takeAll?_cons_eq_some_iff :
    draft.takeAll? (request :: requests) = some after ↔
      ∃ next, draft.take? request = some next ∧ next.takeAll? requests = some after := by
  rw [takeAll?, List.foldlM_cons]
  exact Option.bind_eq_some_iff

theorem take?_node_eq_some_iff :
    draft.take? (.node call) = some after ↔
      ∃ level, draft.levelUnder? call.parent = some level ∧
        after = { draft with
          nodes := draft.nodes.push
            { parent := call.parent, level, rule := call.rule, success := call.success,
              start := call.start, stop := call.stop, nanos := call.nanos } } := by
  simp only [take?, addNode?, Option.map_map, Option.map_eq_some_iff, Function.comp_apply]
  refine exists_congr fun level => and_congr_right fun _ => ?_
  exact eq_comm

/-! ## Nothing is lost -/

/-- A later draft holds what an earlier one does, and what was declared and recorded since. -/
structure Extends (draft : Draft) (requests : List Request) (after : Draft) : Prop where
  capturedAt : after.capturedAt = draft.capturedAt
  input : after.input = draft.input
  rules : after.rules.toList.map Rule.declaration =
    draft.rules.toList.map Rule.declaration ++ requests.filterMap Request.declaration?
  nodes : after.nodes.toList.map Invocation.call =
    draft.nodes.toList.map Invocation.call ++ requests.filterMap Request.call?

theorem extends_of_take? (taken : draft.take? request = some after) :
    draft.Extends [request] after := by
  cases request with
  | rule declaration =>
      obtain rfl := Option.some.inj taken
      exact ⟨rfl, rfl, by simp [addRule, Rule.declaration, Request.declaration?],
        by simp [addRule, Request.call?]⟩
  | node call =>
      rcases take?_node_eq_some_iff.mp taken with ⟨level, _, rfl⟩
      exact ⟨rfl, rfl, by simp [Request.declaration?],
        by simp [Invocation.call, Request.call?]⟩

theorem extends_of_takeAll? (taken : draft.takeAll? requests = some after) :
    draft.Extends requests after := by
  induction requests generalizing draft with
  | nil =>
      obtain rfl := Option.some.inj taken
      exact ⟨rfl, rfl, by simp, by simp⟩
  | cons request rest ih =>
      rcases takeAll?_cons_eq_some_iff.mp taken with ⟨next, first, others⟩
      have step := extends_of_take? first
      have behind := ih others
      refine ⟨behind.capturedAt.trans step.capturedAt, behind.input.trans step.input, ?_, ?_⟩
      · rw [behind.rules, step.rules, List.append_assoc, ← List.filterMap_append]
        rfl
      · rw [behind.nodes, step.nodes, List.append_assoc, ← List.filterMap_append]
        rfl

/-! ## Identifiers and levels -/

/-- The identifiers of a draft count up, and the levels follow from the parents. -/
structure Sound (draft : Draft) : Prop where
  id_eq : ∀ (place : Nat) (rule : Rule), draft.rules[place]? = some rule → rule.id = wrapId place
  hangs : ∀ (place : Nat) (node : Invocation), draft.nodes[place]? = some node →
    (node.parent = none ∧ node.level = 0) ∨
      ∃ (parent : Nat) (above : Invocation), parent < place ∧ node.parent = some (parent : Int) ∧
        draft.nodes[parent]? = some above ∧ node.level = above.level + 1

theorem sound_empty (capturedAt : Int) (input : String) : (empty capturedAt input).Sound :=
  ⟨fun place rule found => by simp [empty] at found,
    fun place node found => by simp [empty] at found⟩

theorem levelUnder?_eq_some_iff {parent : Option NodeId} {level : Nat} :
    draft.levelUnder? parent = some level ↔
      (parent = none ∧ level = 0) ∨
        ∃ (place : Nat) (above : Invocation), parent = some (place : Int) ∧
          draft.nodes[place]? = some above ∧ level = above.level + 1 := by
  cases parent with
  | none => simp [levelUnder?, eq_comm]
  | some parent =>
      simp only [levelUnder?, Option.map_eq_some_iff, reduceCtorEq, false_and, false_or,
        Option.some.injEq]
      constructor
      · rintro ⟨above, found, rfl⟩
        cases parent with
        | ofNat place => exact ⟨place, above, rfl, found, rfl⟩
        | negSucc place => cases found
      · rintro ⟨place, above, rfl, found, rfl⟩
        exact ⟨above, found, rfl⟩

theorem getElem?_push_of_eq_some {nodes : Array Invocation} (found : nodes[place]? = some node)
    (last : Invocation) : (nodes.push last)[place]? = some node := by
  have inside : place < nodes.size := (Array.getElem?_eq_some_iff.mp found).1
  rw [Array.getElem?_push, if_neg (by omega)]
  exact found

namespace Sound

theorem take? (sound : draft.Sound) (taken : draft.take? request = some after) : after.Sound := by
  cases request with
  | rule declaration =>
      obtain rfl := Option.some.inj taken
      refine ⟨?_, sound.hangs⟩
      intro place rule found
      rw [addRule, Array.getElem?_push] at found
      split at found
      next last =>
        obtain rfl := Option.some.inj found
        rw [last]
      next => exact sound.id_eq place rule found
  | node call =>
      rcases take?_node_eq_some_iff.mp taken with ⟨level, levelFound, rfl⟩
      refine ⟨sound.id_eq, ?_⟩
      intro place node found
      rw [Array.getElem?_push] at found
      split at found
      next last =>
        obtain rfl := Option.some.inj found
        rcases levelUnder?_eq_some_iff.mp levelFound with
          root | ⟨parent, above, named, present, rfl⟩
        · exact Or.inl root
        · have inside : parent < draft.nodes.size := (Array.getElem?_eq_some_iff.mp present).1
          exact Or.inr ⟨parent, above, by omega, named, getElem?_push_of_eq_some present _, rfl⟩
      next =>
        rcases sound.hangs place node found with
          root | ⟨parent, above, before, named, present, level⟩
        · exact Or.inl root
        · exact Or.inr
            ⟨parent, above, before, named, getElem?_push_of_eq_some present _, level⟩

theorem takeAll? (sound : draft.Sound) (taken : draft.takeAll? requests = some after) :
    after.Sound := by
  induction requests generalizing draft with
  | nil =>
      obtain rfl := Option.some.inj taken
      exact sound
  | cons request rest ih =>
      rcases takeAll?_cons_eq_some_iff.mp taken with ⟨next, first, others⟩
      exact ih (sound.take? first) others

theorem level_le (sound : draft.Sound) (found : draft.nodes[place]? = some node) :
    node.level ≤ place := by
  induction place using Nat.strongRecOn generalizing node with
  | ind place ih =>
      rcases sound.hangs place node found with
        ⟨_, level⟩ | ⟨parent, above, earlier, _, aboveFound, level⟩
      · omega
      · have := ih parent earlier aboveFound
        omega

end Sound

/-! ## The depth -/

theorem foldl_depth_le_iff {nodes : List Invocation} {least bound : Nat} :
    nodes.foldl (fun depth node => max depth (node.level + 1)) least ≤ bound ↔
      least ≤ bound ∧ ∀ node ∈ nodes, node.level < bound := by
  induction nodes generalizing least with
  | nil => simp
  | cons node rest ih =>
      rw [List.foldl_cons, ih, List.forall_mem_cons, ← and_assoc]
      refine and_congr_left fun _ => ?_
      omega

/-- The depth is the least number above all levels. -/
theorem depth_le_iff {bound : Nat} :
    draft.header.depth ≤ bound ↔ ∀ node ∈ draft.nodes, node.level < bound := by
  simp only [header, ← Array.foldl_toList, ← Array.mem_toList_iff]
  rw [foldl_depth_le_iff]
  exact and_iff_right (Nat.zero_le bound)

theorem level_lt_depth (present : node ∈ draft.nodes) : node.level < draft.header.depth :=
  depth_le_iff.mp (Nat.le_refl _) node present

/-- Some node is at the last level. -/
theorem exists_level_eq_depth (nonempty : 0 < draft.nodes.size) :
    ∃ node ∈ draft.nodes, draft.header.depth = node.level + 1 := by
  have first : draft.nodes[0] ∈ draft.nodes := Array.getElem_mem nonempty
  have positive := level_lt_depth first
  have tooSmall : ¬draft.header.depth ≤ draft.header.depth - 1 := by omega
  rw [depth_le_iff] at tooSmall
  simp only [Classical.not_forall, Nat.not_lt] at tooSmall
  rcases tooSmall with ⟨node, present, last⟩
  have below := level_lt_depth present
  exact ⟨node, present, by omega⟩

theorem Sound.depth_le_size (sound : draft.Sound) : draft.header.depth ≤ draft.nodes.size := by
  rw [depth_le_iff]
  intro node present
  rcases Array.mem_iff_getElem?.mp present with ⟨place, found⟩
  have inside : place < draft.nodes.size := (Array.getElem?_eq_some_iff.mp found).1
  exact Nat.lt_of_le_of_lt (sound.level_le found) inside

end Draft

end ParseTrace
