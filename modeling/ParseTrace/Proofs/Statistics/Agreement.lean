import Mathlib.Algebra.Order.BigOperators.Group.List
import ParseTrace.Proofs.Statistics.RuleTable

/-!
# Three tables of the same invocations

The invocations are counted by rule, by class and by kind, each time in another way: a table may list
what was never invoked or leave it out, and it may be refused. Every stored node names one declared
rule, and a rule has one class and one kind. So however the rules are grouped, the nodes of a group are
the nodes of its rules, and all groups together have all nodes. What the tables show of a group is
therefore the sum of what they show of its rules, and each table accounts for every node once.
-/

namespace ParseTrace.Statistics

section Sums

variable {α κ : Type} [DecidableEq κ] {keys : List κ}

/-- An amount that is counted under one key is counted once. -/
theorem sum_map_ite_key (different : keys.Nodup) {key : κ} (listed : key ∈ keys) (amount : Nat) :
    (keys.map fun other => if key = other then amount else 0).sum = amount := by
  induction keys with
  | nil => cases listed
  | cons first rest ih =>
      rw [List.nodup_cons] at different
      rw [List.map_cons, List.sum_cons]
      rcases List.mem_cons.mp listed with rfl | behind
      · have others : ∀ other ∈ rest, (if key = other then amount else 0) = 0 := by
          intro other isOther
          rw [if_neg]
          rintro rfl
          exact different.1 isOther
        rw [if_pos rfl, List.map_congr_left others]
        simp
      · have isOther : ¬key = first := by
          rintro rfl
          exact different.1 behind
        rw [if_neg isOther, ih different.2 behind, Nat.zero_add]

/-- Amounts can be added up key by key if every item has one of the keys. -/
theorem sum_by_key (different : keys.Nodup) {items : List α} {key : α → κ}
    (listed : ∀ item ∈ items, key item ∈ keys) (amount : α → Nat) :
    (keys.map fun wanted =>
        ((items.filter fun item => key item = wanted).map amount).sum).sum =
      (items.map amount).sum := by
  induction items with
  | nil => simp
  | cons item rest ih =>
      rw [List.forall_mem_cons] at listed
      have first (wanted : κ) :
          (((item :: rest).filter fun item => key item = wanted).map amount).sum =
            (if key item = wanted then amount item else 0) +
              ((rest.filter fun item => key item = wanted).map amount).sum := by
        by_cases same : key item = wanted
        · simp [same]
        · simp [same]
      simp only [first, List.sum_map_add, sum_map_ite_key different listed.1, ih listed.2,
        List.map_cons, List.sum_cons]

theorem nodup_eraseDups (values : List κ) : values.eraseDups.Nodup := by
  induction size : values.length using Nat.strongRecOn generalizing values with
  | ind size ih =>
      cases values with
      | nil => exact List.nodup_nil
      | cons value rest =>
          rw [List.eraseDups_cons, List.nodup_cons, List.mem_eraseDups]
          refine ⟨by simp, ih _ ?_ _ rfl⟩
          rw [← size, List.length_cons]
          exact Nat.lt_succ_of_le (List.length_filter_le _ _)

end Sums

namespace Tally

theorem invocations_ofNodes (nodes : List StoredNode) :
    (ofNodes nodes).invocations = (nodes.map fun _ => 1).sum := by
  simp [ofNodes_eq]

theorem successes_ofNodes (nodes : List StoredNode) :
    (ofNodes nodes).successes = (nodes.map fun node => if node.success then 1 else 0).sum := by
  simp [ofNodes_eq, List.sum_map_ite, List.countP_eq_length_filter]

theorem totalNanos_ofNodes (nodes : List StoredNode) :
    (ofNodes nodes).totalNanos = (nodes.map fun node => node.nanos).sum := by
  simp [ofNodes_eq]

end Tally

variable {store : Store} {κ : Type} [DecidableEq κ] {group : Rule → κ} {key : κ}

/-- The stored nodes whose rule is in a group. -/
def invocationsIn (store : Store) (group : Rule → κ) (key : κ) : List StoredNode :=
  store.nodes.toList.filter fun node =>
    ∃ rule ∈ store.rules, rule.id = node.rule ∧ group rule = key

/-- The time that the stored nodes of a group took. -/
def nanosIn (store : Store) (group : Rule → κ) (key : κ) : Nat :=
  ((invocationsIn store group key).map fun node => node.nanos).sum

theorem mem_invocationsIn {node : StoredNode} :
    node ∈ invocationsIn store group key ↔
      node ∈ store.nodes.toList ∧ ∃ rule ∈ store.rules, rule.id = node.rule ∧ group rule = key := by
  rw [invocationsIn, List.mem_filter, decide_eq_true_eq]

/-- What names a rule is found among the nodes of any group of the rule. -/
theorem invocationsOf_eq_filter {rule : Rule} (declared : rule ∈ store.rules)
    (inGroup : group rule = key) :
    invocationsOf store rule.id =
      (invocationsIn store group key).filter fun node => node.rule = rule.id := by
  rw [invocationsOf, invocationsIn, List.filter_filter]
  apply List.filter_congr
  intro node _
  rw [← Bool.decide_and, decide_eq_decide]
  constructor
  · intro named
    exact ⟨named, rule, declared, named.symm, inGroup⟩
  · exact And.left

section Groups

variable (amount : StoredNode → Nat)

/-- The nodes of a group are the nodes of its rules. -/
theorem sum_rules_in (declares : store.Declares) :
    ((store.rules.filter fun rule => group rule = key).map fun rule =>
        ((invocationsOf store rule.id).map amount).sum).sum =
      ((invocationsIn store group key).map amount).sum := by
  have ids : ((store.rules.filter fun rule => group rule = key).map Rule.id).Nodup :=
    declares.ids_nodup.sublist (List.filter_sublist.map Rule.id)
  have listed : ∀ node ∈ invocationsIn store group key,
      node.rule ∈ (store.rules.filter fun rule => group rule = key).map Rule.id := by
    intro node isIn
    rcases mem_invocationsIn.mp isIn with ⟨_, rule, declared, named, inGroup⟩
    exact List.mem_map.mpr ⟨rule, List.mem_filter.mpr ⟨declared, by simpa using inGroup⟩, named⟩
  rw [← sum_by_key ids listed amount, List.map_map]
  congr 1
  apply List.map_congr_left
  intro rule inGroup
  rw [List.mem_filter, decide_eq_true_eq] at inGroup
  rw [invocationsOf_eq_filter inGroup.1 inGroup.2]
  rfl

/-- Every node is a node of one rule. -/
theorem sum_rules (declares : store.Declares) (tree : FormsTree store.rules store.nodes) :
    (store.rules.map fun rule => ((invocationsOf store rule.id).map amount).sum).sum =
      (store.nodes.toList.map amount).sum := by
  have listed : ∀ node ∈ store.nodes.toList, node.rule ∈ store.rules.map Rule.id := by
    intro node isStored
    rcases List.mem_iff_getElem?.mp isStored with ⟨place, present⟩
    rw [Array.getElem?_toList] at present
    exact List.mem_map.mpr (tree place node present).rule_declared
  rw [← sum_by_key declares.ids_nodup listed amount, List.map_map]
  rfl

/-- The groups together have all nodes. -/
theorem sum_groups (declares : store.Declares) (tree : FormsTree store.rules store.nodes)
    {keys : List κ} (different : keys.Nodup) (listed : ∀ rule ∈ store.rules, group rule ∈ keys) :
    (keys.map fun key => ((invocationsIn store group key).map amount).sum).sum =
      (store.nodes.toList.map amount).sum := by
  rw [← sum_rules amount declares tree, ← sum_by_key different listed]
  simp only [sum_rules_in amount declares]

end Groups

section Rows

variable {part : Tally → Nat} {amount : StoredNode → Nat} {rows : List RuleRow}

theorem sum_rows_in (adds : ∀ nodes, part (.ofNodes nodes) = (nodes.map amount).sum)
    (declares : store.Declares) (permuted : rows.Perm (ruleRows store)) :
    ((rows.filter fun row => group row.rule = key).map fun row => part row.tally).sum =
      part (.ofNodes (invocationsIn store group key)) := by
  have sameSum := ((permuted.filter fun row => group row.rule = key).map fun row =>
    part row.tally).sum_eq
  rw [sameSum, adds, ← sum_rules_in amount declares, ruleRows, List.filter_map, List.map_map]
  simp only [Function.comp_def, ruleTally_eq_ofNodes, adds]

theorem sum_rows (adds : ∀ nodes, part (.ofNodes nodes) = (nodes.map amount).sum)
    (declares : store.Declares) (tree : FormsTree store.rules store.nodes)
    (permuted : rows.Perm (ruleRows store)) :
    (rows.map fun row => part row.tally).sum = part (.ofNodes store.nodes.toList) := by
  have sameSum := (permuted.map fun row => part row.tally).sum_eq
  rw [sameSum, adds, ← sum_rules amount declares tree, ruleRows, List.map_map]
  simp only [Function.comp_def, ruleTally_eq_ofNodes, adds]

end Rows

/-- To join the nodes with their rules is to look for the rule that a node names. -/
theorem filter_rule?_eq (declares : store.Declares) (group : Rule → κ) (key : κ) :
    (store.nodes.toList.filter fun node => (store.rule? node.rule).map group == some key) =
      invocationsIn store group key := by
  apply List.filter_congr
  intro node _
  rw [beq_eq_decide, decide_eq_decide, Option.map_eq_some_iff]
  simp only [declares.rule?_eq_some_iff, and_assoc]

namespace ClassRow

/-- What the rows of the classes are ranked by. -/
def rank (row : ClassRow) : ℕᵒᵈ ×ₗ String :=
  toLex (OrderDual.toDual row.tally.invocations, row.className)

theorem precedes_iff (row other : ClassRow) : row.precedes other ↔ row.rank ≤ other.rank := by
  have names : row.className ≤ other.className ↔
      row.className < other.className ∨ row.className = other.className := le_iff_lt_or_eq
  simp [precedes, rank, Prod.Lex.toLex_le_toLex, names]

/-- Whether a row stands in front of another one: it counts more invocations, or as many for a class
whose name has the bytes that come first. -/
def RanksBefore (row other : ClassRow) : Prop :=
  other.tally.invocations < row.tally.invocations ∨
    row.tally.invocations = other.tally.invocations ∧
      Utf8.encode row.className < Utf8.encode other.className

theorem ranksBefore_of_rank_lt {row other : ClassRow} (less : row.rank < other.rank) :
    row.RanksBefore other := by
  simp only [rank, Prod.Lex.toLex_lt_toLex, OrderDual.toDual_lt_toDual, OrderDual.toDual_inj] at less
  rcases less with busier | ⟨same, named⟩
  · exact Or.inl busier
  · exact Or.inr ⟨same, Utf8.encode_lt_encode named⟩

/-- The rows of the rules of a class. -/
def members (row : ClassRow) (rows : List RuleRow) : List RuleRow :=
  rows.filter fun member => member.rule.className = row.className

/-- A row tells of a class what the rows of its rules add up to. -/
structure SumsUp (row : ClassRow) (rows : List RuleRow) : Prop where
  invocations_eq :
    row.tally.invocations = ((row.members rows).map fun member => member.tally.invocations).sum
  successes_eq :
    row.tally.successes = ((row.members rows).map fun member => member.tally.successes).sum
  totalNanos_eq :
    row.tally.totalNanos = ((row.members rows).map fun member => member.tally.totalNanos).sum

end ClassRow

theorem classTally_eq (declares : store.Declares) (className : String) :
    classTally store className = .ofNodes (invocationsIn store Rule.className className) := by
  rw [classTally, filter_rule?_eq declares]

theorem sumsUp_of_mem (declares : store.Declares) {rows : List RuleRow}
    (permuted : rows.Perm (ruleRows store)) {row : ClassRow} (listed : row ∈ classRows store) :
    row.SumsUp rows := by
  rcases List.mem_map.mp listed with ⟨className, _, rfl⟩
  rw [classTally_eq declares]
  exact ⟨(sum_rows_in Tally.invocations_ofNodes declares permuted).symm,
    (sum_rows_in Tally.successes_ofNodes declares permuted).symm,
    (sum_rows_in Tally.totalNanos_ofNodes declares permuted).symm⟩

theorem nodup_classNames (rules : List Rule) : (classNames rules).Nodup :=
  nodup_eraseDups _

theorem mem_classNames {rules : List Rule} {className : String} :
    className ∈ classNames rules ↔ ∃ rule ∈ rules, rule.className = className := by
  rw [classNames, List.mem_eraseDups, List.mem_map]

theorem sum_classRows (declares : store.Declares) (tree : FormsTree store.rules store.nodes)
    {rows : List ClassRow} (permuted : rows.Perm (classRows store)) :
    (rows.map fun row => row.tally.invocations).sum = store.nodes.size := by
  have listed : ∀ rule ∈ store.rules, rule.className ∈ classNames store.rules := by
    intro rule declared
    exact mem_classNames.mpr ⟨rule, declared, rfl⟩
  have sums := sum_groups (fun _ => 1) declares tree (nodup_classNames store.rules) listed
  rw [(permuted.map _).sum_eq, classRows, List.map_map]
  simp only [Function.comp_def, classTally_eq declares, Tally.invocations_ofNodes]
  rw [sums]
  simp

theorem totalNanos_classTally (declares : store.Declares) (className : String) :
    (classTally store className).totalNanos = nanosIn store Rule.className className := by
  rw [classTally_eq declares, Tally.totalNanos_ofNodes, nanosIn]

/-- Only a class of a declared rule takes time. -/
theorem mem_classNames_of_nanosIn {className : String}
    (takesTime : 0 < nanosIn store Rule.className className) :
    className ∈ classNames store.rules := by
  have invoked : invocationsIn store Rule.className className ≠ [] := by
    intro none
    rw [nanosIn, none] at takesTime
    exact absurd takesTime (Nat.lt_irrefl 0)
  rcases List.exists_mem_of_ne_nil _ invoked with ⟨node, isIn⟩
  rcases mem_invocationsIn.mp isIn with ⟨_, rule, declared, _, ofClass⟩
  exact mem_classNames.mpr ⟨rule, declared, ofClass⟩

theorem byClass_eq_error_iff (declares : store.Declares) (isOpen : store.closed = false)
    {cause : TraceError} :
    byClass store = .error cause ↔
      cause = .storage .sumOverflow ∧
        ∃ className, 2 ^ 63 - 1 < nanosIn store Rule.className className := by
  have maximum : Store.maxStoredNanos = 2 ^ 63 - 1 := rfl
  rw [byClass_eq isOpen, refused_iff]
  simp only [totalNanos_classTally declares, maximum, not_forall, Nat.not_le, exists_prop]
  refine and_congr_right fun _ => exists_congr fun className => ?_
  constructor
  · exact And.right
  · intro large
    exact ⟨mem_classNames_of_nanosIn (Nat.lt_of_le_of_lt (Nat.zero_le _) large), large⟩

/-- A rule takes no more time than its group. -/
theorem nanosOf_le {rule : Rule} (declared : rule ∈ store.rules) (inGroup : group rule = key) :
    nanosOf store rule.id ≤ nanosIn store group key := by
  have included : (invocationsOf store rule.id).Sublist (invocationsIn store group key) := by
    rw [invocationsOf_eq_filter declared inGroup]
    exact List.filter_sublist
  exact (included.map fun node => node.nanos).sum_le_sum fun _ _ => Nat.zero_le _

/-- A table of the classes is shown only if that of the rules is. -/
theorem byRule_of_byClass (declares : store.Declares) (isOpen : store.closed = false)
    {classes : List ClassRow} (shown : byClass store = .ok classes) :
    byRule store = .ok ((ruleRows store).mergeSort RuleRow.precedes) := by
  rw [byClass_eq isOpen] at shown
  split at shown
  next fits =>
    rw [byRule_eq isOpen, if_pos]
    intro rule declared
    have ofClass := fits rule.className (mem_classNames.mpr ⟨rule, declared, rfl⟩)
    rw [totalNanos_classTally declares] at ofClass
    rw [ruleTally_eq]
    exact Nat.le_trans (nanosOf_le declared rfl) ofClass
  next => cases shown

/-- The table of the kinds in their own order, less those that were not invoked. -/
def kindRows (store : Store) : List (RuleKind × Nat) :=
  (RuleKind.all.map fun kind => (kind, (invocationsIn store Rule.kind kind).length)).filter
    fun row => row.2 != 0

theorem byKind_eq (declares : store.Declares) (isOpen : store.closed = false) :
    byKind store = .ok (kindRows store) := by
  rw [byKind, Store.whenOpen_of_open isOpen, tabulate_eq, kindRows]
  simp only [filter_rule?_eq declares, List.map_map, Function.comp_def, Tally.ofNodes_eq]

theorem mem_kindRows_iff {kind : RuleKind} {count : Nat} :
    (kind, count) ∈ kindRows store ↔
      count = (invocationsIn store Rule.kind kind).length ∧ count ≠ 0 := by
  simp only [kindRows, List.mem_filter, List.mem_map, Prod.mk.injEq, bne_iff_ne]
  constructor
  · rintro ⟨⟨_, _, rfl, rfl⟩, invoked⟩
    exact ⟨rfl, invoked⟩
  · rintro ⟨rfl, invoked⟩
    exact ⟨⟨kind, RuleKind.mem_all kind, rfl, rfl⟩, invoked⟩

theorem nodup_kindRows (store : Store) : ((kindRows store).map Prod.fst).Nodup := by
  have different : RuleKind.all.Nodup := by decide
  have kinds : (RuleKind.all.map fun kind =>
      (kind, (invocationsIn store Rule.kind kind).length)).map Prod.fst = RuleKind.all := by
    simp [Function.comp_def]
  rw [← kinds] at different
  exact different.sublist (List.filter_sublist.map Prod.fst)

/-- What is left out counts nothing. -/
theorem sum_filter_invoked {κ : Type} (rows : List (κ × Nat)) :
    ((rows.filter fun row => row.2 != 0).map Prod.snd).sum = (rows.map Prod.snd).sum := by
  induction rows with
  | nil => rfl
  | cons row rest ih =>
      by_cases uninvoked : row.2 = 0
      · simp [uninvoked, ih]
      · simp [uninvoked, ih]

theorem sum_kindRows (declares : store.Declares) (tree : FormsTree store.rules store.nodes) :
    ((kindRows store).map Prod.snd).sum = store.nodes.size := by
  have all : RuleKind.all.Nodup := by decide
  have sums := sum_groups (fun _ => 1) declares tree all fun rule _ => RuleKind.mem_all rule.kind
  rw [kindRows, sum_filter_invoked, List.map_map]
  simpa [Function.comp_def] using sums

/-- The three tables of an open store at any moment of its run. The table of the classes is refused if
and only if the stored nodes of one class took longer than a signed integer of 64 bits can tell. If it
is shown, so is the table of the rules; it has one row for each class of a declared rule, with the sums
over the rows of the rules of that class, and every row ranks before all that follow it. The table of
the kinds is always shown: it has those that were invoked, and how often, which the rows of the rules of
a kind add up to. And whichever table is shown counts as many invocations as the load counts nodes. -/
theorem tables_agree {label : String} {header : Header}
    (reached : Store.Reaches (.create label header) store) (isOpen : store.closed = false)
    (few : store.nodes.size < 2 ^ 31) :
    (∀ cause, byClass store = .error cause ↔
      cause = .storage .sumOverflow ∧
        ∃ className, 2 ^ 63 - 1 < nanosIn store Rule.className className) ∧
    (∀ classes, byClass store = .ok classes → ∃ rows, byRule store = .ok rows ∧
      (classes.map ClassRow.className).Nodup ∧
      (∀ className, className ∈ classes.map ClassRow.className ↔
        ∃ rule ∈ store.rules, rule.className = className) ∧
      (∀ row ∈ classes, row.SumsUp rows) ∧ classes.Pairwise ClassRow.RanksBefore ∧
      (classes.map fun row => row.tally.invocations).sum = store.tracker.nodes) ∧
    (∃ kinds, byKind store = .ok kinds ∧ (kinds.map Prod.fst).Nodup ∧
      (∀ kind count, (kind, count) ∈ kinds ↔
        count = (invocationsIn store Rule.kind kind).length ∧ count ≠ 0) ∧
      (kinds.map Prod.snd).sum = store.tracker.nodes) ∧
    ∀ rows, byRule store = .ok rows →
      (∀ kind, (invocationsIn store Rule.kind kind).length =
        ((rows.filter fun row => row.rule.kind = kind).map fun row => row.tally.invocations).sum) ∧
      (rows.map fun row => row.tally.invocations).sum = store.tracker.nodes := by
  have sound : store.Sound := (Store.sound_create label header).reaches reached few
  have declares := sound.declares
  rw [sound.nodeCount_eq]
  refine ⟨fun _ => byClass_eq_error_iff declares isOpen, ?_, ?_, ?_⟩
  · intro classes shown
    refine ⟨_, byRule_of_byClass declares isOpen shown, ?_⟩
    rw [byClass_eq isOpen] at shown
    split at shown
    next fits =>
      obtain rfl := Except.ok.inj shown
      have permuted := List.mergeSort_perm (classRows store) ClassRow.precedes
      have names : (classRows store).map ClassRow.className = classNames store.rules := by
        simp [classRows, Function.comp_def]
      have listed := permuted.map ClassRow.className
      rw [names] at listed
      refine ⟨listed.nodup_iff.mpr (nodup_classNames store.rules), ?_, ?_, ?_,
        sum_classRows declares sound.tree permuted⟩
      · intro className
        rw [listed.mem_iff, mem_classNames]
      · intro row isRow
        exact sumsUp_of_mem declares (List.mergeSort_perm _ _) (permuted.mem_iff.mp isRow)
      · -- A key holds the name of its class, so keys differ as names do.
        have ranks : ((classRows store).map ClassRow.rank).Nodup := by
          apply List.Nodup.of_map fun rank => (ofLex rank).2
          rw [List.map_map]
          exact names ▸ nodup_classNames store.rules
        apply (pairwise_lt_mergeSort ClassRow.precedes_iff ranks).imp
        exact ClassRow.ranksBefore_of_rank_lt
    next => cases shown
  · exact ⟨kindRows store, byKind_eq declares isOpen, nodup_kindRows store,
      fun _ _ => mem_kindRows_iff, sum_kindRows declares sound.tree⟩
  · intro rows shown
    rw [byRule_eq isOpen] at shown
    split at shown
    next fits =>
      obtain rfl := Except.ok.inj shown
      have permuted := List.mergeSort_perm (ruleRows store) RuleRow.precedes
      constructor
      · intro kind
        rw [sum_rows_in Tally.invocations_ofNodes declares permuted, Tally.ofNodes_eq]
      · rw [sum_rows Tally.invocations_ofNodes declares sound.tree permuted, Tally.ofNodes_eq,
          Array.length_toList]
    next => cases shown

/-- The store of three rules with one node for each of them, two of which are of one class. -/
def twoClasses : Store :=
  (threeRules.appendBatch [⟨some 0, 1, 3, true, 0, 1, 40⟩, ⟨some 0, 1, 5, false, 1, 2, 20⟩]).2

theorem rules_of_one_class_are_summed_up : ∃ classes rows,
    byClass twoClasses = .ok classes ∧ byRule twoClasses = .ok rows ∧ classes.length = 2 ∧
      (∀ row ∈ classes, row.SumsUp rows) ∧
      (classes.map fun row => row.tally.invocations).sum = 3 := by
  have reached : Store.Reaches (.create "sample" ⟨0, 1, 3, 2⟩) twoClasses :=
    (Store.reaches_sample.tail (.appendRules _ (by decide))).tail (.appendBatch _)
  have shown : byClass twoClasses =
      .ok ((classRows twoClasses).mergeSort ClassRow.precedes) := by
    rw [byClass_eq (by decide), if_pos (by decide)]
  rcases (tables_agree reached (by decide) (by decide)).2.1 _ shown with
    ⟨rows, rowsShown, _, _, sums, _, total⟩
  refine ⟨_, rows, shown, rowsShown, ?_, sums, total⟩
  rw [List.length_mergeSort]
  decide

end ParseTrace.Statistics
