import Mathlib.Algebra.Group.Nat.Defs
import ParseTrace.Proofs.Capture.Recording
import ParseTrace.Proofs.Capture.Written

/-!
# Written captures read back

A draft that was put together by requests is written as an archive. The archive opens with the
header of the draft and its input, and delivers the declared rules and the recorded invocations in
order, under the identifiers that were given out. The texts can be any. The numbers need no more
than the sizes in which they are handed over.
-/

namespace ParseTrace

open Numeral (IntegerRange)

/-- The numbers of a call have the sizes in which they are handed over. -/
structure Call.Typed (call : Call) : Prop where
  rule : IntegerRange.signed32.Contains call.rule
  start : IntegerRange.unsigned64.Contains call.start
  stop : IntegerRange.unsigned64.Contains call.stop
  nanos : IntegerRange.unsigned64.Contains call.nanos

theorem signed32_wrapId (value : Int) : IntegerRange.signed32.Contains (wrapId value) := by
  have least : -((4294967296 : Nat) : Int) / 2 ≤ value.bmod 4294967296 := Int.le_bmod (by decide)
  have greatest : value.bmod 4294967296 < (((4294967296 : Nat) : Int) + 1) / 2 :=
    Int.bmod_lt (by decide)
  simp only [IntegerRange.Contains, IntegerRange.signed32, wrapId]
  omega

namespace Draft

open Capture (WritableHeader WritableInvocation)

variable {draft : Draft} {capturedAt : Int} {input : String} {requests : List Request}

/-- The invocations of a draft with their numbers. -/
def listed (draft : Draft) : List (NodeId × Invocation) :=
  draft.nodes.toList.mapIdx fun index node => ((index : Int), node)

/-- A written draft as it should open. -/
def capture (draft : Draft) : Capture where
  header := draft.header
  rules := entry (draft.rules.toList.map Capture.ruleFields)
  nodes := entry (draft.listed.map fun node => Capture.invocationFields node.1 node.2)
  input := .ofText draft.input

/-- The numbers of a draft keep the ranges of the columns into which they are written. -/
structure Writable (draft : Draft) : Prop where
  header : WritableHeader draft.header
  rules : ∀ rule ∈ draft.rules.toList, IntegerRange.signed32.Contains rule.id
  nodes : ∀ node ∈ draft.listed, WritableInvocation node.1 node.2

theorem getElem?_listed_eq_some_iff {place : Nat} {listed : NodeId × Invocation} :
    draft.listed[place]? = some listed ↔
      draft.nodes[place]? = some listed.2 ∧ listed.1 = (place : Int) := by
  rw [Draft.listed, List.getElem?_mapIdx, Array.getElem?_toList, Option.map_eq_some_iff]
  constructor
  · rintro ⟨node, found, rfl⟩
    exact ⟨found, rfl⟩
  · rintro ⟨found, number⟩
    exact ⟨listed.2, found, Prod.ext number.symm rfl⟩

/-- A draft can be written if its numbers have their sizes, since levels and depth are bounded by
the number of invocations. -/
theorem Sound.writable (sound : draft.Sound) (dated : Calendar.HasDate draft.capturedAt)
    (fewRules : draft.rules.size < countLimit) (fewNodes : draft.nodes.size < 2 ^ 31)
    (typed : ∀ node ∈ draft.nodes, node.call.Typed) : draft.Writable := by
  have shallow := sound.depth_le_size
  refine ⟨⟨dated, ?_, ?_, ?_⟩, ?_, ?_⟩
  · simp only [countLimit] at fewRules
    simp only [IntegerRange.Contains, IntegerRange.unsigned64, header]
    omega
  · simp only [IntegerRange.Contains, IntegerRange.unsigned64, header]
    omega
  · simp only [IntegerRange.Contains, IntegerRange.unsigned32]
    omega
  · intro rule declared
    rcases List.mem_iff_getElem?.mp declared with ⟨place, found⟩
    rw [sound.id_eq place rule (by rwa [← Array.getElem?_toList])]
    exact signed32_wrapId place
  · intro listed present
    rcases List.mem_iff_getElem?.mp present with ⟨place, found⟩
    rcases getElem?_listed_eq_some_iff.mp found with ⟨found, number⟩
    have inside : place < draft.nodes.size := (Array.getElem?_eq_some_iff.mp found).1
    have level := sound.level_le found
    have sizes := typed listed.2 (Array.mem_of_getElem? found)
    refine ⟨?_, ?_, ?_, sizes.rule, sizes.start, sizes.stop, sizes.nanos⟩
    · simp only [IntegerRange.Contains, IntegerRange.signed32, number]
      omega
    · intro parent isParent
      rcases sound.hangs place listed.2 found with
        ⟨noParent, _⟩ | ⟨parentPlace, above, earlier, named, _⟩
      · exact absurd (noParent.symm.trans isParent) (by simp)
      · obtain rfl : (parentPlace : Int) = parent :=
          Option.some.inj (named.symm.trans isParent)
        exact ⟨Int.natCast_nonneg parentPlace, (by omega : (parentPlace : Int) ≤ 2147483647)⟩
    · simp only [IntegerRange.Contains, IntegerRange.unsigned32]
      omega

namespace Writable

theorem open?_toArchive (writable : draft.Writable) :
    Capture.open? (.archive draft.toArchive) = .ok draft.capture := by
  have nodes : (draft.nodes.toList.mapIdx fun index node =>
      Capture.invocationFields index node) =
        draft.listed.map fun node => Capture.invocationFields node.1 node.2 := by
    apply List.ext_getElem?
    simp [listed, Option.map_map, Function.comp_def]
  simp only [toArchive, Capture.open?_of_openHeader (Capture.openHeader_entry writable.header),
    nodes]
  rfl

theorem readRules_eq (writable : draft.Writable) :
    draft.capture.readRules = ⟨draft.rules.toList, .ok ()⟩ :=
  Capture.deliver_entry (fun _ _ => ⟨_, _, rfl⟩) fun rule declared =>
    Capture.readRule_ruleFields (writable.rules rule declared)

theorem readInvocations_eq (writable : draft.Writable) :
    draft.capture.readInvocations = ⟨draft.listed, .ok ()⟩ :=
  Capture.deliver_entry (fun _ _ => ⟨_, _, rfl⟩) fun node present =>
    Capture.readInvocation_invocationFields (writable.nodes node present)

end Writable

/-- What was declared and recorded is what the written capture delivers. The input is read if there is
room for its bytes. -/
theorem written_reads_back (dated : Calendar.HasDate capturedAt)
    (typed : ∀ call, Request.node call ∈ requests → call.Typed)
    (taken : (empty capturedAt input).takeAll? requests = some draft)
    (fewRules : draft.rules.size < 2 ^ 31) (fewNodes : draft.nodes.size < 2 ^ 31) :
    ∃ capture, Capture.open? (.archive draft.toArchive) = .ok capture ∧
      capture.header = draft.header ∧
      (capture.inputText = .ok input ∧
        ((Utf8.encode input).length ≤ Capture.maxBytes → capture.readInput = .ok input)) ∧
      (capture.readRules = ⟨draft.rules.toList, .ok ()⟩ ∧
        draft.rules.toList.map Rule.declaration = requests.filterMap Request.declaration? ∧
        ∀ (place : Nat) (rule : Rule), draft.rules[place]? = some rule → rule.id = place) ∧
      capture.readInvocations = ⟨draft.listed, .ok ()⟩ ∧
      draft.listed.map (fun node => node.2.call) = requests.filterMap Request.call? ∧
      ∀ (place : Nat) (node : NodeId × Invocation),
        draft.listed[place]? = some node → node.1 = place := by
  have sound := (sound_empty capturedAt input).takeAll? taken
  have holds := extends_of_takeAll? taken
  have calls : draft.nodes.toList.map Invocation.call = requests.filterMap Request.call? := by
    simpa [empty] using holds.nodes
  have sizes : ∀ node ∈ draft.nodes, node.call.Typed := by
    intro node present
    have recorded : node.call ∈ draft.nodes.toList.map Invocation.call :=
      List.mem_map_of_mem (Array.mem_toList_iff.mpr present)
    rw [calls] at recorded
    rcases List.mem_filterMap.mp recorded with ⟨request, requested, isCall⟩
    cases request with
    | rule declaration => cases isCall
    | node call =>
        obtain rfl := Option.some.inj isCall
        exact typed _ requested
  have writable : draft.Writable :=
    sound.writable (by rwa [holds.capturedAt])
      (Nat.lt_trans fewRules (by decide)) fewNodes sizes
  have stored : draft.capture.input = .ofText input := by
    rw [capture, holds.input]
    rfl
  refine ⟨draft.capture, writable.open?_toArchive, rfl,
    ⟨Capture.inputText_of_ofText stored, Capture.readInput_of_ofText stored⟩,
    ⟨writable.readRules_eq, ?_, ?_⟩, writable.readInvocations_eq, ?_, ?_⟩
  · simpa [empty] using holds.rules
  · intro place rule found
    have inside : place < draft.rules.size := (Array.getElem?_eq_some_iff.mp found).1
    rw [sound.id_eq place rule found, wrapId_eq (by omega)]
  · rw [← calls]
    apply List.ext_getElem?
    simp [listed, Option.map_map, Function.comp_def]
  · intro place node found
    exact (getElem?_listed_eq_some_iff.mp found).2

/-- Requests whose texts need quotes and whose numbers are as large and as small as they get. -/
def extremeRequests : List Request :=
  [.rule ⟨"A;B", .terminal, "say \"x\"\r\n"⟩,
    .rule ⟨"", .custom, " é "⟩,
    .node ⟨none, 1, true, 0, 18446744073709551615, 18446744073709551615⟩,
    .node ⟨some 0, -2147483648, false, 7, 0, 0⟩]

/-- What they put together. -/
def extremeDraft : Draft where
  capturedAt := -1
  input := "\";\n"
  rules := #[⟨0, "A;B", .terminal, "say \"x\"\r\n"⟩, ⟨1, "", .custom, " é "⟩]
  nodes := #[⟨none, 0, 1, true, 0, 18446744073709551615, 18446744073709551615⟩,
    ⟨some 0, 1, -2147483648, false, 7, 0, 0⟩]

theorem extremeDraft_reads_back :
    (empty (-1) "\";\n").takeAll? extremeRequests = some extremeDraft ∧
      ∃ capture, Capture.open? (.archive extremeDraft.toArchive) = .ok capture ∧
        capture.readInput = .ok "\";\n" ∧
        capture.readRules = ⟨extremeDraft.rules.toList, .ok ()⟩ ∧
        capture.readInvocations = ⟨extremeDraft.listed, .ok ()⟩ := by
  have typed : ∀ call, Request.node call ∈ extremeRequests → call.Typed := by
    intro call requested
    simp only [extremeRequests, List.mem_cons, reduceCtorEq, Request.node.injEq, List.not_mem_nil,
      or_false, false_or] at requested
    rcases requested with rfl | rfl <;> exact ⟨by decide, by decide, by decide, by decide⟩
  have taken : (empty (-1) "\";\n").takeAll? extremeRequests = some extremeDraft := by
    decide +kernel
  rcases written_reads_back (by decide) typed taken (by decide) (by decide) with
    ⟨capture, opened, _, ⟨_, text⟩, ⟨rules, _⟩, nodes, _⟩
  exact ⟨taken, capture, opened, text (by decide +kernel), rules, nodes⟩

end Draft

end ParseTrace
