import ParseTrace.Capture.Visit
import ParseTrace.Proofs.Capture.Grammar

/-!
# Visiting invocations up to the first bad record

Which invocations are delivered, and how delivery ends, can be told from the grammar of the records
and from whether the entry breaks off behind them. A visitor is handed the same items. If it accepts
them all, the end is the end of delivery, and otherwise the error of the first visit that fails.
-/

namespace ParseTrace.Capture

open Delimited (RawRecord)

variable {α ε σ : Type} {entry : Entry} {read : Fields → Except RecordFault α} {index : Nat}
  {records : List RawRecord} {items : List α} {item : α} {ending : Except CaptureError Unit}

/-- Invocations are delivered up to the first record that lists none, and this record is what
delivery ends with. -/
structure DeliversUpToFirstBad (contents : Contents)
    (delivery : Delivery (NodeId × Invocation)) : Prop where
  items : List.Forall₂ RecordLists (contents.records.take delivery.items.length) delivery.items
  bad : ∀ record, contents.records[delivery.items.length]? = some record →
    ¬∃ item, RecordLists record item
  ending_ok : delivery.ending = .ok () ↔
    contents.fault = none ∧ ∀ record ∈ contents.records, ∃ item, RecordLists record item
  /-- If the bad record is no text, delivery ends with a malformed field. -/
  malformed : ∀ record, contents.records[delivery.items.length]? = some record →
    (¬∃ fields, HasTexts record fields) →
      ∃ place, delivery.ending = .error (.malformedField .nodes place)
  /-- Otherwise the record is invalid, and its number counts those that were delivered and itself. -/
  invalid : ∀ record fields, contents.records[delivery.items.length]? = some record →
    HasTexts record fields →
      ∃ fault, delivery.ending = .error (.invalidRecord .nodes (delivery.items.length + 1) fault)
  /-- If no record is bad, delivery ends with what breaks the entry off. -/
  brokenOff : ∀ fault, contents.fault = some fault →
    delivery.items.length = contents.records.length →
      delivery.ending = .error (.brokenOff .nodes fault)

/-- Visits items one after the other until a visit fails. -/
def visitAll (visit : α → σ → Except ε Unit × σ) : List α → σ → Except ε Unit × σ
  | [], state => (.ok (), state)
  | item :: rest, state =>
      match visit item state with
      | (.error error, state) => (.error error, state)
      | (.ok (), state) => visitAll visit rest state

/-- Delivery of invocations goes by the grammar of their records. -/
theorem deliversUpToFirstBad (capture : Capture) :
    DeliversUpToFirstBad capture.nodes capture.readInvocations where
  items := by
    refine (forall₂_deliver .nodes readInvocation capture.nodes).imp ?_
    rintro record item ⟨number, interpreted⟩
    exact interpret_readInvocation_eq_ok_iff.mp interpreted
  bad := by
    rintro record next ⟨item, lists⟩
    rcases ending_deliverAfter next with ⟨error, failed, _⟩
    rw [interpret_readInvocation_eq_ok_iff.mpr lists] at failed
    cases failed
  ending_ok := by
    refine deliver_ending_iff.trans (and_congr_right fun _ => forall₂_congr fun record _ => ?_)
    rw [interpretable_iff 1]
    exact exists_congr fun item => interpret_readInvocation_eq_ok_iff
  malformed := by
    intro record next noTexts
    rcases ending_deliverAfter next with ⟨error, failed, ended⟩
    rcases malformed_of_noTexts noTexts failed with ⟨place, rfl⟩
    exact ⟨place, ended⟩
  invalid := by
    intro record fields next texts
    rcases ending_deliverAfter next with ⟨error, failed, ended⟩
    -- The first record has the number one.
    rcases invalid_of_hasTexts texts failed with ⟨fault, rfl⟩
    rw [Nat.add_comm] at ended
    exact ⟨fault, ended⟩
  brokenOff := by
    intro fault broken all
    have ended : capture.readInvocations.ending = capture.nodes.ending .nodes :=
      ending_deliverAfter_of_length_eq all
    rw [ended, Contents.ending, broken]

/-- A visitor of records is handed the items that are delivered. -/
theorem visitFrom_eq {lift : CaptureError → ε} {visit : α → σ → Except ε Unit × σ} {state : σ} :
    visitFrom entry read ending lift visit index state records =
      match visitAll visit (deliverAfter entry read ending [] index records).items state with
      | (.error error, last) => (.error error, last)
      | (.ok (), last) =>
          ((deliverAfter entry read ending [] index records).ending.mapError lift, last) := by
  induction records generalizing index state with
  | nil => rfl
  | cons record rest ih =>
      rw [visitFrom]
      cases outcome : interpret entry read index record with
      | error error =>
          rw [deliverAfter_of_error outcome]
          rfl
      | ok item =>
          rw [deliverAfter_of_ok outcome]
          dsimp only
          rw [visitAll]
          rcases visited : visit item state with ⟨_ | _, next⟩
          · rfl
          · exact ih

theorem visitAll_of_accepting {visit : α → σ → Except ε Unit × σ} {state : σ}
    (accepts : ∀ item ∈ items, ∀ state, (visit item state).1 = .ok ()) :
    visitAll visit items state =
      (.ok (), items.foldl (fun state item => (visit item state).2) state) := by
  induction items generalizing state with
  | nil => rfl
  | cons item rest ih =>
      rw [List.forall_mem_cons] at accepts
      have accepted : visit item state = (.ok (), (visit item state).2) :=
        Prod.ext (accepts.1 state) rfl
      rw [visitAll, accepted]
      exact ih accepts.2

/-- The first visit that fails is the last one. -/
theorem visitAll_of_refused {visit : α → σ → Except ε Unit × σ} {state reached last : σ}
    {before after : List α} {error : ε} (accepted : visitAll visit before state = (.ok (), reached))
    (refused : visit item reached = (.error error, last)) :
    visitAll visit (before ++ item :: after) state = (.error error, last) := by
  induction before generalizing state with
  | nil =>
      cases accepted
      rw [List.nil_append, visitAll, refused]
  | cons first rest ih =>
      rw [visitAll] at accepted
      rw [List.cons_append, visitAll]
      rcases visited : visit first state with ⟨_ | _, next⟩
      · rw [visited] at accepted
        cases accepted
      · rw [visited] at accepted
        exact ih accepted

/-- Invocations are delivered up to the first record that lists none. A visitor that accepts them is
handed each, and the end of the visits is the end of delivery. If a visit fails, its error is the
end, and nothing else is visited. -/
theorem invocations_visited_up_to_first_bad (capture : Capture) :
    DeliversUpToFirstBad capture.nodes capture.readInvocations ∧
    ∀ {ε σ : Type} (lift : CaptureError → ε)
      (visit : NodeId × Invocation → σ → Except ε Unit × σ) (state : σ),
      ((∀ item ∈ capture.readInvocations.items, ∀ state, (visit item state).1 = .ok ()) →
        capture.forEachInvocation lift visit state =
          (capture.readInvocations.ending.mapError lift,
            capture.readInvocations.items.foldl (fun state item => (visit item state).2) state)) ∧
      ∀ before item after reached error last,
        capture.readInvocations.items = before ++ item :: after →
        visitAll visit before state = (.ok (), reached) →
        visit item reached = (.error error, last) →
          capture.forEachInvocation lift visit state = (.error error, last) := by
  refine ⟨deliversUpToFirstBad capture, ?_⟩
  intro ε σ lift visit state
  have visits : capture.forEachInvocation lift visit state =
      match visitAll visit capture.readInvocations.items state with
      | (.error error, last) => (.error error, last)
      | (.ok (), last) => (capture.readInvocations.ending.mapError lift, last) := visitFrom_eq
  constructor
  · intro accepts
    rw [visits, visitAll_of_accepting accepts]
  · intro before item after reached error last delivered accepted refused
    rw [visits, delivered, visitAll_of_refused accepted refused]

/-- A capture whose second record holds a padded number, one with a sign and a ninth field, and
whose third record has no valid flag. -/
def flaggedCapture : Capture where
  header := ⟨0, 1, 3, 2⟩
  rules := .ofText "7;AnyMatcher;TERMINAL;Digit"
  nodes := .ofText "-7;0;0;1;7;0;2;500\n 0 ;+1;1;0;7;0;1;20;more\n0;2;1;2;7;1;2;30"
  input := .ofText ""

/-- What the records before the third list. -/
def flaggedItems : List (NodeId × Invocation) :=
  [(0, ⟨none, 0, 7, true, 0, 2, 500⟩), (1, ⟨some 0, 1, 7, false, 0, 1, 20⟩)]

theorem flaggedCapture_visited :
    flaggedCapture.forEachInvocation some (fun item seen => (.ok (), seen ++ [item])) [] =
        (.error (some (.invalidRecord .nodes 3 (.badSuccessFlag 2))), flaggedItems) ∧
      flaggedCapture.forEachInvocation some
          (fun item count => (if item.1 = 1 then .error none else .ok (), count + 1)) 0 =
        (.error none, 2) := by
  rcases invocations_visited_up_to_first_bad flaggedCapture with ⟨_, visits⟩
  have delivered : flaggedCapture.readInvocations.items = flaggedItems := by decide +kernel
  have ended : flaggedCapture.readInvocations.ending =
      .error (.invalidRecord .nodes 3 (.badSuccessFlag 2)) := by decide +kernel
  constructor
  · rw [(visits some _ []).1 fun _ _ _ => rfl, delivered, ended]
    rfl
  · exact (visits some _ 0).2 [_] _ [] 1 none 2 delivered rfl rfl

end ParseTrace.Capture
