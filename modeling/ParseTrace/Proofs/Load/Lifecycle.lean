import ParseTrace.Proofs.Capture.Written
import ParseTrace.Proofs.Load.History
import ParseTrace.Proofs.Store.Exhaustion
import ParseTrace.Proofs.Store.Interruption

/-!
# The load of a store

Of all that is done to a store only loading a capture in the background moves the state of its load,
and only the first time. Appending does not, and neither does loading a capture directly, although
both store records and count them. The first background load ends in one of the two final states, for
it crashes only if there is no room for a batch or no number is left. Every background load after it
finds the state moved and leaves the store alone.
-/

namespace ParseTrace

namespace Store

variable {store : Store} {capture : Capture} {batchSize : Nat}

theorem state_report {action : Tracker.Action} {state : LoadState}
    (moves : Tracker.transition? store.tracker.state action = some state) :
    (store.report action).tracker.state = state :=
  (Tracker.apply_eq_some moves).2

/-- The first background load ends in one of the two final states, as its ingestion ends. -/
theorem load_decides (sound : store.Sound) (waiting : store.tracker.state = .notStarted)
    (fits : max batchSize 1 ≤ maxBatch)
    (room : (store.load capture batchSize).2.nodes.size < 2 ^ 31) :
    (∃ summary, ((store.report .start).ingest capture batchSize false).1 = .ok summary ∧
      (store.load capture batchSize).2.tracker.state = .ready) ∨
    ∃ error, ((store.report .start).ingest capture batchSize false).1 = .error error ∧
      (store.load capture batchSize).2.tracker.state = .failed error.message := by
  have reached : Reaches store (store.load capture batchSize).2 :=
    (writes_load capture batchSize).reaches
  have written := (sound.reaches reached room).described
  have loading : (store.report .start).tracker.state = .loading :=
    state_report (by rw [waiting]; rfl)
  have same : ((store.report .start).ingest capture batchSize false).2.tracker.state = .loading :=
    (appends_ingest capture batchSize).state_eq.trans loading
  rw [load_of_notStarted waiting] at written ⊢
  rcases ingested : (store.report .start).ingest capture batchSize false with ⟨result, after⟩
  rw [ingested] at written same
  cases result with
  | ok summary => exact Or.inl ⟨summary, rfl, state_report (by rw [same]; rfl)⟩
  | error error => exact Or.inr ⟨error, rfl, state_report (by rw [same]; rfl)⟩
  | crash crash =>
      rcases ingest_eq_crash ingested with tooLarge | lost
      · exact absurd fits (Nat.not_le.mpr tooLarge)
      · rcases written with ⟨writer, isThere, _⟩
        cases isThere.symm.trans lost

end Store

namespace Operation

variable {input : InputText} {store : Store} {operation : Operation} {operations : List Operation}

/-- Whether an operation loads a capture in the background, which takes one that can be opened. -/
def Spawns : Operation → Prop
  | load file _ => ∃ capture, Capture.open? file = .ok capture
  | _ => False

/-- Nothing else moves the state of a load. -/
theorem state_run (typed : operation.Typed) (direct : ¬operation.Spawns) :
    (operation.run input store).2.tracker.state = store.tracker.state := by
  rcases run_cases input store typed with
    appends | broken | closed | ⟨file, batchSize, capture, rfl, opened, _⟩
  · exact Store.Appends.state_eq appends
  · rw [broken]
    rfl
  · rw [closed, Store.close_snd]
  · exact absurd ⟨capture, opened⟩ direct

theorem run_load {file : CaptureFile} {capture : Capture} (opened : Capture.open? file = .ok capture)
    (batchSize : Nat) :
    (load file batchSize).run input store =
      reply (fun _ => .flag true) (store.load capture batchSize) := by
  rw [run, opened]

/-- Once a load has started, every background load leaves the store alone. -/
theorem run_load_of_started {file : CaptureFile} {capture : Capture}
    (started : store.tracker.state ≠ .notStarted) (opened : Capture.open? file = .ok capture)
    (batchSize : Nat) : (load file batchSize).run input store = (.ok (.flag true), store) := by
  rw [run_load opened, Store.load_of_started started]
  rfl

theorem state_run_of_started (typed : operation.Typed)
    (started : store.tracker.state ≠ .notStarted) :
    (operation.run input store).2.tracker.state = store.tracker.state := by
  by_cases spawns : operation.Spawns
  · cases operation with
    | load file batchSize =>
        rcases spawns with ⟨capture, opened⟩
        rw [run_load_of_started started opened]
    | _ => exact absurd spawns id
  · exact state_run typed spawns

/-- Whatever is done to a store whose load has started, the state of the load stays. -/
theorem state_runAll_of_started (typed : ∀ operation ∈ operations, operation.Typed)
    (started : store.tracker.state ≠ .notStarted) :
    (runAll input store operations).tracker.state = store.tracker.state := by
  induction operations generalizing store with
  | nil => rfl
  | cons operation rest ih =>
      rw [List.forall_mem_cons] at typed
      have same : (operation.run input store).2.tracker.state = store.tracker.state :=
        state_run_of_started typed.1 started
      exact (ih typed.2 (by rwa [same])).trans same

theorem state_runAll (typed : ∀ operation ∈ operations, operation.Typed)
    (direct : ∀ operation ∈ operations, ¬operation.Spawns) :
    (runAll input store operations).tracker.state = store.tracker.state := by
  induction operations generalizing store with
  | nil => rfl
  | cons operation rest ih =>
      rw [List.forall_mem_cons] at typed direct
      exact (ih typed.2 direct.2).trans (state_run typed.1 direct.1)

/-- The state of a load over a run of its store. It has not started before the first background load.
That one decides it, whatever is done later: the load is ready if its ingestion succeeded, and
otherwise it failed with the message of the error. Every later background load leaves the whole store
as it is, and no other operation moves the state of any store. -/
theorem first_load_decides (input : InputText) (label : String) (header : Header)
    (before : List Operation) (typed : ∀ operation ∈ before, operation.Typed)
    (direct : ∀ operation ∈ before, ¬operation.Spawns) :
    let store := runAll input (.create label header) before
    store.tracker.state = .notStarted ∧
    (∀ (file : CaptureFile) (batchSize : Nat) (capture : Capture) (later : List Operation),
      Capture.open? file = .ok capture → max batchSize 1 ≤ Store.maxBatch →
      (∀ operation ∈ later, operation.Typed) →
      let ingested := (store.report .start).ingest capture batchSize false
      let after := runAll input (.create label header) (before ++ load file batchSize :: later)
      after.nodes.size < 2 ^ 31 →
      ((∃ summary, ingested.1 = .ok summary ∧ after.tracker.state = .ready) ∨
        ∃ error, ingested.1 = .error error ∧ after.tracker.state = .failed error.message) ∧
      ∀ (other : CaptureFile) (otherSize : Nat) (otherCapture : Capture),
        Capture.open? other = .ok otherCapture →
        (load other otherSize).run input after = (.ok (.flag true), after)) ∧
    ∀ (operation : Operation) (any : Store), operation.Typed → ¬operation.Spawns →
      (operation.run input any).2.tracker.state = any.tracker.state := by
  intro store
  have waiting : store.tracker.state = .notStarted := state_runAll typed direct
  refine ⟨waiting, ?_, fun _ _ => state_run⟩
  intro file batchSize capture later opened fits laterTyped ingested after few
  have afterEq : after = runAll input (store.load capture batchSize).2 later := by
    have loaded : ((load file batchSize).run input store).2 = (store.load capture batchSize).2 := by
      rw [run_load opened]
      rfl
    rw [← loaded]
    exact runAll_append before (load file batchSize :: later)
  have reached : Store.Reaches (store.load capture batchSize).2 after := by
    rw [afterEq]
    exact reaches_runAll laterTyped
  have room := Nat.lt_of_le_of_lt reached.size_le few
  have sound : store.Sound :=
    Store.Reachable.sound ⟨input, label, header, before, typed, rfl⟩
      (Nat.lt_of_le_of_lt (Store.writes_load capture batchSize).reaches.size_le room)
  have decided := Store.load_decides sound waiting fits room
  have final : (store.load capture batchSize).2.tracker.state ≠ .notStarted := by
    rcases decided with ⟨_, _, state⟩ | ⟨_, _, state⟩
    · rw [state]
      nofun
    · rw [state]
      nofun
  have same : after.tracker.state = (store.load capture batchSize).2.tracker.state := by
    rw [afterEq]
    exact state_runAll_of_started laterTyped final
  rw [← same] at decided final
  exact ⟨decided, fun _ otherSize _ otherOpened => run_load_of_started final otherOpened otherSize⟩

/-- An archive whose third invocation is listed under a wrong number. -/
def misnumberedFile : CaptureFile :=
  .archive
    { info := some (.ofText "0;1;3;2\n"), rules := some Store.misnumberedCapture.rules
      nodes := some Store.misnumberedCapture.nodes, input := some (.ofText "") }

theorem open?_misnumberedFile : Capture.open? misnumberedFile = .ok Store.misnumberedCapture :=
  Capture.open?_of_openHeader (by decide +kernel) _ _ _

/-- A run that loads this archive in the background, behind a rule that was declared before and in
front of a second load. -/
theorem misnumbered_load_decides :
    let start := runAll (.ofString "12") (.create "t" ⟨0, 1, 3, 2⟩)
      [.appendRule ⟨8, "AnyMatcher", .terminal, "Letter"⟩]
    let after := runAll (.ofString "12") (.create "t" ⟨0, 1, 3, 2⟩)
      [.appendRule ⟨8, "AnyMatcher", .terminal, "Letter"⟩, .load misnumberedFile 2, .close]
    start.tracker.state = .notStarted ∧
      (∃ error, ((start.report .start).ingest Store.misnumberedCapture 2 false).1 = .error error ∧
        after.tracker.state = .failed error.message) ∧
      (load misnumberedFile 1).run (.ofString "12") after = (.ok (.flag true), after) := by
  intro start after
  have direct : ∀ operation ∈ [Operation.appendRule ⟨8, "AnyMatcher", .terminal, "Letter"⟩],
      ¬operation.Spawns := List.forall_mem_singleton.mpr id
  rcases first_load_decides (.ofString "12") "t" ⟨0, 1, 3, 2⟩
    [.appendRule ⟨8, "AnyMatcher", .terminal, "Letter"⟩] (by decide) direct with
    ⟨waiting, decided, _⟩
  rcases decided misnumberedFile 2 Store.misnumberedCapture [.close] open?_misnumberedFile
    (by decide) (by decide) (by decide +kernel) with ⟨⟨summary, loaded, _⟩ | failed, others⟩
  · have refused : ((start.report .start).ingest Store.misnumberedCapture 2 false).1 =
        .error (.corrupt (.unexpectedNode 2 3)) := by decide +kernel
    rw [refused] at loaded
    cases loaded
  · exact ⟨waiting, failed, others misnumberedFile 1 Store.misnumberedCapture open?_misnumberedFile⟩

end Operation

end ParseTrace
