import ParseTrace.Proofs.Load.Lifecycle
import ParseTrace.Proofs.Load.Watching
import ParseTrace.Proofs.Refresh.Barrier
import ParseTrace.Proofs.Session.Closing

/-!
# Shutting a session down

Whatever goes wrong while a session is closed becomes a report, and the session is closed all the same.
So the first closing tells by its answer whether it made reports, and every further one makes none. From
then on the store refuses to be read, and nobody waits for the load any more. A load that has ended stays
as it is, since views can only report on it and background loads come too late.

All this is said of a session that is used in any way: by requests to it, and by operations on its store
behind its back.
-/

namespace ParseTrace

namespace Coordinator

variable {state : Coordinator}

/-- A refresh changes a load only by reports. -/
theorem Settled.exists_reports (settled : state.Settled) :
    ∃ reports, state.refreshAll.2.tracker = state.tracker.applyAll reports := by
  cases refreshing : state.refreshing with
  | true =>
      rw [Coordinator.refreshAll, refreshWithin_of_refreshing 1 refreshing]
      exact ⟨[], rfl⟩
  | false =>
      rcases refreshAll_snd refreshing with ⟨refreshing, same, _⟩
      rw [same]
      exact ⟨_, settled.passes_atBarrier.told⟩

end Coordinator

namespace Session

/-- A use of a session: a request to it, or an operation on its store behind its back. -/
inductive Use where
  | ask (request : Request)
  | operate (operation : Operation)

/-- Whether the rules that a use declares have identifiers of 32 bits. -/
def Use.Typed : Use → Prop
  | .ask _ => True
  | .operate operation => operation.Typed

/-- The session after a use. -/
def use (session : Session) : Use → Session
  | .ask request => (session.run request).2
  | .operate operation =>
      { session with store := (operation.run session.input session.store).2 }

/-- The session after some uses. -/
def useAll (session : Session) (uses : List Use) : Session :=
  uses.foldl use session

variable {files : FileTree CaptureFile} {settings : Settings} {path : String} {session : Session}
  {state : LoadState} {uses : List Use}

/-- What every use keeps is kept throughout. -/
theorem holds_useAll (Holds : Session → Prop)
    (keeps : ∀ session, Holds session → ∀ used : Use, used.Typed → Holds (session.use used))
    (holds : Holds session) (typed : ∀ used ∈ uses, used.Typed) : Holds (session.useAll uses) := by
  induction uses generalizing session with
  | nil => exact holds
  | cons used rest ih =>
      rw [List.forall_mem_cons] at typed
      exact ih (keeps session holds used typed.1) typed.2

/-- What closing leaves behind. -/
structure Released (session : Session) : Prop where
  closed : session.closed = true
  storeClosed : session.store.closed = true
  unwatched : session.unwatched = true

theorem released_close (isOpen : session.closed = false) : session.close.2.Released := by
  rw [close, if_neg (by simp [isOpen])]
  refine ⟨rfl, ?_, rfl⟩
  change session.store.close.2.closed = true
  rw [Store.close_snd]

theorem close_of_closed (closed : session.closed = true) :
    session.close = (⟨true, []⟩, session) := by
  rw [close, if_pos closed]

namespace Released

theorem run (released : session.Released) (request : Request) :
    (session.run request).2.Released := by
  cases request with
  | close =>
      rw [Session.run, close_of_closed released.closed]
      exact released
  | _ => exact ⟨released.closed, released.storeClosed, released.unwatched⟩

theorem use (released : session.Released) {used : Use} (typed : used.Typed) :
    (session.use used).Released := by
  cases used with
  | ask request => exact released.run request
  | operate operation =>
      exact ⟨released.closed, (Operation.reaches_run typed).persistsIn.closed released.storeClosed,
        released.unwatched⟩

theorem useAll (released : session.Released) (typed : ∀ used ∈ uses, used.Typed) :
    (session.useAll uses).Released :=
  holds_useAll Released (fun _ released _ => released.use) released typed

end Released

/-- A session on a load that has ended, with a coordinator that does not disturb it. -/
structure Loaded (session : Session) (state : LoadState) : Prop where
  state_eq : session.store.tracker.state = state
  settled : session.coordinator.Settled

theorem settled_of_openFile (opened : openFile files settings path = .ok session) :
    session.coordinator.Settled := by
  rcases exists_start_of_openFile opened with ⟨_, _, _, _, _, rfl⟩
  exact ⟨nofun, rfl⟩

namespace Loaded

theorem run (loaded : session.Loaded state) (isFinal : state.isFinal = true) (request : Request) :
    (session.run request).2.Loaded state := by
  rcases loaded with ⟨state_eq, settled⟩
  cases request with
  | register view => exact ⟨state_eq, settled.step (.register view)⟩
  | unregister id => exact ⟨state_eq, settled.step (.unregister id)⟩
  | refresh =>
      have current : Coordinator.Settled
          { session.coordinator with tracker := session.store.tracker } :=
        settled.step (.load session.store.tracker)
      refine ⟨?_, (current.refreshAll).step .takeLog⟩
      rcases current.exists_reports with ⟨reports, told⟩
      change (Coordinator.refreshAll
        { session.coordinator with tracker := session.store.tracker }).2.tracker.state = state
      rw [told, Tracker.state_applyAll_of_isFinal (by rwa [state_eq]), state_eq]
  | close =>
      change session.close.2.Loaded state
      rw [Session.close]
      split
      · exact ⟨state_eq, settled⟩
      · refine ⟨?_, settled⟩
        change session.store.close.2.tracker.state = state
        rw [Store.close_snd, state_eq]
  | _ => exact ⟨state_eq, settled⟩

theorem use (loaded : session.Loaded state) (isFinal : state.isFinal = true) {used : Use}
    (typed : used.Typed) : (session.use used).Loaded state := by
  cases used with
  | ask request => exact loaded.run isFinal request
  | operate operation =>
      have started : session.store.tracker.state ≠ .notStarted := by
        rw [loaded.state_eq]
        rintro rfl
        cases isFinal
      exact ⟨(Operation.state_run_of_started typed started).trans loaded.state_eq, loaded.settled⟩

theorem useAll (loaded : session.Loaded state) (isFinal : state.isFinal = true)
    (typed : ∀ used ∈ uses, used.Typed) : (session.useAll uses).Loaded state :=
  holds_useAll (fun current => current.Loaded state) (fun _ loaded _ => loaded.use isFinal) loaded
    typed

end Loaded

/-- The report on a load that crashed. -/
def crashReports (session : Session) : List Report :=
  match session.loading with
  | .ok () => []
  | .error cause => [⟨"Unable to stop trace loading", cause⟩]

/-- The report on a store whose directory was lost before it was closed. -/
def lossReports (session : Session) : List Report :=
  if session.store.closed = true ∨ session.store.intact = true then []
  else [⟨s!"Unable to close trace {session.path}", .storage .directoryNotRemoved⟩]

theorem close_fst (isOpen : session.closed = false) :
    session.close.1 = ⟨(session.crashReports ++ session.lossReports).isEmpty,
      session.crashReports ++ session.lossReports⟩ := by
  rw [close, if_neg (by simp [isOpen]), Store.close, lossReports, crashReports]
  cases session.loading with
  | error cause => cases session.store.closed <;> cases session.store.intact <;> rfl
  | ok _ => cases session.store.closed <;> cases session.store.intact <;> rfl

/-- A watch on a load that has failed tells why, without a sample. -/
theorem watchLoad_of_failed {message : String}
    (failed : session.store.tracker.state = .failed message) (bound : Nat) :
    (session.watchLoad bound).1 = .ended .failed ∧
      (session.watchLoad bound).2.events =
        [.started (session.store.header.totalRecords?.getD 0), .failed message] := by
  have notReady : session.store.tracker.state ≠ .ready := by simp [failed]
  rw [watchLoad, Watch.poll_of_notReady bound notReady, failed, Watch.sample_failed]
  exact ⟨rfl, rfl⟩

/-- A watch on any other load of a closed session is cancelled before the first sample. -/
theorem Released.watchLoad_of_running (released : session.Released)
    (running : session.store.tracker.state.isFinal = false) (bound : Nat) :
    (session.watchLoad bound).1 = .ended .cancelled ∧
      (session.watchLoad bound).2.events =
        [.started (session.store.header.totalRecords?.getD 0)] := by
  have notReady : session.store.tracker.state ≠ .ready := by
    intro ready
    rw [ready] at running
    cases running
  rw [watchLoad, Watch.poll_of_notReady bound notReady,
    Watch.sample_of_running _ _ running]
  simp [Watch.behind, Watched.after, Listener.heard, told, Watched.applyAll, released.unwatched]

/-- Closing a session, which was opened and then used in any way and not closed. The closing is clean
unless it makes a report, on a load that crashed or on a store whose directory was lost, and whatever
it comes to, the session and its store are closed for good and nobody waits for the load any more. So in
all that is done later the store refuses to be read and closing again does nothing and reports nothing.
Watching the load takes no sample then: it ends at once if the load was ready when the session was
opened, with the cause if the load had failed, and otherwise it is cancelled unless the load has ended
in the meantime. -/
theorem first_closing_reports_once (opened : openFile files settings path = .ok session)
    (uses : List Use) (typed : ∀ used ∈ uses, used.Typed)
    (isOpen : (session.useAll uses).closed = false) :
    let current := session.useAll uses
    let closing := current.close.1
    (closing.clean = false ↔ closing.reports ≠ []) ∧
    closing.reports = current.crashReports ++ current.lossReports ∧
    ∀ later : List Use, (∀ used ∈ later, used.Typed) →
      let last := current.close.2.useAll later
      last.closed = true ∧ last.store.closed = true ∧ last.unwatched = true ∧
      (∀ query : Query, query.ReadsStorage last.input →
        last.run (.ask query) = (.error .closed, last)) ∧
      last.run .close = (.ok (.closed ⟨true, []⟩), last) ∧
      (session.store.tracker.state = .ready → ∀ bound,
        (last.watchLoad bound).1 = .ended .alreadyReady ∧ (last.watchLoad bound).2.events = []) ∧
      (∀ message, session.store.tracker.state = .failed message → ∀ bound,
        (last.watchLoad bound).1 = .ended .failed ∧ (last.watchLoad bound).2.events =
          [.started (last.store.header.totalRecords?.getD 0), .failed message]) ∧
      (last.store.tracker.state.isFinal = false → ∀ bound,
        (last.watchLoad bound).1 = .ended .cancelled ∧ (last.watchLoad bound).2.events =
          [.started (last.store.header.totalRecords?.getD 0)]) := by
  intro current closing
  have came : closing = _ := close_fst isOpen
  refine ⟨by rw [came]; simp, by rw [came], ?_⟩
  intro later laterTyped last
  have released : last.Released := (released_close isOpen).useAll laterTyped
  have loaded {state : LoadState} (ended : session.store.tracker.state = state)
      (isFinal : state.isFinal = true) : last.store.tracker.state = state := by
    have atFirst : session.Loaded state := ⟨ended, settled_of_openFile opened⟩
    have closed : current.close.2.Loaded state := (atFirst.useAll isFinal typed).run isFinal .close
    exact (closed.useAll isFinal laterTyped).state_eq
  refine ⟨released.closed, released.storeClosed, released.unwatched, ?_, ?_, ?_, ?_, ?_⟩
  · intro query reads
    rw [run, Query.answer_of_closed released.storeClosed reads]
    rfl
  · rw [run, close_of_closed released.closed]
  · intro ready bound
    rw [watchLoad, Watch.poll_of_ready bound (loaded ready rfl)]
    exact ⟨rfl, rfl⟩
  · intro message failed
    exact watchLoad_of_failed (loaded failed rfl)
  · exact released.watchLoad_of_running

/-- A trace that cannot be loaded, since its second invocation is listed under a wrong number. -/
def misnumberedTrace : FileTree CaptureFile :=
  singleFile
    { info := some (.ofText "0;1;2;2\n")
      rules := some (.ofText "0;CharMatcher;TERMINAL;Letter\n")
      nodes := some (.ofText "-1;0;0;1;0;0;2;5\n0;7;1;1;0;0;1;3\n")
      input := some (.ofText "ab") }

theorem lost_directory_is_reported_once :
    ∃ session, openFile misnumberedTrace .defaults "t" = .ok session ∧
      (session.use (.ask .breakStorage)).close.1.clean = false ∧
      let last := (session.use (.ask .breakStorage)).close.2.use (.ask .refresh)
      last.run .close = (.ok (.closed ⟨true, []⟩), last) ∧
      (last.watchLoad 0).1 = .ended .failed ∧
      last.run (.ask (.node 0)) = (.error .closed, last) := by
  have readable : Capture.openHeader (.ofText "0;1;2;2\n") = .ok ⟨0, 1, 2, 2⟩ := by
    decide +kernel
  rcases exists_of_singleFile readable (by decide) "0;CharMatcher;TERMINAL;Letter\n"
    "-1;0;0;1;0;0;2;5\n0;7;1;1;0;0;1;3\n" "ab" (by decide) with ⟨session, opened, _, store⟩
  have isOpen : session.closed = false := by
    rcases exists_of_openFile opened with ⟨_, _, _, _, _, _, _, isOpen⟩
    exact isOpen
  have failed : session.store.tracker.state =
      .failed (TraceError.corrupt (.unexpectedNode 1 7)).message := by
    rw [store]
    decide +kernel
  rcases first_closing_reports_once opened [.ask .breakStorage]
    (List.forall_mem_singleton.mpr trivial) isOpen with ⟨told, reports, later⟩
  rcases later [.ask .refresh] (List.forall_mem_singleton.mpr trivial) with
    ⟨_, _, _, refuses, again, _, watched, _⟩
  refine ⟨session, opened, told.mpr ?_, again, (watched _ failed 0).1, refuses (.node 0) trivial⟩
  have lost : (session.useAll [.ask .breakStorage]).lossReports ≠ [] := by
    have storeOpen : session.store.closed = false := isOpen_of_openFile opened
    rw [lossReports, if_neg (by simp [useAll, use, run, breakStorage, Store.breakStorage, storeOpen])]
    exact List.cons_ne_nil _ _
  rw [reports]
  exact List.append_ne_nil_of_right_ne_nil _ lost

end Session

end ParseTrace
