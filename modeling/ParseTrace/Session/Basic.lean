import ParseTrace.Input.Fragments
import ParseTrace.Load.Poll
import ParseTrace.Refresh
import ParseTrace.Settings
import ParseTrace.Store.Creation
import ParseTrace.Store.Operation
import ParseTrace.Text.Literal

/-!
# Sessions

A session ties a capture file to the store that it is loaded into, to the parsed input, and to
those who want to hear of the load or to be refreshed. Opening one checks the file, reads what the
capture holds besides records and starts the load; a session is looked at once that has ended.

A session is closed once, whatever goes wrong then. Faults without a caller become reports.
-/

namespace ParseTrace

/-- A fault that no caller handles, with what went wrong because of it. -/
structure Report where
  message : String
  cause : TraceError
  deriving DecidableEq, Repr

namespace Report

/-- The title of a report is that of its cause. -/
def title (report : Report) : String :=
  report.cause.title

end Report

/-- An open or closed session. -/
structure Session where
  /-- The capture file. -/
  path : String
  store : Store
  input : InputText
  /-- The names of those who hear the events of a watched load. -/
  listeners : Subscribers String
  coordinator : Coordinator
  /-- Whether watching the load is to end. -/
  unwatched : Bool
  /-- How the background load ended. -/
  loading : Except TraceError Unit
  closed : Bool

namespace Session

/-- An open session on a new store, into which a capture is loaded. -/
def start (path text : String) (capture : Capture) (store : Store) (batchSize : Nat) : Session :=
  let (loading, store) := store.load capture batchSize
  { path, store, loading
    input := .ofString text
    listeners := .new
    coordinator := .new store.tracker
    unwatched := false
    closed := false }

/-- Opens a capture file and loads it in the background. Opening crashes if the archive announces more
bytes for the input than there can be room for. It also crashes if the sum of the announced counts is
no count, because they are added up as soon as the load has begun. -/
def openFile (files : FileTree CaptureFile) (settings : Settings) (path : String) :
    Outcome Session :=
  match files.locate path with
  | .missing => .error (.fileNotFound path)
  | .directory => .error (.notReadable path)
  | .unreadable => .error (.notReadable path)
  | .file file => do
      let capture ← .ofExcept ((Capture.open? file).mapError .ofCapture)
      let text ← capture.readInput
      let store ← .ofExcept (Store.createIn files settings.tempDirectory path capture.header)
      let _ ← .ofChecked capture.header.totalRecords?
      return start path text capture store settings.batchSize

/-- The input around the match of a node, or around the place where it failed. -/
def nodeFragments (session : Session) (id : NodeId) : Except TraceError Fragments := do
  let node ← session.store.getNode id
  return if node.success then session.input.successFragments node.start node.stop
    else session.input.failureFragments node.stop

/-- Watches the load, with a bound on the number of samples. -/
def watchLoad (session : Session) (bound : Nat) : Verdict × Watch :=
  let total := session.store.header.totalRecords?.getD 0
  poll (fun _ _ => []) total bound ⟨session.store.tracker, session.unwatched⟩

/-- Who hears which of the given events, in order. -/
def hearings (session : Session) (events : List LoadEvent) : List (String × LoadEvent) :=
  events.flatMap fun event => session.listeners.snapshot.map fun listener => (listener, event)

/-- Refreshes all views. They may report on the load of this session. -/
def refreshAll (session : Session) : RefreshVerdict × Session :=
  let coordinator := { session.coordinator with tracker := session.store.tracker }
  let (verdict, coordinator) := coordinator.refreshAll
  let store := { session.store with tracker := coordinator.tracker }
  (verdict, { session with coordinator, store })

/-- Deletes the data of the store without telling the session. -/
def breakStorage (session : Session) : Session :=
  { session with store := session.store.breakStorage }

/-- What a background query comes to: its value, or a report on its failure. That a node is not
loaded yet is not worth a report. -/
def settleQuery : Except TraceError α → Option α × List Report
  | .ok value => (some value, [])
  | .error cause =>
      (none, if cause.isRecoverable then [] else [⟨"Background query failed", cause⟩])

/-- What closing came to. -/
structure Closing where
  /-- Whether nothing went wrong. -/
  clean : Bool
  reports : List Report
  deriving DecidableEq, Repr

/-- Closes a session: watching ends, and the store is closed. Further calls do nothing. -/
def close (session : Session) : Closing × Session :=
  if session.closed then (⟨true, []⟩, session)
  else
    let stopped : Closing :=
      match session.loading with
      | .ok () => ⟨true, []⟩
      | .error cause => ⟨false, [⟨"Unable to stop trace loading", cause⟩]⟩
    let (result, store) := session.store.close
    let closing : Closing :=
      match result with
      | .ok () => stopped
      | .error cause =>
          ⟨false, stopped.reports ++ [⟨s!"Unable to close trace {session.path}", cause⟩]⟩
    (closing, { session with store, unwatched := true, loading := .ok (), closed := true })

/-- The state of a load in one line. -/
def describeLoad (tracker : Tracker) : String :=
  let error :=
    match tracker.state.error? with
    | none => "None"
    | some message => "Some(" ++ Text.quote message ++ ")"
  s!"LoadStatus \x7b loaded_matchers: {tracker.rules}, loaded_nodes: {tracker.nodes}, " ++
    s!"state: {tracker.state.name}, error: {error} \x7d"

/-- The session in one line. -/
def describe (session : Session) : String :=
  s!"Session \x7b path: {Text.quote session.path}, " ++
    s!"status: {describeLoad session.store.tracker}, closed: {session.closed} \x7d"

end Session

end ParseTrace
