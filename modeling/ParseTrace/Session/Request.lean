import ParseTrace.Session.Basic

/-!
# What a session can be asked

`Request` lists what can be asked of a session and `Reply` what it is answered with. A sequence of
requests is a run of the session.
-/

namespace ParseTrace.Session

/-- Requests to a session. -/
inductive Request where
  /-- Asks the store. -/
  | ask (query : Query)
  | fragments (id : NodeId)
  /-- Watches the load. -/
  | watch
  | subscribe (listener : String)
  | unsubscribe (id : Nat)
  | register (view : View)
  | unregister (id : Nat)
  | refresh
  /-- Looks a node up in the background. -/
  | lookUp (id : NodeId)
  /-- Runs a background query that fails. -/
  | failQuery (cause : TraceError)
  | breakStorage
  | close
  deriving Repr

/-- What a session answers with. -/
inductive Reply where
  | answer (answer : Answer)
  | fragments (fragments : Fragments)
  /-- How watching ended, the events, and who heard each. -/
  | watched (verdict : Verdict) (events : List LoadEvent) (heard : List (String × LoadEvent))
  | number (value : Nat)
  | flag (value : Bool)
  /-- How a refresh ended, and what was written down. -/
  | refreshed (verdict : RefreshVerdict) (log : List LogEntry)
  | queried (node : Option Node) (reports : List Report)
  | closed (closing : Closing)
  deriving Repr

/-- The answer to a request and the session that it leaves behind. A load that has ended is watched
by one sample at most. -/
def run (session : Session) : Request → Outcome Reply × Session
  | .ask query => ((query.answer session.store session.input).map .answer, session)
  | .fragments id => ((Outcome.ofExcept (session.nodeFragments id)).map .fragments, session)
  | .watch =>
      let (verdict, watch) := session.watchLoad 1
      (.ok (.watched verdict watch.events (session.hearings watch.events)), session)
  | .subscribe listener =>
      let (id, listeners) := session.listeners.subscribe listener
      (.ok (.number id), { session with listeners })
  | .unsubscribe id =>
      let (known, listeners) := session.listeners.unsubscribe id
      (.ok (.flag known), { session with listeners })
  | .register view =>
      let (id, coordinator) := session.coordinator.register view
      (.ok (.number id), { session with coordinator })
  | .unregister id =>
      let (known, coordinator) := session.coordinator.unregister id
      (.ok (.flag known), { session with coordinator })
  | .refresh =>
      let (verdict, session) := session.refreshAll
      let (log, coordinator) := session.coordinator.takeLog
      (.ok (.refreshed verdict log), { session with coordinator })
  | .lookUp id =>
      let (node, reports) := settleQuery (session.store.getNode id)
      (.ok (.queried node reports), session)
  | .failQuery cause =>
      let (node, reports) := settleQuery (.error cause)
      (.ok (.queried node reports), session)
  | .breakStorage => (.ok (.flag true), session.breakStorage)
  | .close =>
      let (closing, session) := session.close
      (.ok (.closed closing), session)

/-- The session after a run. -/
def runAll (session : Session) (requests : List Request) : Session :=
  requests.foldl (fun session request => (session.run request).2) session

end ParseTrace.Session
