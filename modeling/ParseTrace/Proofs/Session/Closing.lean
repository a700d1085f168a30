import ParseTrace.Proofs.Session.Requests
import ParseTrace.Proofs.Store.Closing

/-!
# Closing a session

A session closes its store and is closed with it. Whatever is asked of it then, it stays closed, so it
keeps refusing the requests that would read its storage.
-/

namespace ParseTrace

namespace Session

variable {files : FileTree CaptureFile} {settings : Settings} {path : String} {session : Session}

/-- A session and its store are closed together. -/
def Joined (session : Session) : Prop :=
  session.store.closed = session.closed

theorem joined_of_openFile (opened : openFile files settings path = .ok session) :
    session.Joined := by
  rcases exists_of_openFile opened with ⟨_, _, _, _, _, _, _, isOpen⟩
  rw [Joined, isOpen, isOpen_of_openFile opened]

theorem closed_close (session : Session) : session.close.2.closed = true := by
  rw [close]
  split
  next closed => exact closed
  next => rfl

namespace Joined

theorem close (joined : session.Joined) : session.close.2.Joined := by
  rw [Session.close]
  split
  · exact joined
  · change session.store.close.2.closed = true
    rw [Store.close_snd]

theorem run (joined : session.Joined) (request : Request) : (session.run request).2.Joined := by
  cases request with
  | close => exact joined.close
  | _ => exact joined

theorem runAll (joined : session.Joined) (requests : List Request) :
    (session.runAll requests).Joined := by
  induction requests generalizing session with
  | nil => exact joined
  | cons request rest ih => exact ih (joined.run request)

end Joined

theorem closed_run (closed : session.closed = true) (request : Request) :
    (session.run request).2.closed = true := by
  cases request with
  | close => exact session.closed_close
  | _ => exact closed

theorem closed_runAll (closed : session.closed = true) (requests : List Request) :
    (session.runAll requests).closed = true := by
  induction requests generalizing session with
  | nil => exact closed
  | cons request rest ih => exact ih (closed_run closed request)

/-- A session that is closed for good: whatever is asked of it first, it then refuses each request that
would read its storage, and a background query ends in a report. -/
structure Shut (session : Session) : Prop where
  closed : session.closed = true
  refuses : ∀ requests query, query.ReadsStorage (session.runAll requests).input →
    ((session.runAll requests).run (.ask query)).1 = .error .closed
  fragments : ∀ requests id, ((session.runAll requests).run (.fragments id)).1 = .error .closed
  lookUp : ∀ requests id, ((session.runAll requests).run (.lookUp id)).1 =
    .ok (.queried none [⟨"Background query failed", .closed⟩])

theorem Joined.shut (joined : session.Joined) (closed : session.closed = true) :
    session.Shut := by
  have stored (requests : List Request) : (session.runAll requests).store.closed = true := by
    rw [joined.runAll requests]
    exact closed_runAll closed requests
  have noNode (requests : List Request) (id : NodeId) :
      (session.runAll requests).store.getNode id = .error .closed :=
    Store.whenOpen_of_closed (stored requests) _
  refine ⟨closed, ?_, ?_, ?_⟩
  · intro requests query reads
    rw [Session.run, Query.answer_of_closed (stored requests) reads]
    rfl
  · intro requests id
    rw [Session.run, nodeFragments, noNode]
    rfl
  · intro requests id
    rw [Session.run, noNode]
    rfl

end Session

end ParseTrace
