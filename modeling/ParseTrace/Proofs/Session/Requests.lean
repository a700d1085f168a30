import ParseTrace.Proofs.Session.Opening
import ParseTrace.Proofs.Store.Exhaustion
import ParseTrace.Session.Request

/-!
# What a session keeps

Requests to a session write nothing to its store. Refreshing may move the state of the load, and
closing closes the store together with the session. So the nodes of a session form a tree at any
time, and its store is open as long as the session is.
-/

namespace ParseTrace.Session

variable {files : FileTree CaptureFile} {settings : Settings} {path : String} {session : Session}

theorem isOpen_of_openFile (opened : openFile files settings path = .ok session) :
    session.store.closed = false := by
  rcases exists_of_openFile opened with ⟨file, capture, _, _, loaded, _⟩
  rw [loaded, (Store.writes_load capture settings.batchSize).closed_eq]
  rfl

/-- What holds of a session at any time. -/
structure Coherent (session : Session) : Prop where
  tree : FormsTree session.store.rules session.store.nodes
  isOpen : session.closed = false → session.store.closed = false

/-- However much a capture holds, what is loaded from it forms a tree. -/
theorem coherent_of_openFile (opened : openFile files settings path = .ok session) :
    session.Coherent := by
  refine ⟨?_, fun _ => isOpen_of_openFile opened⟩
  rcases exists_of_openFile opened with ⟨file, capture, _, _, loaded, _⟩
  have reached : Store.Reaches (.create path capture.header) session.store := by
    rw [loaded]
    exact (Store.writes_load capture settings.batchSize).reaches
  exact reached.tree (Store.sound_create path capture.header) (Nat.two_pow_pos 31)

namespace Coherent

theorem close (coherent : session.Coherent) : session.close.2.Coherent := by
  simp only [Session.close]
  split
  · exact coherent
  · refine ⟨?_, nofun⟩
    rw [Store.close_snd]
    exact coherent.tree

theorem run (coherent : session.Coherent) (request : Request) :
    (session.run request).2.Coherent := by
  cases request with
  | close => exact coherent.close
  | refresh => exact ⟨coherent.tree, coherent.isOpen⟩
  | breakStorage => exact ⟨coherent.tree, coherent.isOpen⟩
  | ask query => exact coherent
  | fragments id => exact coherent
  | watch => exact coherent
  | subscribe listener => exact ⟨coherent.tree, coherent.isOpen⟩
  | unsubscribe id => exact ⟨coherent.tree, coherent.isOpen⟩
  | register view => exact ⟨coherent.tree, coherent.isOpen⟩
  | unregister id => exact ⟨coherent.tree, coherent.isOpen⟩
  | lookUp id => exact coherent
  | failQuery cause => exact coherent

theorem runAll (coherent : session.Coherent) (requests : List Request) :
    (session.runAll requests).Coherent := by
  induction requests generalizing session with
  | nil => exact coherent
  | cons request rest ih => exact ih (coherent.run request)

end Coherent

end ParseTrace.Session
