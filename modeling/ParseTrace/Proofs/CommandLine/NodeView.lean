import ParseTrace.Proofs.CommandLine.Reports
import ParseTrace.Proofs.Input.Fragments
import ParseTrace.Proofs.Store.Reading

/-!
# How a node is shown

A node is shown with the positions of its start and of its end, and with the input around its match.
Both ways of telling the place agree, since a stored node does not end before it starts: an offset
past the end of the input counts as the end in both, and the fragments are cut where the positions
are. So every stored node of an open session is shown.
-/

namespace ParseTrace

variable {files : FileTree CaptureFile} {settings : Settings} {trace : String}
  {session : Session} {place : Nat} {node : StoredNode}

namespace Session

/-- A stored node of an open session is found under its number, and it does not end before it
starts. -/
theorem Coherent.getNode_eq (coherent : session.Coherent) (isOpen : session.closed = false)
    (stored : session.store.nodes[place]? = some node) :
    ∃ found, session.store.getNode place = .ok found ∧ found.success = node.success ∧
      found.start = node.start ∧ found.stop = node.stop ∧ node.start ≤ node.stop := by
  rcases Store.getNode_of_tree coherent.tree (coherent.isOpen isOpen) stored with
    ⟨rule, _, _, got⟩
  exact ⟨_, got, rfl, rfl, rfl, (coherent.tree place node stored).start_le_stop⟩

/-- The fragments of a node are those of its match, or of the place where it failed. -/
theorem nodeFragments_of_getNode {id : NodeId} {found : Node}
    (got : session.store.getNode id = .ok found) :
    session.nodeFragments id =
      .ok (if found.success then session.input.successFragments found.start found.stop
        else session.input.failureFragments found.stop) := by
  rw [nodeFragments, got]
  rfl

end Session

namespace CommandLine

/-- A node is shown if its start and its end have positions and if there are fragments. -/
theorem exists_nodeView (format : Format) {id : NodeId} {found : Node} {start stop : Position}
    {fragments : Fragments} (got : session.store.getNode id = .ok found)
    (started : session.input.position (min found.start session.input.length) = .ok start)
    (stopped : session.input.position (min found.stop session.input.length) = .ok stop)
    (shown : session.nodeFragments id = .ok fragments) :
    ∃ text, nodeView format session id = .ok text := by
  simp only [nodeView, got, started, stopped, shown, bind, Except.bind]
  split
  · exact ⟨_, rfl⟩
  · exact ⟨_, rfl⟩

/-- A trace of two nodes over a short input with a character of two code units. The second node starts
between the two units and ends past the end of the input. -/
def pairTrace : FileTree CaptureFile :=
  Session.singleFile
    { info := some (.ofText "0;1;2;2\n"), rules := some (.ofText letter)
      nodes := some (.ofText "-1;0;0;1;0;0;9;5\n0;1;1;1;0;2;9;3\n")
      input := some (.ofText "a𝄞\nb") }

end CommandLine

end ParseTrace
