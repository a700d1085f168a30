import ParseTrace.Capture.Archive

/-!
# Visiting the records of a capture

A caller says what is to be done with an item, and it is done as soon as the item is read. So what
precedes a bad record, or the place where an entry breaks off, is visited, and once a visit fails no
further record is read. A caller has
errors of its own kind, among which there is one for every error of reading.
-/

namespace ParseTrace.Capture

open Delimited (RawRecord)

variable {α ε σ : Type}

/-- Visits the items of records, the first of which has the given number, up to the first that is
bad or whose visit fails. A visit may change a state. The ending is what comes behind the last
record. -/
def visitFrom (entry : Entry) (read : Fields → Except RecordFault α)
    (ending : Except CaptureError Unit) (lift : CaptureError → ε)
    (visit : α → σ → Except ε Unit × σ) (index : Nat) (state : σ) :
    List RawRecord → Except ε Unit × σ
  | [] => (ending.mapError lift, state)
  | record :: rest =>
      match interpret entry read index record with
      | .error error => (.error (lift error), state)
      | .ok item =>
          match visit item state with
          | (.error error, state) => (.error error, state)
          | (.ok (), state) => visitFrom entry read ending lift visit (index + 1) state rest

/-- Visits the items of an entry. -/
def visitEntry (entry : Entry) (read : Fields → Except RecordFault α) (contents : Contents)
    (lift : CaptureError → ε) (visit : α → σ → Except ε Unit × σ) (state : σ) :
    Except ε Unit × σ :=
  visitFrom entry read (contents.ending entry) lift visit 1 state contents.records

/-- Visits the declared rules, in order. -/
def forEachRule (capture : Capture) (lift : CaptureError → ε)
    (visit : Rule → σ → Except ε Unit × σ) (state : σ) : Except ε Unit × σ :=
  visitEntry .rules readRule capture.rules lift visit state

/-- Visits the invocations with the identifiers under which they are listed, in order. -/
def forEachInvocation (capture : Capture) (lift : CaptureError → ε)
    (visit : NodeId × Invocation → σ → Except ε Unit × σ) (state : σ) : Except ε Unit × σ :=
  visitEntry .nodes readInvocation capture.nodes lift visit state

end ParseTrace.Capture
