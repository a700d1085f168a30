import ParseTrace.Input.Text
import ParseTrace.Text.Control

/-!
# The input around a match

A match is shown by the text before it, the match itself between two arrows with its control
characters made visible, and the text after it. An empty match and a failed one have a sign of
their own.
-/

namespace ParseTrace

open Text

/-- The input split around a match. -/
structure Fragments where
  before : String
  matched : String
  after : String
  deriving DecidableEq, Repr

namespace Fragments

/-- Stands for a match of no characters. -/
def emptySign : List Char := ['∅']

/-- Stands where a match failed. -/
def failureSign : List Char := ['☒']

/-- Opens a match. -/
def openArrow : Char := '⇾'

/-- Closes a match. -/
def closeArrow : Char := '⇽'

/-- A match as it is shown. -/
def showMatch (matched : List Char) : List Char :=
  if matched.isEmpty then emptySign
  else openArrow :: (escapeControl matched ++ [closeArrow])

end Fragments

namespace InputText

/-- The input around a successful match. Offsets past the end count as the end, and a start past
the stop as the stop. -/
def successFragments (input : InputText) (start stop : Nat) : Fragments :=
  let stop := min stop input.length
  let start := min start stop
  let matched := input.slice (input.byteIndex start) (input.byteIndex stop)
  { before := String.ofList (input.slice 0 (input.byteIndex start))
    matched := String.ofList (Fragments.showMatch matched)
    after := String.ofList (input.slice (input.byteIndex stop) (length8 input.chars)) }

/-- The input around the place where a match failed. An offset past the end counts as the end. -/
def failureFragments (input : InputText) (stop : Nat) : Fragments :=
  let place := input.byteIndex (min stop input.length)
  { before := String.ofList (input.slice 0 place)
    matched := String.ofList Fragments.failureSign
    after := String.ofList (input.slice place (length8 input.chars)) }

end InputText

end ParseTrace
