/-!
# Lines of a text

A line runs up to and including its newline. A newline at the very end of the text closes the
last line and opens no further one, and the empty text is one empty line.
-/

namespace ParseTrace.Text

/-- The lines of a text, each with its newline. -/
def lines (text : List Char) : List (List Char) :=
  if text.isEmpty then [[]] else text.splitBy fun char _ => char != '\n'

/-- The place at which each of the given lines starts, the first one at `base`, if a text is as long
as `total` says. -/
def lineStarts (total : List Char → Nat) (base : Nat) : List (List Char) → List Nat
  | [] => []
  | line :: rest => base :: lineStarts total (base + total line) rest

@[simp]
theorem length_lineStarts (total : List Char → Nat) (base : Nat) (lines : List (List Char)) :
    (lineStarts total base lines).length = lines.length := by
  induction lines generalizing base with
  | nil => rfl
  | cons line rest ih => simp [lineStarts, ih]

end ParseTrace.Text
