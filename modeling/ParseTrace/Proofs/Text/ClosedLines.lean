import Mathlib.Algebra.GroupWithZero.Nat
import ParseTrace.Proofs.Input.Lines

/-!
# Texts of closed lines

A text in which every piece is closed by a newline has a line for every newline. If the pieces hold no
newline of their own, they are its lines; every newline within a piece makes one line more.
-/

namespace ParseTrace.Text

variable {line rest : List Char} {pieces : List (List Char)}

/-- Pieces, each closed by a newline. -/
def closeAll (pieces : List (List Char)) : List Char :=
  pieces.flatMap fun piece => piece ++ ['\n']

@[simp]
theorem closeAll_nil : closeAll [] = [] := rfl

theorem closeAll_cons (piece : List Char) (others : List (List Char)) :
    closeAll (piece :: others) = piece ++ '\n' :: closeAll others := by
  rw [closeAll, List.flatMap_cons, List.append_assoc]
  rfl

theorem closeAll_concat (pieces : List (List Char)) (last : List Char) :
    closeAll (pieces ++ [last]) = closeAll pieces ++ last ++ ['\n'] := by
  simp [closeAll]

/-- The first newline closes the first line. -/
theorem lines_append_newline (noNewline : '\n' ∉ line) (rest : List Char) :
    lines (line ++ '\n' :: rest) =
      (line ++ ['\n']) :: if rest = [] then [] else lines rest := by
  induction line with
  | nil =>
      by_cases last : rest = []
      · rw [last, if_pos rfl]
        rfl
      · rw [if_neg last]
        exact lines_cons_newline last
  | cons char others ih =>
      rw [List.mem_cons, not_or] at noNewline
      exact lines_cons_of_ne (Ne.symm noNewline.1) (by simp) (ih noNewline.2)

theorem lines_closeAll (nonempty : pieces ≠ []) (noNewline : ∀ piece ∈ pieces, '\n' ∉ piece) :
    lines (closeAll pieces) = pieces.map fun piece => piece ++ ['\n'] := by
  induction pieces with
  | nil => exact absurd rfl nonempty
  | cons piece others ih =>
      rw [List.forall_mem_cons] at noNewline
      rw [closeAll_cons, lines_append_newline noNewline.1, List.map_cons]
      by_cases last : others = []
      · simp [last]
      · have more : closeAll others ≠ [] := by
          rcases List.exists_cons_of_ne_nil last with ⟨next, _, rfl⟩
          simp [closeAll_cons]
        rw [if_neg more, ih last noNewline.2]

/-- A closed text has a line for every newline. -/
theorem length_lines_concat_newline (text : List Char) :
    (lines (text ++ ['\n'])).length = (text ++ ['\n']).count '\n' := by
  induction text with
  | nil => rfl
  | cons char rest ih =>
      have nonempty : rest ++ ['\n'] ≠ [] := by simp
      by_cases newline : char = '\n'
      · rw [newline, List.cons_append, lines_cons_newline nonempty, List.length_cons, ih,
          List.count_cons_self]
      · rcases List.exists_cons_of_ne_nil (lines_ne_nil (rest ++ ['\n'])) with
          ⟨line, others, split⟩
        rw [List.cons_append, lines_cons_of_ne newline nonempty split, List.length_cons,
          List.count_cons_of_ne newline, ← ih, split, List.length_cons]

theorem count_closeAll (pieces : List (List Char)) :
    (closeAll pieces).count '\n' =
      pieces.length + (pieces.map fun piece => piece.count '\n').sum := by
  induction pieces with
  | nil => rfl
  | cons piece others ih =>
      rw [closeAll_cons, List.count_append, List.count_cons_self, ih, List.length_cons,
        List.map_cons, List.sum_cons]
      omega

theorem length_lines_closeAll (nonempty : pieces ≠ []) :
    (lines (closeAll pieces)).length =
      pieces.length + (pieces.map fun piece => piece.count '\n').sum := by
  rcases List.eq_nil_or_concat' pieces with rfl | ⟨front, last, rfl⟩
  · exact absurd rfl nonempty
  · rw [← count_closeAll, closeAll_concat, length_lines_concat_newline]

end ParseTrace.Text
