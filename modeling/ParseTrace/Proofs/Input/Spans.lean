import ParseTrace.Input.Text
import ParseTrace.Proofs.Input.LineScan

/-!
# Lines as ranges of offsets

What both tables tell of a line is how much text stands in front of it. No line of a text is empty,
unless the text is, so the lines start at increasing offsets. A line therefore holds the offsets from its
start up to the start of the next one, and the last line holds everything from its start on.
-/

namespace ParseTrace

open Text

namespace InputText

variable {input : InputText} {index offset start stop : Nat}

theorem length_eq (input : InputText) : input.length = length16 input.chars := by
  rw [length, input.scan_eq, LineScan.ofChars_eq]

theorem lineStarts_eq (input : InputText) :
    input.lineStarts = Text.lineStarts length16 0 (lines input.chars) := by
  rw [lineStarts, input.scan_eq, LineScan.ofChars_eq]

theorem lineBytes_eq (input : InputText) :
    input.lineBytes = Text.lineStarts length8 0 (lines input.chars) := by
  rw [lineBytes, input.scan_eq, LineScan.ofChars_eq]

theorem lineCount_eq (input : InputText) : input.lineCount = (lines input.chars).length := by
  rw [lineCount, input.lineStarts_eq, length_lineStarts]

theorem lineCount_pos (input : InputText) : 0 < input.lineCount := by
  rw [input.lineCount_eq]
  exact List.length_pos_iff.mpr (lines_ne_nil input.chars)

theorem pairwise_lineStarts (input : InputText) : input.lineStarts.Pairwise (· < ·) := by
  rw [input.lineStarts_eq]
  exact Text.pairwise_lineStarts _ _

/-- The text in front of a line. -/
def front (input : InputText) (index : Nat) : List Char :=
  ((lines input.chars).take index).flatten

theorem front_append (input : InputText) (index : Nat) :
    input.front index ++ ((lines input.chars).drop index).flatten = input.chars := by
  rw [front, ← List.flatten_append, List.take_append_drop, flatten_lines]

theorem front_lineCount (input : InputText) : input.front input.lineCount = input.chars := by
  rw [front, input.lineCount_eq, List.take_length, flatten_lines]

theorem front_succ {line : List Char} (found : (lines input.chars)[index]? = some line) :
    input.front (index + 1) = input.front index ++ line := by
  simp [front, List.take_add_one, found]

theorem length16_front_le (input : InputText) (index : Nat) :
    length16 (input.front index) ≤ input.length := by
  have whole := congrArg length16 (input.front_append index)
  rw [length16_append, ← input.length_eq] at whole
  omega

/-- The two tables tell how much text stands in front of a line. -/
theorem getElem?_lineStarts (within : index < input.lineCount) :
    input.lineStarts[index]? = some (length16 (input.front index)) := by
  rw [input.lineCount_eq] at within
  rw [input.lineStarts_eq, Text.getElem?_lineStarts within length16_append, Nat.zero_add, front]

theorem getElem?_lineBytes (within : index < input.lineCount) :
    input.lineBytes[index]? = some (length8 (input.front index)) := by
  rw [input.lineCount_eq] at within
  rw [input.lineBytes_eq, Text.getElem?_lineStarts within length8_append, Nat.zero_add, front]

/-- A line reaches from what stands in front of it to what stands in front of the next one. -/
theorem lineSpan?_succ (within : index < input.lineCount) :
    input.lineSpan? (index + 1) =
      some (length16 (input.front index), length16 (input.front (index + 1))) := by
  simp only [lineSpan?, getElem?_lineStarts within]
  by_cases more : index + 1 < input.lineCount
  · rw [getElem?_lineStarts more, Option.getD_some]
  · have last : index + 1 = input.lineCount := by omega
    rw [List.getElem?_eq_none (Nat.le_of_eq last.symm), Option.getD_none, input.length_eq, last,
      front_lineCount]

theorem lineSpan?_of_pos {line : Nat} (positive : 0 < line) (inside : line ≤ input.lineCount) :
    input.lineSpan? line =
      some (length16 (input.front (line - 1)), length16 (input.front line)) := by
  rcases Nat.exists_eq_add_of_le' positive with ⟨index, rfl⟩
  exact lineSpan?_succ inside

/-- As many lines start at or before an offset as its number says. -/
theorem lineNumber_eq_countP (input : InputText) (offset : Nat) :
    input.lineNumber offset = input.lineStarts.countP fun start => start ≤ offset :=
  findIdx_eq_countP input.pairwise_lineStarts offset

/-- An offset lies on a line or behind it if the line starts at or before the offset. -/
theorem lt_lineNumber_iff (within : index < input.lineCount) :
    index < input.lineNumber offset ↔ length16 (input.front index) ≤ offset := by
  rw [lineNumber_eq_countP]
  exact lt_countP_iff input.pairwise_lineStarts (getElem?_lineStarts within)

theorem lineNumber_le (input : InputText) (offset : Nat) :
    input.lineNumber offset ≤ input.lineCount :=
  List.findIdx_le_length

theorem lineNumber_pred_lt (input : InputText) (offset : Nat) :
    input.lineNumber offset - 1 < input.lineCount := by
  have last := input.lineNumber_le offset
  have some_line := input.lineCount_pos
  omega

theorem lineNumber_pos (input : InputText) (offset : Nat) : 0 < input.lineNumber offset := by
  apply (lt_lineNumber_iff input.lineCount_pos).mpr
  exact Nat.zero_le offset

/-- The line of an offset starts at or before it. -/
theorem length16_front_lineNumber_le (input : InputText) (offset : Nat) :
    length16 (input.front (input.lineNumber offset - 1)) ≤ offset := by
  apply (lt_lineNumber_iff (input.lineNumber_pred_lt offset)).mp
  have first := input.lineNumber_pos offset
  omega

theorem checkRange_eq_ok (ordered : start ≤ stop) (within : stop ≤ input.length) :
    input.checkRange start stop = .ok () :=
  if_pos ⟨ordered, within⟩

theorem checkRange_eq_error (outside : stop < start ∨ input.length < stop) :
    input.checkRange start stop = .error (.range start stop input.length) := by
  apply if_neg
  omega

theorem lineOf_eq_ok_iff {line : Nat} :
    input.lineOf offset = .ok line ↔ offset ≤ input.length ∧ input.lineNumber offset = line := by
  by_cases within : offset ≤ input.length
  · rw [lineOf, checkRange_eq_ok (Nat.le_refl offset) within]
    simp [bind, Except.bind, pure, Except.pure, within]
  · rw [lineOf, checkRange, if_neg (by omega)]
    simp [bind, Except.bind, within]

end InputText

end ParseTrace
