import ParseTrace.Proofs.Input.Extraction

/-!
# Positions of offsets

The line of an offset counts the newlines in front of it, and its column counts how far it lies behind
the start of that line. Both are found by the table of the lines, in which a newline at the end of the
input has no entry, so the offset behind such a newline stays on the last line. No two offsets share a
position, since a position says where its line starts and how far behind that its offset lies.
-/

namespace ParseTrace

open Text

/-- The newlines of a text that end at or before an offset. -/
def Text.newlinesBefore (offset : Nat) (text : List Char) : Nat :=
  (withEnds 0 text).countP fun entry => entry.1 = '\n' ∧ entry.2 ≤ offset

theorem Text.count_take16 (offset : Nat) (text : List Char) :
    (take16 offset text).count '\n' = newlinesBefore offset text := by
  rw [← map_fst_withEnds 0 (take16 offset text), withEnds_take16, List.count_eq_countP,
    List.countP_map, List.countP_filter]
  simp [newlinesBefore, beq_eq_decide]

namespace InputText

variable {input : InputText} {offset : Nat}

theorem position_eq_error_iff :
    input.position offset = .error (.range offset offset input.length) ↔
      input.length < offset := by
  constructor
  · intro refused
    by_contra within
    rw [position_eq (Nat.le_of_not_lt within)] at refused
    cases refused
  · intro beyond
    rw [position, checkRange_eq_error (Or.inr beyond)]
    rfl

/-- The positions of the offsets into any text. An offset past the end has none. The line of any other
one is told by the newlines that end at or before it, as far as there are so many lines, and is the
line that is found without the column; the column counts from the start of the span of this line, so
the offset is where the span and the column say. A greater offset has a later position. -/
theorem positions_recover_offsets (input : InputText) :
    (∀ offset, input.position offset = .error (.range offset offset input.length) ↔
      input.length < offset) ∧
    (∀ offset, offset ≤ input.length → ∃ position start stop,
      input.position offset = .ok position ∧ input.lineOf offset = .ok position.line ∧
      position.line = min (1 + newlinesBefore offset input.chars) input.lineCount ∧
      input.lineSpan? position.line = some (start, stop) ∧ start ≤ offset ∧
      position.column = offset - start + 1 ∧ 1 ≤ position.column ∧
      offset = start + position.column - 1) ∧
    ∀ first second, first < second → second ≤ input.length →
      ∃ earlier later, input.position first = .ok earlier ∧ input.position second = .ok later ∧
        earlier.Before later := by
  refine ⟨fun _ => position_eq_error_iff, ?_, ?_⟩
  · intro offset within
    have span := lineSpan?_of_pos (input.lineNumber_pos offset) (input.lineNumber_le offset)
    have behind := input.length16_front_lineNumber_le offset
    refine ⟨_, _, _, position_eq within, lineOf_eq_ok_iff.mpr ⟨within, rfl⟩, ?_, span, behind,
      rfl, ?_, ?_⟩
    · rw [← count_take16]
      exact input.lineNumber_eq offset
    · exact Nat.le_add_left 1 _
    · dsimp only [place]
      omega
  · intro first second ordered within
    have firstWithin := Nat.le_trans (Nat.le_of_lt ordered) within
    exact ⟨_, _, position_eq firstWithin, position_eq within, input.place_before ordered⟩

/-- Two empty lines in the middle, and a newline at the end that opens no line. -/
theorem closing_newline_stays_on_its_line :
    (InputText.ofString "𝄞\n\n\nb\n").position 7 = .ok ⟨4, 3⟩ ∧
      (InputText.ofString "𝄞\n\n\nb\n").lineOf 7 = .ok 4 := by
  have recover := positions_recover_offsets (.ofString "𝄞\n\n\nb\n")
  rcases recover.2.1 7 (by decide +kernel) with
    ⟨⟨line, column⟩, start, stop, found, lineFound, lineEq, span, _, columnEq, _⟩
  obtain rfl : line = 4 := lineEq.trans (by decide +kernel)
  have fourth : (InputText.ofString "𝄞\n\n\nb\n").lineSpan? 4 = some (5, 7) := by
    decide +kernel
  cases fourth.symm.trans span
  obtain rfl : column = 3 := columnEq
  exact ⟨found, lineFound⟩

end InputText

end ParseTrace
