import ParseTrace.Input.Fragments
import ParseTrace.Proofs.Input.Bytes

/-!
# Positions and fragments

An offset into the input has a position, and it cuts the input in two. The position says how much is
in front of the cut: its line is one more than the number of newlines there, at most the number of
lines. Of two offsets the smaller one has no later position. The fragments around a match are the
texts in front of its start, between its start and its end, and behind its end, all with the offsets
that lie past the end of the input moved to the end.
-/

namespace ParseTrace

open Text

/-- Whether one position is not behind another one. -/
def Position.AtOrBefore (first second : Position) : Prop :=
  first.line < second.line ∨ (first.line = second.line ∧ first.column ≤ second.column)

instance (first second : Position) : Decidable (first.AtOrBefore second) :=
  inferInstanceAs (Decidable (_ ∨ _))

/-- Whether one position is in front of another one. -/
def Position.Before (first second : Position) : Prop :=
  first.line < second.line ∨ (first.line = second.line ∧ first.column < second.column)

namespace InputText

variable {input : InputText} {start stop offset : Nat}

/-- The line of an offset is told by the newlines in front of it. -/
theorem lineNumber_eq (input : InputText) (offset : Nat) :
    input.lineNumber offset =
      min (1 + (take16 offset input.chars).count '\n') input.lineCount := by
  have starts := countP_lineStarts input.chars 0 offset
  rw [Nat.zero_add] at starts
  rw [lineNumber_eq_countP, lineCount_eq, input.lineStarts_eq, starts]

theorem lineNumber_mono (input : InputText) (ordered : start ≤ stop) :
    input.lineNumber start ≤ input.lineNumber stop := by
  rw [lineNumber_eq_countP, lineNumber_eq_countP]
  apply List.countP_mono_left
  intro first _ early
  rw [decide_eq_true_eq] at early ⊢
  exact Nat.le_trans early ordered

/-- Line and column of an offset, whether it lies within the input or not. -/
def place (input : InputText) (offset : Nat) : Position where
  line := input.lineNumber offset
  column := offset - length16 (input.front (input.lineNumber offset - 1)) + 1

theorem position_eq (within : offset ≤ input.length) :
    input.position offset = .ok (input.place offset) := by
  have found := getElem?_lineStarts (input.lineNumber_pred_lt offset)
  rw [position, checkRange_eq_ok (Nat.le_refl offset) within]
  simp only [bind, Except.bind, pure, Except.pure, found, Option.getD_some, place]

/-- A smaller offset is in front, if not by its line then by its column. -/
theorem place_before (input : InputText) (ordered : start < stop) :
    (input.place start).Before (input.place stop) := by
  rcases Nat.lt_or_eq_of_le (input.lineNumber_mono (Nat.le_of_lt ordered)) with above | same
  · exact Or.inl above
  · -- On one line both columns are counted from the start of that line.
    have behind := input.length16_front_lineNumber_le start
    rw [same] at behind
    refine Or.inr ⟨same, ?_⟩
    simp only [place, same]
    omega

/-- Every offset within the input has a position, and a smaller offset has no later one. -/
theorem exists_positions (ordered : start ≤ stop) (within : stop ≤ input.length) :
    ∃ first second, input.position start = .ok first ∧ input.position stop = .ok second ∧
      first.line = input.lineNumber start ∧ second.line = input.lineNumber stop ∧
      first.AtOrBefore second := by
  refine ⟨_, _, position_eq (Nat.le_trans ordered within), position_eq within, rfl, rfl, ?_⟩
  rcases Nat.eq_or_lt_of_le ordered with rfl | less
  · exact Or.inr ⟨rfl, Nat.le_refl _⟩
  · rcases input.place_before less with above | ⟨sameLine, columns⟩
    · exact Or.inl above
    · exact Or.inr ⟨sameLine, Nat.le_of_lt columns⟩

theorem extract_eq (ordered : start ≤ stop) (within : stop ≤ input.length) :
    input.extract start stop = .ok (String.ofList (slice16 start stop input.chars)) := by
  rw [extract, checkRange_eq_ok ordered within, slice_byteIndex input ordered]
  rfl

theorem extract_zero (within : offset ≤ input.length) :
    input.extract 0 offset = .ok (String.ofList (take16 offset input.chars)) := by
  rw [extract_eq (Nat.zero_le offset) within, slice16, drop16_zero]

theorem extract_length (within : offset ≤ input.length) :
    input.extract offset input.length = .ok (String.ofList (drop16 offset input.chars)) := by
  have whole : length16 input.chars ≤ input.length := Nat.le_of_eq input.length_eq.symm
  rw [extract_eq within (Nat.le_refl _), slice16, take16_of_length_le whole]

/-- Newlines in front of a cut, counted in the text that is extracted. -/
theorem lineNumber_eq_of_extract {before : String} (within : offset ≤ input.length)
    (extracted : input.extract 0 offset = .ok before) :
    input.lineNumber offset = min (1 + before.toList.count '\n') input.lineCount := by
  rw [extract_zero within] at extracted
  obtain rfl := Except.ok.inj extracted
  rw [lineNumber_eq, String.toList_ofList]

/-- The fragments around a successful match. -/
theorem successFragments_spec (input : InputText) (ordered : start ≤ stop) :
    input.extract 0 (min start input.length) = .ok (input.successFragments start stop).before ∧
    input.extract (min stop input.length) input.length =
      .ok (input.successFragments start stop).after ∧
    ∃ matched, input.extract (min start input.length) (min stop input.length) = .ok matched ∧
      (input.successFragments start stop).matched =
        String.ofList (Fragments.showMatch matched.toList) := by
  have startWithin : min start input.length ≤ input.length := Nat.min_le_right _ _
  have stopWithin : min stop input.length ≤ input.length := Nat.min_le_right _ _
  have clamped : min start (min stop input.length) = min start input.length := by
    rw [← Nat.min_assoc, Nat.min_eq_left ordered]
  have inOrder : min start input.length ≤ min stop input.length := by omega
  simp only [successFragments, clamped, slice_zero, slice_length8, slice_byteIndex input inOrder]
  refine ⟨extract_zero startWithin, extract_length stopWithin, _, extract_eq inOrder stopWithin, ?_⟩
  rw [String.toList_ofList]

/-- The fragments around the place where a match failed. -/
theorem failureFragments_spec (input : InputText) (stop : Nat) :
    input.extract 0 (min stop input.length) = .ok (input.failureFragments stop).before ∧
    input.extract (min stop input.length) input.length =
      .ok (input.failureFragments stop).after := by
  simp only [failureFragments, slice_zero, slice_length8]
  exact ⟨extract_zero (Nat.min_le_right _ _), extract_length (Nat.min_le_right _ _)⟩

end InputText

end ParseTrace
