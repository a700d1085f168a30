import ParseTrace.Proofs.Input.Extraction

/-!
# The pieces of a shown input

An input is shown in pieces around a match or around the place of a failure. Whatever the offsets are,
the pieces are cut at the same places as extractions, so together they give back the input. The match
itself is shown escaped and between arrows, which tell it from an empty match: that one has a sign of
its own, also when both of its offsets lie within one character.
-/

namespace ParseTrace

open Text

namespace Fragments

/-- Only an empty match is shown as one. -/
theorem showMatch_eq_emptySign_iff {matched : List Char} :
    showMatch matched = emptySign ↔ matched = [] := by
  cases matched with
  | nil => simp [showMatch]
  | cons char rest => simp [showMatch, emptySign, openArrow]

theorem showMatch_of_ne_nil {matched : List Char} (nonempty : matched ≠ []) :
    showMatch matched = openArrow :: (escapeControl matched ++ [closeArrow]) := by
  rw [showMatch, if_neg (by simpa using nonempty)]

end Fragments

namespace Text

variable {start stop : Nat} {front back : List Char} {char : Char}

theorem drop16_within (behind : length16 front ≤ start)
    (within : start < length16 front + units16 char) :
    drop16 start (front ++ char :: back) = char :: back := by
  have parts := take16_append_drop16 start (front ++ char :: back)
  rw [take16_within behind within] at parts
  exact List.append_cancel_left parts

/-- Nothing lies between two offsets within one character. -/
theorem slice16_within (behind : length16 front ≤ start) (ordered : start ≤ stop)
    (within : stop < length16 front + units16 char) :
    slice16 start stop (front ++ char :: back) = [] := by
  have parts := take16_append_slice16 ordered (front ++ char :: back)
  rw [take16_within behind (Nat.lt_of_le_of_lt ordered within),
    take16_within (Nat.le_trans behind ordered) within] at parts
  exact List.append_right_eq_self.mp parts

end Text

namespace InputText

variable {input : InputText} {start stop offset : Nat}

/-- The byte of an offset is never within a character. -/
theorem cut8?_byteIndex (input : InputText) (offset : Nat) :
    cut8? (input.byteIndex offset) input.chars =
      some (take16 offset input.chars, drop16 offset input.chars) := by
  have cut := cut8?_length8 (take16 offset input.chars) (drop16 offset input.chars)
  rwa [take16_append_drop16, ← byteIndex_eq] at cut

theorem successFragments_eq (input : InputText) (start stop : Nat) :
    input.successFragments start stop =
      let last := min stop input.length
      let first := min start last
      { before := String.ofList (take16 first input.chars)
        matched := String.ofList (Fragments.showMatch (slice16 first last input.chars))
        after := String.ofList (drop16 last input.chars) } := by
  rw [successFragments, slice_zero, slice_length8, slice_byteIndex input (Nat.min_le_right _ _)]

theorem failureFragments_eq (input : InputText) (stop : Nat) :
    input.failureFragments stop =
      { before := String.ofList (take16 (min stop input.length) input.chars)
        matched := String.ofList Fragments.failureSign
        after := String.ofList (drop16 (min stop input.length) input.chars) } := by
  rw [failureFragments, slice_zero, slice_length8]

/-- The pieces in which any input is shown, for all offsets. The input can be cut at the byte of an
offset. Around a match the text in front, the match and the text behind are extracted with the offsets
moved into the input, the stop first, and together they are the input. The match is shown by the sign
of an empty match exactly if it is empty, so also if both offsets lie within one character, and
otherwise escaped and between arrows. Around the place of a failure both texts are extracted as well,
and together they are the input. -/
theorem fragments_give_back_the_input (input : InputText) :
    (∀ offset, cut8? (input.byteIndex offset) input.chars ≠ none) ∧
    (∀ start stop,
      let last := min stop input.length
      let first := min start last
      let fragments := input.successFragments start stop
      ∃ matched, input.extract first last = .ok matched ∧
        fragments.before ++ matched ++ fragments.after = input.text ∧
        input.extract 0 first = .ok fragments.before ∧
        input.extract last input.length = .ok fragments.after ∧
        (fragments.matched = String.ofList Fragments.emptySign ↔ matched = "") ∧
        (matched ≠ "" → fragments.matched = String.ofList
          (Fragments.openArrow :: (escapeControl matched.toList ++ [Fragments.closeArrow])))) ∧
    (∀ front char back start stop, input.chars = front ++ char :: back → length16 front ≤ start →
      start ≤ stop → stop < length16 front + units16 char →
      input.successFragments start stop =
        ⟨String.ofList front, String.ofList Fragments.emptySign, String.ofList (char :: back)⟩) ∧
    ∀ stop,
      let place := min stop input.length
      let fragments := input.failureFragments stop
      fragments.before ++ fragments.after = input.text ∧
        input.extract 0 place = .ok fragments.before ∧
        input.extract place input.length = .ok fragments.after ∧
        fragments.matched = String.ofList Fragments.failureSign := by
  refine ⟨?_, ?_, ?_, ?_⟩
  · intro offset
    rw [cut8?_byteIndex]
    exact nofun
  · intro start stop last first
    have stopWithin : last ≤ input.length := Nat.min_le_right _ _
    have ordered : first ≤ last := Nat.min_le_right _ _
    have startWithin : first ≤ input.length := Nat.le_trans ordered stopWithin
    have isEmpty : String.ofList (slice16 first last input.chars) = "" ↔
        slice16 first last input.chars = [] := String.ofList_eq_empty_iff
    simp only [successFragments_eq]
    refine ⟨_, extract_eq ordered stopWithin, ?_, extract_zero startWithin,
      extract_length stopWithin, ?_, ?_⟩
    · rw [← String.ofList_append, ← String.ofList_append, take16_append_slice16 ordered,
        take16_append_drop16, text]
    · rw [isEmpty, ← Fragments.showMatch_eq_emptySign_iff, String.ofList_inj]
    · intro nonempty
      rw [Fragments.showMatch_of_ne_nil (mt isEmpty.mpr nonempty), String.toList_ofList]
  · intro front char back start stop whole behind ordered within
    have room : stop ≤ input.length := by
      rw [input.length_eq, whole, length16_append, length16_cons]
      omega
    have last : min stop input.length = stop := Nat.min_eq_left room
    have first : min start stop = start := Nat.min_eq_left ordered
    simp only [successFragments_eq, last, first, whole]
    rw [take16_within behind (Nat.lt_of_le_of_lt ordered within),
      slice16_within behind ordered within, drop16_within (Nat.le_trans behind ordered) within,
      Fragments.showMatch_eq_emptySign_iff.mpr rfl]
  · intro stop place
    simp only [failureFragments_eq]
    refine ⟨?_, extract_zero (Nat.min_le_right _ _), extract_length (Nat.min_le_right _ _), trivial⟩
    rw [← String.ofList_append, take16_append_drop16, text]

theorem wideText_is_shown_in_pieces :
    wideText.successFragments 2 3 = ⟨"aé", "∅", "😀\nb"⟩ ∧
    ∃ matched, wideText.extract 4 6 = .ok matched ∧ matched ≠ "" ∧
      (wideText.successFragments 4 9).before ++ matched ++ (wideText.successFragments 4 9).after =
        wideText.text ∧
      (wideText.successFragments 4 9).matched = "⇾\\nb⇽" := by
  rcases fragments_give_back_the_input wideText with ⟨_, around, within, _⟩
  have length : wideText.length = 6 := by decide +kernel
  rcases around 4 9 with ⟨matched, extracted, joined, _, _, _, shown⟩
  rw [length] at extracted
  have isMatch : matched = "\nb" := by
    have found : wideText.extract 4 6 = .ok "\nb" := by decide +kernel
    exact Except.ok.inj (extracted.symm.trans found)
  refine ⟨?_, matched, extracted, by simp [isMatch], joined, ?_⟩
  · exact within ['a', 'é'] '😀' ['\n', 'b'] 2 3 (by decide +kernel) (by decide) (by decide)
      (by decide)
  · rw [shown (by simp [isMatch]), isMatch]
    decide +kernel

end InputText

end ParseTrace
