import ParseTrace.Proofs.Input.Fragments

/-!
# What is extracted

A character belongs to a range of offsets if it ends behind the start of the range and not behind its
end. An extraction is cut out at two bytes, but it holds exactly the characters that belong to its range:
an offset between the two code units of a character counts as the offset in front of the character.
-/

namespace ParseTrace

namespace Text

variable {base start middle stop offset : Nat} {text : List Char}

/-- The characters of a text, each with the offset at which it ends, if the text starts at `base`. -/
def withEnds (base : Nat) : List Char → List (Char × Nat)
  | [] => []
  | char :: rest => (char, base + units16 char) :: withEnds (base + units16 char) rest

/-- The characters that end behind one offset and not behind another one, in order. -/
def endingWithin (start stop : Nat) (text : List Char) : List Char :=
  ((withEnds 0 text).filter fun entry => start < entry.2 ∧ entry.2 ≤ stop).map Prod.fst

theorem map_fst_withEnds (base : Nat) (text : List Char) :
    (withEnds base text).map Prod.fst = text := by
  induction text generalizing base with
  | nil => rfl
  | cons char rest ih => simp [withEnds, ih]

theorem lt_of_mem_withEnds {entry : Char × Nat} (present : entry ∈ withEnds base text) :
    base < entry.2 := by
  induction text generalizing base with
  | nil => cases present
  | cons char rest ih =>
      have wide := units16_pos char
      rcases List.mem_cons.mp present with rfl | later
      · simpa using wide
      · have behind := ih later
        omega

theorem withEnds_take16 (base offset : Nat) (text : List Char) :
    withEnds base (take16 offset text) =
      (withEnds base text).filter fun entry => entry.2 ≤ base + offset := by
  induction text generalizing base offset with
  | nil => simp [withEnds]
  | cons char rest ih =>
      rw [take16_cons, withEnds]
      by_cases within : units16 char ≤ offset
      · have shifted : base + offset = base + units16 char + (offset - units16 char) := by omega
        rw [if_pos within, withEnds, ih, List.filter_cons_of_pos (by simpa using within), shifted]
      · -- All that stands behind the character ends even later.
        rw [if_neg within]
        symm
        apply List.filter_eq_nil_iff.mpr
        intro entry present
        rw [decide_eq_true_eq]
        rcases List.mem_cons.mp present with rfl | later
        · simpa using within
        · have behind := lt_of_mem_withEnds later
          omega

theorem drop16_eq_filter (base offset : Nat) (text : List Char) :
    drop16 offset text =
      ((withEnds base text).filter fun entry => base + offset < entry.2).map Prod.fst := by
  induction text generalizing base offset with
  | nil => rfl
  | cons char rest ih =>
      rw [drop16]
      by_cases within : units16 char ≤ offset
      · have shifted : base + offset = base + units16 char + (offset - units16 char) := by omega
        rw [if_pos within, withEnds, List.filter_cons_of_neg (by simpa using within),
          ih (base + units16 char), shifted]
      · have allBehind : ∀ entry ∈ withEnds base (char :: rest), base + offset < entry.2 := by
          intro entry present
          rcases List.mem_cons.mp present with rfl | later
          · simpa using within
          · have behind := lt_of_mem_withEnds later
            omega
        rw [if_neg within, List.filter_eq_self.mpr (by simpa using allBehind), map_fst_withEnds]

/-- Two cuts leave the characters that end between them. -/
theorem slice16_eq_endingWithin (start stop : Nat) (text : List Char) :
    slice16 start stop text = endingWithin start stop text := by
  rw [slice16, drop16_eq_filter 0, withEnds_take16, List.filter_filter]
  simp [endingWithin]

theorem slice16_append_slice16 (first : start ≤ middle) (second : middle ≤ stop)
    (text : List Char) :
    slice16 start middle text ++ slice16 middle stop text = slice16 start stop text := by
  have parts : take16 start text ++ (slice16 start middle text ++ slice16 middle stop text) =
      take16 start text ++ slice16 start stop text := by
    rw [← List.append_assoc, take16_append_slice16 first, take16_append_slice16 second,
      take16_append_slice16 (Nat.le_trans first second)]
  exact List.append_cancel_left parts

/-- A cut within a character is a cut in front of it. -/
theorem take16_within {front back : List Char} {char : Char} (behind : length16 front ≤ offset)
    (within : offset < length16 front + units16 char) :
    take16 offset (front ++ char :: back) = front := by
  rw [take16_append behind, take16_cons, if_neg (by omega), List.append_nil]

end Text

open Text

namespace InputText

variable {input : InputText} {start stop offset : Nat}

theorem extract_eq_error_iff :
    input.extract start stop = .error (.range start stop input.length) ↔
      stop < start ∨ input.length < stop := by
  constructor
  · intro refused
    by_contra inside
    rw [extract_eq (by omega) (by omega)] at refused
    cases refused
  · intro outside
    rw [extract, checkRange_eq_error outside]
    rfl

/-- What is extracted of any text. A range that is inverted or reaches past the end is refused. Any
other one is cut at two bytes at which characters start, and gives the characters that end behind its
start and not behind its end; an offset within a character has the byte at which this character
starts. The whole range gives the whole text, and adjacent ranges give adjacent texts. -/
theorem extraction_selects_characters (input : InputText) :
    (∀ start stop, input.extract start stop = .error (.range start stop input.length) ↔
      stop < start ∨ input.length < stop) ∧
    (∀ start stop, start ≤ stop → stop ≤ input.length →
      input.extract start stop = .ok (String.ofList (endingWithin start stop input.chars)) ∧
      slice8? (input.byteIndex start) (input.byteIndex stop) input.chars =
        some (endingWithin start stop input.chars)) ∧
    (∀ front char back offset, input.chars = front ++ char :: back → length16 front ≤ offset →
      offset < length16 front + units16 char → input.byteIndex offset = length8 front) ∧
    input.extract 0 input.length = .ok input.text ∧
    ∀ first second third, first ≤ second → second ≤ third → third ≤ input.length →
      ∃ left right, input.extract first second = .ok left ∧
        input.extract second third = .ok right ∧ input.extract first third = .ok (left ++ right) := by
  refine ⟨fun _ _ => extract_eq_error_iff, ?_, ?_, ?_, ?_⟩
  · intro start stop ordered within
    rw [← slice16_eq_endingWithin]
    exact ⟨extract_eq ordered within, slice8?_byteIndex input ordered⟩
  · intro front char back offset whole behind within
    rw [byteIndex_eq, whole, take16_within behind within]
  · have whole : length16 input.chars ≤ input.length := Nat.le_of_eq input.length_eq.symm
    rw [extract_zero (Nat.le_refl _), take16_of_length_le whole, text]
  · intro first second third before behind within
    refine ⟨_, _, extract_eq before (Nat.le_trans behind within), extract_eq behind within, ?_⟩
    rw [extract_eq (Nat.le_trans before behind) within, ← String.ofList_append,
      slice16_append_slice16 before behind]

/-- The second character has two bytes and one code unit, the third one four and two. -/
def wideText : InputText :=
  .ofString "aé😀\nb"

theorem wideText_is_not_split :
    wideText.extract 1 3 = .ok "é" ∧ wideText.extract 3 5 = .ok "😀\n" ∧
      wideText.byteIndex 3 = 3 ∧ wideText.extract 1 5 = .ok ("é" ++ "😀\n") := by
  rcases extraction_selects_characters wideText with ⟨_, selected, within, _, adjacent⟩
  have front : wideText.extract 1 3 = .ok "é" :=
    (selected 1 3 (by decide) (by decide +kernel)).1.trans (by decide +kernel)
  have back : wideText.extract 3 5 = .ok "😀\n" :=
    (selected 3 5 (by decide) (by decide +kernel)).1.trans (by decide +kernel)
  rcases adjacent 1 3 5 (by decide) (by decide) (by decide +kernel) with
    ⟨left, right, leftFound, rightFound, joined⟩
  obtain rfl := Except.ok.inj (front.symm.trans leftFound)
  obtain rfl := Except.ok.inj (back.symm.trans rightFound)
  refine ⟨front, back, ?_, joined⟩
  exact within ['a', 'é'] '😀' ['\n', 'b'] 3 (by decide +kernel) (by decide) (by decide)

end InputText

end ParseTrace
