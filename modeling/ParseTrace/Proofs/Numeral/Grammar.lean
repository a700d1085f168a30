import ParseTrace.Proofs.Numeral.RoundTrip

/-!
# Which texts are integers

A numeral is a sign, which may be left out, and decimal digits. The minus sign belongs to ranges
with negative integers only. Reading gives up as soon as the digits so far come to too much, and it
loses nothing by that, because further digits never make a number smaller. So what it reads are the
numerals whose integer lies in the range, and no other text. Blanks around a numeral are trimmed
off, and since no numeral begins or ends with a blank, nothing else is.
-/

namespace ParseTrace

namespace Text

theorem dropWhile_isBlank_append {part rest : List Char}
    (noBlank : ∀ char ∈ part, isBlank char = false) (nonempty : part ≠ []) :
    (part ++ rest).dropWhile isBlank = part ++ rest := by
  cases part with
  | nil => exact absurd rfl nonempty
  | cons first others => simp [noBlank first List.mem_cons_self]

/-- Of a text without blanks between blanks, trimming leaves just the text. -/
theorem trim_append_append {before middle after : List Char}
    (blankBefore : ∀ char ∈ before, isBlank char = true)
    (noBlank : ∀ char ∈ middle, isBlank char = false) (nonempty : middle ≠ [])
    (blankAfter : ∀ char ∈ after, isBlank char = true) :
    trim (before ++ middle ++ after) = middle := by
  have fromBack : (after.reverse ++ middle.reverse).dropWhile isBlank = middle.reverse := by
    have blank : ∀ char ∈ after.reverse, isBlank char = true :=
      fun char present => blankAfter char (List.mem_reverse.mp present)
    rw [List.dropWhile_append_of_pos blank, ← List.append_nil middle.reverse]
    apply dropWhile_isBlank_append
    · exact fun char present => noBlank char (List.mem_reverse.mp present)
    · exact fun empty => nonempty (List.reverse_eq_nil_iff.mp empty)
  rw [trim, List.append_assoc, List.dropWhile_append_of_pos blankBefore,
    dropWhile_isBlank_append noBlank nonempty, List.reverse_append, fromBack, List.reverse_reverse]

/-- What trimming takes away are blanks on both sides. -/
theorem exists_append_trim (text : List Char) :
    ∃ before after, text = before ++ trim text ++ after ∧
      (∀ char ∈ before, isBlank char = true) ∧ ∀ char ∈ after, isBlank char = true := by
  have behind : text.dropWhile isBlank =
      trim text ++ ((text.dropWhile isBlank).reverse.takeWhile isBlank).reverse := by
    rw [trim, ← List.reverse_append, List.takeWhile_append_dropWhile, List.reverse_reverse]
  refine ⟨text.takeWhile isBlank, ((text.dropWhile isBlank).reverse.takeWhile isBlank).reverse,
    ?_, ?_, ?_⟩
  · rw [List.append_assoc, ← behind, List.takeWhile_append_dropWhile]
  · exact List.all_eq_true.mp List.all_takeWhile
  · intro char present
    exact List.all_eq_true.mp List.all_takeWhile char (List.mem_reverse.mp present)

end Text

namespace Numeral

/-- The text consists of decimal digits, at least one, and this is the number that they spell. -/
structure Spells (text : List Char) (magnitude : Nat) : Prop where
  nonempty : text ≠ []
  digits : ∀ char ∈ text, char.isDigit = true
  value : Nat.ofDigitChars 10 text 0 = magnitude

/-- The text is a numeral of an integer in the range. -/
inductive IsNumeral (range : IntegerRange) : List Char → Int → Prop where
  | bare {digits : List Char} {magnitude : Nat} (spells : Spells digits magnitude)
      (inRange : range.Contains magnitude) : IsNumeral range digits magnitude
  | plus {digits : List Char} {magnitude : Nat} (spells : Spells digits magnitude)
      (inRange : range.Contains magnitude) : IsNumeral range ('+' :: digits) magnitude
  | minus {digits : List Char} {magnitude : Nat} (signed : range.least < 0)
      (spells : Spells digits magnitude) (inRange : range.Contains (-magnitude)) :
      IsNumeral range ('-' :: digits) (-magnitude)

/-- The text is a numeral with blanks around it. -/
def IsPadded (range : IntegerRange) (text : List Char) (value : Int) : Prop :=
  ∃ before numeral after, text = before ++ numeral ++ after ∧
    (∀ char ∈ before, Text.isBlank char = true) ∧ (∀ char ∈ after, Text.isBlank char = true) ∧
    IsNumeral range numeral value

variable {range : IntegerRange} {limit value result : Nat} {excess : IntegerFault}
  {text : List Char} {number : Int}

theorem isDigit_of_digit? {char : Char} {digit : Nat} (found : digit? char = some digit) :
    char.isDigit = true := by
  rw [digit?] at found
  split at found
  next between =>
    simp only [Char.le_def, UInt32.le_iff_toNat_le] at between
    simp only [Char.isDigit, Bool.and_eq_true, decide_eq_true_eq, ge_iff_le,
      UInt32.le_iff_toNat_le]
    exact between
  next => cases found

/-- What is read are digits, and the number that they spell keeps the limit. -/
theorem digits_of_readMagnitude (start : value ≤ limit)
    (read : readMagnitude limit excess value text = .ok result) :
    (∀ char ∈ text, char.isDigit = true) ∧ Nat.ofDigitChars 10 text value = result ∧
      result ≤ limit := by
  -- Each digit keeps the limit, so that what was read before keeps it throughout.
  induction text generalizing value with
  | nil =>
      cases read
      exact ⟨List.forall_mem_nil _, Nat.ofDigitChars_nil, start⟩
  | cons char rest ih =>
      simp only [readMagnitude] at read
      split at read
      · cases read
      next digit found =>
        split at read
        next fits =>
          rcases ih fits read with ⟨digits, spelled, bounded⟩
          have isDigit := isDigit_of_digit? found
          rw [digit?_of_isDigit isDigit] at found
          obtain rfl := Option.some.inj found
          rw [Nat.ofDigitChars_cons]
          exact ⟨List.forall_mem_cons.mpr ⟨isDigit, digits⟩, spelled, bounded⟩
        next => cases read

theorem readMagnitude_eq_ok_iff (nonempty : text ≠ []) :
    readMagnitude limit excess 0 text = .ok result ↔ Spells text result ∧ result ≤ limit := by
  constructor
  · intro read
    rcases digits_of_readMagnitude (Nat.zero_le _) read with ⟨digits, spelled, bounded⟩
    exact ⟨⟨nonempty, digits, spelled⟩, bounded⟩
  · rintro ⟨⟨_, digits, rfl⟩, bounded⟩
    exact readMagnitude_eq digits bounded

/-- Behind a sign of which the limit takes account, digits are read as far as the range goes. -/
theorem map_readMagnitude_eq_ok_iff {signed : Nat → Int} (nonempty : text ≠ [])
    (bound : ∀ magnitude, magnitude ≤ limit ↔ range.Contains (signed magnitude)) :
    (readMagnitude limit excess 0 text).map signed = .ok number ↔
      ∃ magnitude, number = signed magnitude ∧ Spells text magnitude ∧
        range.Contains (signed magnitude) := by
  constructor
  · intro read
    cases outcome : readMagnitude limit excess 0 text with
    | error fault =>
        rw [outcome] at read
        cases read
    | ok magnitude =>
        rw [outcome] at read
        cases read
        rcases (readMagnitude_eq_ok_iff nonempty).mp outcome with ⟨spells, fits⟩
        exact ⟨magnitude, rfl, spells, (bound magnitude).mp fits⟩
  · rintro ⟨magnitude, rfl, spells, inRange⟩
    rw [(readMagnitude_eq_ok_iff nonempty).mpr ⟨spells, (bound magnitude).mpr inRange⟩]
    rfl

theorem le_greatest_iff (zero : range.Contains 0) (magnitude : Nat) :
    magnitude ≤ range.greatest.toNat ↔ range.Contains (Int.ofNat magnitude) := by
  rcases zero with ⟨least, greatest⟩
  simp only [IntegerRange.Contains, Int.ofNat_eq_natCast]
  omega

theorem le_natAbs_least_iff (zero : range.Contains 0) (magnitude : Nat) :
    magnitude ≤ range.least.natAbs ↔ range.Contains (-(magnitude : Int)) := by
  rcases zero with ⟨least, greatest⟩
  simp only [IntegerRange.Contains]
  omega

/-- A sign that stands first is not a digit. -/
theorem not_spells_sign {sign : Char} {rest : List Char} (noDigit : sign.isDigit = false) :
    ¬Spells (sign :: rest) value := by
  intro spells
  have isDigit := spells.digits sign List.mem_cons_self
  rw [noDigit] at isDigit
  cases isDigit

theorem readInteger_plus (nonempty : text ≠ []) :
    readInteger range ('+' :: text) =
      (readMagnitude range.greatest.toNat .tooLarge 0 text).map Int.ofNat := by
  simp [readInteger]

theorem readInteger_minus (nonempty : text ≠ []) :
    readInteger range ('-' :: text) =
      if range.least < 0 then
        (readMagnitude range.least.natAbs .tooSmall 0 text).map fun magnitude : Nat =>
          -(magnitude : Int)
      else .error .invalidDigit := by
  simp only [readInteger]
  cases readMagnitude range.least.natAbs .tooSmall 0 text <;> rfl

theorem isNumeral_plus_iff :
    IsNumeral range ('+' :: text) number ↔
      ∃ magnitude : Nat, number = magnitude ∧ Spells text magnitude ∧ range.Contains magnitude := by
  constructor
  · intro isNumeral
    cases isNumeral with
    | bare spells inRange => exact absurd spells (not_spells_sign (by decide))
    | plus spells inRange => exact ⟨_, rfl, spells, inRange⟩
  · rintro ⟨magnitude, rfl, spells, inRange⟩
    exact .plus spells inRange

theorem isNumeral_minus_iff :
    IsNumeral range ('-' :: text) number ↔
      range.least < 0 ∧ ∃ magnitude : Nat, number = -magnitude ∧ Spells text magnitude ∧
        range.Contains (-magnitude) := by
  constructor
  · intro isNumeral
    cases isNumeral with
    | bare spells inRange => exact absurd spells (not_spells_sign (by decide))
    | minus signed spells inRange => exact ⟨signed, _, rfl, spells, inRange⟩
  · rintro ⟨signed, magnitude, rfl, spells, inRange⟩
    exact .minus signed spells inRange

theorem isNumeral_of_noSign {first : Char} {rest : List Char} (noPlus : first ≠ '+')
    (noMinus : first ≠ '-') :
    IsNumeral range (first :: rest) number ↔
      ∃ magnitude : Nat, number = magnitude ∧ Spells (first :: rest) magnitude ∧
        range.Contains magnitude := by
  constructor
  · intro isNumeral
    cases isNumeral with
    | bare spells inRange => exact ⟨_, rfl, spells, inRange⟩
    | plus spells inRange => exact absurd rfl noPlus
    | minus signed spells inRange => exact absurd rfl noMinus
  · rintro ⟨magnitude, rfl, spells, inRange⟩
    exact .bare spells inRange

/-- What is read of a text is the integer of which it is a numeral. -/
theorem readInteger_eq_ok_iff (zero : range.Contains 0) :
    readInteger range text = .ok number ↔ IsNumeral range text number := by
  cases text with
  | nil =>
      refine iff_of_false (fun read => by cases read) ?_
      rintro ⟨spells, _⟩
      exact spells.nonempty rfl
  | cons first rest =>
      by_cases plus : first = '+'
      · subst plus
        rw [isNumeral_plus_iff]
        -- No digits come to zero, but a sign without digits is not read.
        by_cases empty : rest = []
        · subst empty
          refine iff_of_false (fun read => by cases read) ?_
          rintro ⟨_, _, spells, _⟩
          exact spells.nonempty rfl
        · rw [readInteger_plus empty]
          exact map_readMagnitude_eq_ok_iff empty (le_greatest_iff zero)
      · by_cases minus : first = '-'
        · subst minus
          rw [isNumeral_minus_iff]
          by_cases empty : rest = []
          · subst empty
            refine iff_of_false (fun read => by cases read) ?_
            rintro ⟨_, _, _, spells, _⟩
            exact spells.nonempty rfl
          · by_cases signed : range.least < 0
            · rw [readInteger_minus empty, if_pos signed]
              simp only [signed, true_and]
              exact map_readMagnitude_eq_ok_iff empty (le_natAbs_least_iff zero)
            · rw [readInteger_minus empty, if_neg signed]
              exact iff_of_false (fun read => by cases read) fun isNumeral => signed isNumeral.1
        · rw [readInteger_of_noSign plus minus, isNumeral_of_noSign plus minus]
          exact map_readMagnitude_eq_ok_iff (List.cons_ne_nil first rest) (le_greatest_iff zero)

theorem Spells.noBlank (spells : Spells text value) :
    ∀ char ∈ text, Text.isBlank char = false :=
  fun char present => isBlank_of_isDigit (spells.digits char present)

/-- A numeral is not empty, and there is no blank in it. -/
theorem IsNumeral.noBlank (isNumeral : IsNumeral range text number) :
    text ≠ [] ∧ ∀ char ∈ text, Text.isBlank char = false := by
  cases isNumeral with
  | bare spells inRange => exact ⟨spells.nonempty, spells.noBlank⟩
  | plus spells inRange =>
      exact ⟨List.cons_ne_nil _ _, List.forall_mem_cons.mpr ⟨by decide, spells.noBlank⟩⟩
  | minus signed spells inRange =>
      exact ⟨List.cons_ne_nil _ _, List.forall_mem_cons.mpr ⟨by decide, spells.noBlank⟩⟩

theorem IsNumeral.inRange (isNumeral : IsNumeral range text number) : range.Contains number := by
  cases isNumeral with
  | bare spells inRange => exact inRange
  | plus spells inRange => exact inRange
  | minus signed spells inRange => exact inRange

/-- An integer that is read lies in its range, if the range holds zero. -/
theorem contains_of_readInteger (zero : range.Contains 0)
    (read : readInteger range text = .ok number) : range.Contains number :=
  ((readInteger_eq_ok_iff zero).mp read).inRange

/-- What is read of a trimmed text is the integer of which it is a padded numeral. -/
theorem readInteger_trim_eq_ok_iff (zero : range.Contains 0) :
    readInteger range (Text.trim text) = .ok number ↔ IsPadded range text number := by
  rw [readInteger_eq_ok_iff zero]
  constructor
  · intro isNumeral
    rcases Text.exists_append_trim text with ⟨before, after, parts, blankBefore, blankAfter⟩
    exact ⟨before, Text.trim text, after, parts, blankBefore, blankAfter, isNumeral⟩
  · rintro ⟨before, numeral, after, rfl, blankBefore, blankAfter, isNumeral⟩
    rcases isNumeral.noBlank with ⟨nonempty, noBlank⟩
    rwa [Text.trim_append_append blankBefore noBlank nonempty blankAfter]

end Numeral

end ParseTrace
