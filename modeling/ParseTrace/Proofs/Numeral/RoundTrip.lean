import ParseTrace.Numeral.Integer
import ParseTrace.Text.Blank

/-!
# Written integers read back

An integer is written with a minus sign if it is negative and with its decimal digits, without
blanks. Reading adds the digits up again, and since the partial sums never decrease, none of them
exceeds a limit that the integer keeps. So an integer reads back in every range that holds it.
-/

namespace ParseTrace.Numeral

variable {limit value magnitude : Nat} {excess : IntegerFault} {text : List Char}

theorem code_of_isDigit {char : Char} (isDigit : char.isDigit = true) :
    48 ≤ char.toNat ∧ char.toNat ≤ 57 := by
  simp only [Char.isDigit, Bool.and_eq_true, decide_eq_true_eq, ge_iff_le,
    UInt32.le_iff_toNat_le] at isDigit
  exact isDigit

theorem digit?_of_isDigit {char : Char} (isDigit : char.isDigit = true) :
    digit? char = some (char.toNat - '0'.toNat) := by
  have code := code_of_isDigit isDigit
  have between : '0' ≤ char ∧ char ≤ '9' := by
    simp only [Char.le_def, UInt32.le_iff_toNat_le]
    exact code
  exact if_pos between

theorem isBlank_of_isDigit {char : Char} (isDigit : char.isDigit = true) :
    Text.isBlank char = false := by
  have code := code_of_isDigit isDigit
  simp only [Text.isBlank, Text.blankRanges, List.any_cons, List.any_nil, Bool.or_eq_false_iff,
    Bool.and_eq_false_iff, decide_eq_false_iff_not, and_true]
  omega

/-- Digits never make a number smaller. -/
theorem le_ofDigitChars (value : Nat) (text : List Char) :
    value ≤ Nat.ofDigitChars 10 text value := by
  induction text generalizing value with
  | nil => simp
  | cons char rest ih =>
      rw [Nat.ofDigitChars_cons]
      have := ih (10 * value + (char.toNat - '0'.toNat))
      omega

/-- Digits are read as long as the number that they spell keeps the limit. -/
theorem readMagnitude_eq (digits : ∀ char ∈ text, char.isDigit = true)
    (fits : Nat.ofDigitChars 10 text value ≤ limit) :
    readMagnitude limit excess value text = .ok (Nat.ofDigitChars 10 text value) := by
  induction text generalizing value with
  | nil => simp [readMagnitude]
  | cons char rest ih =>
      rw [List.forall_mem_cons] at digits
      rw [Nat.ofDigitChars_cons] at fits ⊢
      have partly : 10 * value + (char.toNat - '0'.toNat) ≤ limit :=
        Nat.le_trans (le_ofDigitChars _ rest) fits
      simp only [readMagnitude, digit?_of_isDigit digits.1, if_pos partly]
      exact ih digits.2 fits

theorem isDigit_of_mem_toDigits {char : Char} (present : char ∈ Nat.toDigits 10 magnitude) :
    char.isDigit = true :=
  Nat.isDigit_of_mem_toDigits (by decide) (by decide) present

theorem not_mem_toDigits (char : Char) (noDigit : char.isDigit = false) (value : Nat) :
    char ∉ Nat.toDigits 10 value := by
  intro present
  rw [isDigit_of_mem_toDigits present] at noDigit
  exact Bool.noConfusion noDigit

theorem readMagnitude_toDigits (excess : IntegerFault) (fits : magnitude ≤ limit) :
    readMagnitude limit excess 0 (Nat.toDigits 10 magnitude) = .ok magnitude := by
  have spelled : Nat.ofDigitChars 10 (Nat.toDigits 10 magnitude) 0 = magnitude :=
    Nat.ofDigitChars_ten_toDigits
  rw [readMagnitude_eq (fun _ => isDigit_of_mem_toDigits) (by rwa [spelled]), spelled]

/-- The digits of a number begin with a digit, so there is one and it is no sign. -/
theorem toDigits_eq_cons (magnitude : Nat) :
    ∃ first rest, Nat.toDigits 10 magnitude = first :: rest ∧ first.isDigit = true := by
  cases digits : Nat.toDigits 10 magnitude with
  | nil => exact absurd digits Nat.toDigits_ne_nil
  | cons first rest =>
      have present : first ∈ Nat.toDigits 10 magnitude := by
        rw [digits]
        exact List.mem_cons_self
      exact ⟨first, rest, rfl, isDigit_of_mem_toDigits present⟩

/-- A written integer holds digits and at most a sign in front of them. -/
theorem isDigit_or_sign_of_mem_writeInteger {value : Int} {char : Char}
    (present : char ∈ writeInteger value) : char.isDigit = true ∨ char = '-' := by
  cases value with
  | ofNat magnitude => exact Or.inl (isDigit_of_mem_toDigits present)
  | negSucc magnitude =>
      rcases List.mem_cons.mp present with rfl | digit
      · exact Or.inr rfl
      · exact Or.inl (isDigit_of_mem_toDigits digit)

@[simp]
theorem trim_writeInteger (value : Int) : Text.trim (writeInteger value) = writeInteger value := by
  apply Text.trim_eq_self
  intro char present
  rcases isDigit_or_sign_of_mem_writeInteger present with isDigit | rfl
  · exact isBlank_of_isDigit isDigit
  · decide

theorem readInteger_of_noSign {range : IntegerRange} {first : Char} {rest : List Char}
    (noPlus : first ≠ '+') (noMinus : first ≠ '-') :
    readInteger range (first :: rest) =
      (readMagnitude range.greatest.toNat .tooLarge 0 (first :: rest)).map Int.ofNat := by
  simp [readInteger, noPlus, noMinus]

/-- A digit at the start is no sign. -/
theorem readInteger_of_isDigit {range : IntegerRange} {first : Char} {rest : List Char}
    (isDigit : first.isDigit = true) :
    readInteger range (first :: rest) =
      (readMagnitude range.greatest.toNat .tooLarge 0 (first :: rest)).map Int.ofNat := by
  have noPlus : first ≠ '+' := by
    rintro rfl
    exact absurd isDigit (by decide)
  have noMinus : first ≠ '-' := by
    rintro rfl
    exact absurd isDigit (by decide)
  exact readInteger_of_noSign noPlus noMinus

/-- An integer reads back in every range that holds it. -/
theorem readInteger_writeInteger {range : IntegerRange} {value : Int}
    (inRange : range.Contains value) : readInteger range (writeInteger value) = .ok value := by
  rcases inRange with ⟨least, greatest⟩
  cases value with
  | ofNat magnitude =>
      dsimp only [Int.ofNat_eq_natCast] at greatest
      have fits : magnitude ≤ range.greatest.toNat := by omega
      have read := readMagnitude_toDigits .tooLarge fits
      rcases toDigits_eq_cons magnitude with ⟨first, rest, digits, isDigit⟩
      simp only [writeInteger]
      rw [digits] at read ⊢
      rw [readInteger_of_isDigit isDigit, read]
      rfl
  | negSucc magnitude =>
      have negative : range.least < 0 := Int.lt_of_le_of_lt least (Int.negSucc_lt_zero magnitude)
      have fits : magnitude + 1 ≤ range.least.natAbs := by omega
      have read := readMagnitude_toDigits .tooSmall fits
      rcases toDigits_eq_cons (magnitude + 1) with ⟨first, rest, digits, _⟩
      simp only [writeInteger]
      rw [digits] at read ⊢
      simp only [readInteger, if_pos negative, read, Except.map]
      rfl

end ParseTrace.Numeral
