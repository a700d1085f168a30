/-!
# White space around a text

Blank characters are those with the Unicode property `White_Space`.
-/

namespace ParseTrace.Text

/-- The ranges of blank characters, first and last code point of each. -/
def blankRanges : List (Nat × Nat) :=
  [(0x9, 0xd), (0x20, 0x20), (0x85, 0x85), (0xa0, 0xa0), (0x1680, 0x1680), (0x2000, 0x200a),
    (0x2028, 0x2029), (0x202f, 0x202f), (0x205f, 0x205f), (0x3000, 0x3000)]

/-- Whether a character has the property `White_Space`. -/
def isBlank (char : Char) : Bool :=
  blankRanges.any fun range => range.1 ≤ char.toNat && char.toNat ≤ range.2

/-- A text without the blank characters at its two ends. -/
def trim (text : List Char) : List Char :=
  ((text.dropWhile isBlank).reverse.dropWhile isBlank).reverse

/-- A text without blanks has none at its ends. -/
theorem trim_eq_self {text : List Char} (noBlank : ∀ char ∈ text, isBlank char = false) :
    trim text = text := by
  have unchanged : ∀ part : List Char, (∀ char ∈ part, isBlank char = false) →
      part.dropWhile isBlank = part := by
    intro part partNoBlank
    cases part with
    | nil => rfl
    | cons first rest =>
        have firstNoBlank := partNoBlank first List.mem_cons_self
        simp [firstNoBlank]
  have reversed : ∀ char ∈ text.reverse, isBlank char = false := by
    intro char present
    exact noBlank char (List.mem_reverse.mp present)
  rw [trim, unchanged text noBlank, unchanged text.reverse reversed, List.reverse_reverse]

end ParseTrace.Text
