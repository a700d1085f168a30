/-!
# Lengths and cuts in UTF-16 code units

Offsets into a traced input count UTF-16 code units, while the text itself is a list of
characters. This module measures a text in code units and cuts it at an offset. A cut never
separates the two units of one character: an offset that lies between them cuts before the
character. The main statement is that the two parts of a cut give back the text.
-/

namespace ParseTrace.Text

/-- Code units of one character: two beyond the basic plane and one within it. -/
def units16 (char : Char) : Nat :=
  if char.toNat < 0x10000 then 1 else 2

/-- Code units of a text. -/
def length16 : List Char → Nat
  | [] => 0
  | char :: rest => units16 char + length16 rest

/-- What remains of a text after the characters that end within its first `offset` code units. -/
def drop16 : Nat → List Char → List Char
  | _, [] => []
  | offset, char :: rest =>
      if units16 char ≤ offset then drop16 (offset - units16 char) rest else char :: rest

/-- The characters of a text that end within its first `offset` code units. -/
def take16 (offset : Nat) (text : List Char) : List Char :=
  text.take (text.length - (drop16 offset text).length)

/-- The characters that end after `start` and within the first `stop` code units. -/
def slice16 (start stop : Nat) (text : List Char) : List Char :=
  drop16 start (take16 stop text)

theorem units16_pos (char : Char) : 0 < units16 char := by
  unfold units16
  split <;> omega

@[simp]
theorem length16_nil : length16 [] = 0 := rfl

@[simp]
theorem length16_cons (char : Char) (rest : List Char) :
    length16 (char :: rest) = units16 char + length16 rest := rfl

@[simp]
theorem length16_append (left right : List Char) :
    length16 (left ++ right) = length16 left + length16 right := by
  induction left with
  | nil => simp
  | cons char rest ih => simp [ih, Nat.add_assoc]

theorem drop16_suffix (offset : Nat) (text : List Char) : drop16 offset text <:+ text := by
  induction text generalizing offset with
  | nil => simp [drop16]
  | cons char rest ih =>
    unfold drop16
    split
    · exact (ih _).trans (List.suffix_cons char rest)
    · exact List.suffix_refl _

/-- A cut loses and repeats nothing. -/
theorem take16_append_drop16 (offset : Nat) (text : List Char) :
    take16 offset text ++ drop16 offset text = text := by
  obtain ⟨taken, equation⟩ := drop16_suffix offset text
  have lengths : taken.length = text.length - (drop16 offset text).length := by
    have := congrArg List.length equation
    simp only [List.length_append] at this
    omega
  have : take16 offset text = taken := by
    unfold take16
    rw [← lengths]
    conv => lhs; rw [← equation]
    simp
  rw [this, equation]

end ParseTrace.Text
