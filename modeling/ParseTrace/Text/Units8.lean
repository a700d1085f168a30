/-!
# Lengths and cuts in bytes

In the encoding UTF-8 a character takes up to four bytes. A text can be cut at a byte only where a
character begins or the text ends, and what lies between two such bytes is a text again. The main
statement says that a cut at a byte is a cut in front of a character with that many bytes before it.
-/

namespace ParseTrace.Text

/-- Bytes of a text. -/
def length8 : List Char → Nat
  | [] => 0
  | char :: rest => char.utf8Size + length8 rest

/-- A text cut at a byte, unless the byte lies within a character or behind the end. -/
def cut8? (place : Nat) : List Char → Option (List Char × List Char)
  | [] => if place = 0 then some ([], []) else none
  | char :: rest =>
      if place = 0 then some ([], char :: rest)
      else if place < char.utf8Size then none
      else (cut8? (place - char.utf8Size) rest).map fun (front, back) => (char :: front, back)

/-- The text between two bytes, unless they are inverted or one of them cuts no text. -/
def slice8? (start stop : Nat) (text : List Char) : Option (List Char) := do
  let (front, _) ← cut8? stop text
  let (_, middle) ← cut8? start front
  return middle

@[simp]
theorem length8_nil : length8 [] = 0 := rfl

@[simp]
theorem length8_cons (char : Char) (rest : List Char) :
    length8 (char :: rest) = char.utf8Size + length8 rest := rfl

@[simp]
theorem length8_append (left right : List Char) :
    length8 (left ++ right) = length8 left + length8 right := by
  induction left with
  | nil => simp
  | cons char rest ih => simp [ih, Nat.add_assoc]

theorem cut8?_length8 (front back : List Char) :
    cut8? (length8 front) (front ++ back) = some (front, back) := by
  induction front with
  | nil => cases back <;> rfl
  | cons char rest ih =>
    have wide := char.utf8Size_pos
    have nonzero : char.utf8Size + length8 rest ≠ 0 := by omega
    have behind : ¬char.utf8Size + length8 rest < char.utf8Size := by omega
    rw [List.cons_append, length8_cons, cut8?, if_neg nonzero, if_neg behind, Nat.add_sub_cancel_left,
      ih]
    rfl

theorem slice8?_append (front middle back : List Char) :
    slice8? (length8 front) (length8 (front ++ middle)) (front ++ middle ++ back) =
      some middle := by
  rw [slice8?, cut8?_length8]
  simp [cut8?_length8]

end ParseTrace.Text
