import ParseTrace.Proofs.Input.Spans

/-!
# Cuts at bytes

An offset is turned into a byte in two steps: a look-up among the lines, and a walk along the line that
was found. The walk begins with as much text in front of it as both tables say, so it ends at the byte
in front of which stand exactly the characters that end at or before the offset. A byte found in this
way is never within a character, and what lies between two of them is what lies between their offsets.
-/

namespace ParseTrace.InputText

open Text

variable {input : InputText} {start stop offset : Nat}

/-- A walk passes the characters that end at or before the offset. -/
theorem seekByte?_eq {unit : Nat} (behind : unit ≤ offset) (byte : Nat) (text : List Char) :
    (seekByte? offset unit byte text).getD (byte + length8 text) =
      byte + length8 (take16 (offset - unit) text) := by
  induction text generalizing unit byte with
  | nil => simp [seekByte?]
  | cons char rest ih =>
      rw [seekByte?, take16_cons]
      by_cases passed : unit + units16 char ≤ offset
      · rw [if_neg (by omega), if_pos (by omega), length8_cons, length8_cons, ← Nat.add_assoc,
          ih passed, Nat.sub_sub, Nat.add_assoc]
      · rw [if_pos (by omega), if_neg (by omega)]
        rfl

/-- In front of the byte of an offset stand the characters that end at or before it. -/
theorem byteIndex_eq (input : InputText) (offset : Nat) :
    input.byteIndex offset = length8 (take16 offset input.chars) := by
  have inTable := input.lineNumber_pred_lt offset
  have behind := input.length16_front_lineNumber_le offset
  have whole := input.front_append (input.lineNumber offset - 1)
  generalize ((lines input.chars).drop (input.lineNumber offset - 1)).flatten = rest at whole
  -- The line is found at a byte in front of a character, so the walk begins with its text.
  have line : input.slice (length8 (input.front (input.lineNumber offset - 1)))
      (length8 input.chars) = rest := by
    have cut := slice8?_append (input.front (input.lineNumber offset - 1)) rest []
    rw [List.append_nil, whole] at cut
    rw [slice, cut]
    rfl
  simp only [byteIndex, getElem?_lineStarts inTable, getElem?_lineBytes inTable, Option.getD_some, line]
  conv => lhs; rw [← whole, length8_append]
  conv => rhs; rw [← whole, take16_append behind, length8_append]
  exact seekByte?_eq behind _ rest

/-- Between the bytes of two offsets lies the text between the offsets. -/
theorem slice8?_byteIndex (input : InputText) (ordered : start ≤ stop) :
    slice8? (input.byteIndex start) (input.byteIndex stop) input.chars =
      some (slice16 start stop input.chars) := by
  have cut := slice8?_append (take16 start input.chars) (slice16 start stop input.chars)
    (drop16 stop input.chars)
  rw [take16_append_slice16 ordered, take16_append_drop16] at cut
  rw [byteIndex_eq, byteIndex_eq, cut]

theorem slice_byteIndex (input : InputText) (ordered : start ≤ stop) :
    input.slice (input.byteIndex start) (input.byteIndex stop) =
      slice16 start stop input.chars := by
  rw [slice, slice8?_byteIndex input ordered, Option.getD_some]

theorem slice_zero (input : InputText) (offset : Nat) :
    input.slice 0 (input.byteIndex offset) = take16 offset input.chars := by
  have cut := slice8?_append [] (take16 offset input.chars) (drop16 offset input.chars)
  rw [List.nil_append, take16_append_drop16, length8_nil] at cut
  rw [slice, byteIndex_eq, cut, Option.getD_some]

theorem slice_length8 (input : InputText) (offset : Nat) :
    input.slice (input.byteIndex offset) (length8 input.chars) = drop16 offset input.chars := by
  have cut := slice8?_append (take16 offset input.chars) (drop16 offset input.chars) []
  rw [List.append_nil, take16_append_drop16] at cut
  rw [slice, byteIndex_eq, cut, Option.getD_some]

end ParseTrace.InputText
