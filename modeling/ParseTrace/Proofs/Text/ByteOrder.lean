import Mathlib.Data.String.Basic
import Mathlib.Tactic.SplitIfs
import ParseTrace.Text.Utf8

/-!
# The order of texts and of their bytes

Texts are compared character by character, and bytes are compared one by one. In the encoding UTF-8 the
first byte of a character is the greater the more bytes follow, and the bytes of a character hold its
digits with the highest in front. So of two texts the one that comes first has the bytes that come first.
-/

namespace ParseTrace.Utf8

open String (utf8EncodeChar)

/-- Two texts of bytes are in order by their first bytes, or behind them if those are equal. -/
theorem cons_lt_cons_of_le {first second : Nat} {rest others : List UInt8} (byte : second < 256)
    (ordered : first ≤ second) (behind : first = second → rest < others) :
    UInt8.ofNat first :: rest < UInt8.ofNat second :: others := by
  rw [List.cons_lt_cons_iff]
  rcases Nat.lt_or_eq_of_le ordered with less | same
  · left
    rw [UInt8.lt_iff_toNat_lt, UInt8.toNat_ofNat', UInt8.toNat_ofNat']
    omega
  · exact Or.inr ⟨by rw [same], behind same⟩

/-- The bytes of a smaller character come first, whatever follows. -/
theorem utf8EncodeChar_append_lt {char other : Char} (less : char < other)
    (rest others : List UInt8) :
    utf8EncodeChar char ++ rest < utf8EncodeChar other ++ others := by
  have bound : other.val.toNat < 2 ^ 21 := by
    have valid := other.valid
    simp only [UInt32.isValidChar, Nat.isValidChar] at valid
    omega
  have ordered : char.val.toNat < other.val.toNat := less
  simp only [utf8EncodeChar]
  generalize char.val.toNat = code at *
  generalize other.val.toNat = otherCode at *
  split_ifs
  all_goals simp only [List.cons_append, List.nil_append]
  -- Unless the first bytes already differ, both have as many digits, and they are compared in turn.
  all_goals repeat' refine cons_lt_cons_of_le (by omega) (by omega) fun _ => ?_
  all_goals omega

theorem flatMap_lt_flatMap {left right : List Char} (less : left < right) :
    left.flatMap utf8EncodeChar < right.flatMap utf8EncodeChar := by
  induction left generalizing right with
  | nil =>
      cases right with
      | nil => exact absurd less (List.lt_irrefl _)
      | cons char rest =>
          have nonempty : utf8EncodeChar char ≠ [] := String.utf8EncodeChar_ne_nil
          rcases List.exists_cons_of_ne_nil nonempty with ⟨byte, others, bytes⟩
          rw [List.flatMap_cons, bytes]
          exact List.nil_lt_cons _ _
  | cons char rest ih =>
      cases right with
      | nil => exact absurd less (List.not_lt_nil _)
      | cons other others =>
          rw [List.flatMap_cons, List.flatMap_cons]
          rcases List.cons_lt_cons_iff.mp less with smaller | ⟨rfl, behind⟩
          · exact utf8EncodeChar_append_lt smaller _ _
          · exact List.append_left_lt (ih behind)

theorem encode_eq (text : String) : encode text = text.toList.flatMap utf8EncodeChar := by
  rw [encode, ← String.utf8Encode_toList, List.utf8Encode, List.data_toByteArray]

/-- Texts are ordered as their bytes are. -/
theorem encode_lt_encode {left right : String} (less : left < right) :
    encode left < encode right := by
  rw [encode_eq, encode_eq]
  exact flatMap_lt_flatMap (String.lt_iff_toList_lt.mp less)

end ParseTrace.Utf8
