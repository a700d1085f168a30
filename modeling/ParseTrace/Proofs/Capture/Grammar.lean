import ParseTrace.Proofs.Capture.Delivery
import ParseTrace.Proofs.Numeral.Grammar

/-!
# Which records are invocations

A record lists an invocation if its fields are texts, there are at least eight of them, and each of
the first eight holds an integer of its column. Nothing else is asked for, in whatever order the
columns are looked at. A record that lists none is malformed if it is no text, and invalid if it is.
-/

namespace ParseTrace

namespace Capture

open Delimited (RawRecord)
open Numeral (IntegerRange IsPadded)

/-- The column holds this integer, one of the given range, and possibly blanks around it. -/
def ColumnHolds (range : IntegerRange) (fields : Fields) (column : Nat) (value : Int) : Prop :=
  ∃ raw, fields[column]? = some raw ∧ IsPadded range raw.toList value

/-- The fields list the invocation under its identifier. Fields behind the eighth are ignored. -/
structure ListsInvocation (fields : Fields) (item : NodeId × Invocation) : Prop where
  columns : 8 ≤ fields.length
  /-- Every negative number says that there is no parent. -/
  parent : ∃ number, ColumnHolds .signed64 fields 0 number ∧ number ≤ maxNodeId ∧
    item.2.parent = if number < 0 then none else some number
  id : ColumnHolds .signed32 fields 1 item.1
  level : ColumnHolds .unsigned32 fields 2 item.2.level
  success : ColumnHolds .unsigned8 fields 3 (if item.2.success then 1 else 0)
  rule : ColumnHolds .signed32 fields 4 item.2.rule
  start : ColumnHolds .unsigned64 fields 5 item.2.start
  stop : ColumnHolds .unsigned64 fields 6 item.2.stop
  nanos : ColumnHolds .unsigned64 fields 7 item.2.nanos

/-- The fields of the record are these texts. -/
def HasTexts (record : RawRecord) (fields : Fields) : Prop :=
  record.fields = fields.map Utf8.encode

/-- The record lists the invocation under its identifier. -/
def RecordLists (record : RawRecord) (item : NodeId × Invocation) : Prop :=
  ∃ fields, HasTexts record fields ∧ ListsInvocation fields item

section Columns

variable {range : IntegerRange} {fields : Fields} {column : Nat} {value : Int}

theorem textColumn_eq_ok_iff {raw : String} :
    textColumn fields column = .ok raw ↔ fields[column]? = some raw := by
  rw [textColumn]
  cases fields[column]? <;> simp

theorem integerColumn_eq_ok_iff (zero : range.Contains 0) :
    integerColumn range fields column = .ok value ↔ ColumnHolds range fields column value := by
  rw [integerColumn, bind_eq_ok_iff]
  refine exists_congr fun raw => and_congr textColumn_eq_ok_iff ?_
  rw [← Numeral.readInteger_trim_eq_ok_iff zero]
  cases Numeral.readInteger range (Text.trim raw.toList) with
  | error cause => exact iff_of_false (fun read => by cases read) fun read => by cases read
  | ok number => simp [pure, Except.pure]

theorem ColumnHolds.inRange (holds : ColumnHolds range fields column value) :
    range.Contains value := by
  rcases holds with ⟨raw, _, before, numeral, after, _, _, _, isNumeral⟩
  exact isNumeral.inRange

theorem naturalColumn_eq_ok_iff {number : Nat} (zero : range.Contains 0)
    (unsigned : range.least = 0) :
    naturalColumn range fields column = .ok number ↔ ColumnHolds range fields column number := by
  rw [← integerColumn_eq_ok_iff zero, naturalColumn]
  cases outcome : integerColumn range fields column with
  | error fault => exact iff_of_false (fun read => by cases read) fun read => by cases read
  | ok value =>
      have natural : 0 ≤ value := by
        rw [← unsigned]
        exact ((integerColumn_eq_ok_iff zero).mp outcome).inRange.1
      constructor
      · intro read
        cases read
        rw [Int.toNat_of_nonneg natural]
      · intro read
        cases read
        rfl

theorem readParent_eq_ok_iff {number : Int} {parent : Option NodeId} :
    readParent number = .ok parent ↔
      number ≤ maxNodeId ∧ parent = if number < 0 then none else some number := by
  rw [readParent]
  by_cases negative : number < 0
  · have small : number ≤ maxNodeId := Int.le_trans (Int.le_of_lt negative) (by decide)
    simp [negative, small, eq_comm]
  · rw [if_neg negative, if_neg negative]
    by_cases small : number ≤ maxNodeId <;> simp [small, eq_comm]

theorem readSuccess_eq_ok_iff {flag : Int} {success : Bool} :
    readSuccess flag = .ok success ↔ flag = if success then 1 else 0 := by
  rw [readSuccess]
  by_cases zero : flag = 0
  · subst zero
    cases success <;> simp
  · rw [if_neg zero]
    by_cases one : flag = 1
    · subst one
      cases success <;> simp
    · cases success <;> simp [zero, one]

/-- What is read of the fields is the invocation that they list. -/
theorem readInvocation_eq_ok_iff {item : NodeId × Invocation} :
    readInvocation fields = .ok item ↔ ListsInvocation fields item := by
  simp (disch := decide) only [readInvocation, bind_eq_ok_iff, integerColumn_eq_ok_iff,
    naturalColumn_eq_ok_iff, readParent_eq_ok_iff, readSuccess_eq_ok_iff]
  constructor
  · rintro ⟨number, parentHolds, id, idHolds, flag, flagHolds, parent, ⟨small, rfl⟩, level,
      levelHolds, success, rfl, rule, ruleHolds, start, startHolds, stop, stopHolds, nanos,
      nanosHolds, ⟨⟩⟩
    -- That there are eight fields is known from the last of them.
    rcases nanosHolds with ⟨raw, found, padded⟩
    exact ⟨(List.getElem?_eq_some_iff.mp found).1, ⟨number, parentHolds, small, rfl⟩, idHolds,
      levelHolds, flagHolds, ruleHolds, startHolds, stopHolds, ⟨raw, found, padded⟩⟩
  · rintro ⟨_, ⟨number, parentHolds, small, parent⟩, idHolds, levelHolds, flagHolds, ruleHolds,
      startHolds, stopHolds, nanosHolds⟩
    exact ⟨number, parentHolds, _, idHolds, _, flagHolds, _, ⟨small, parent⟩, _, levelHolds, _,
      rfl, _, ruleHolds, _, startHolds, _, stopHolds, _, nanosHolds, rfl⟩

end Columns

section Records

variable {α : Type} {entry : Entry} {read : Fields → Except RecordFault α} {index : Nat}
  {record : RawRecord} {fields : Fields}

/-- A record that is no text is malformed. -/
theorem malformed_of_noTexts {error : CaptureError} (noTexts : ¬∃ fields, HasTexts record fields)
    (failed : interpret entry read index record = .error error) :
    ∃ place, error = .malformedField entry place := by
  cases decoded : decodeFields entry record 0 record.fields with
  | ok fields => exact absurd ⟨fields, decodeFields_eq_ok_iff.mp decoded⟩ noTexts
  | error fault =>
      rw [interpret, decoded] at failed
      cases failed
      exact malformed_of_decodeFields decoded

/-- A record of texts that cannot be read is invalid. -/
theorem invalid_of_hasTexts {error : CaptureError} (texts : HasTexts record fields)
    (failed : interpret entry read index record = .error error) :
    ∃ fault, error = .invalidRecord entry index fault := by
  rw [interpret, decodeFields_eq_ok_iff.mpr texts] at failed
  cases outcome : read fields with
  | ok item =>
      simp only [bind, Except.bind, outcome] at failed
      cases failed
  | error fault =>
      simp only [bind, Except.bind, outcome] at failed
      cases failed
      exact ⟨fault, rfl⟩

theorem interpret_readInvocation_eq_ok_iff {item : NodeId × Invocation} :
    interpret .nodes readInvocation index record = .ok item ↔ RecordLists record item := by
  rw [interpret_eq_ok_iff]
  exact exists_congr fun fields => and_congr decodeFields_eq_ok_iff readInvocation_eq_ok_iff

end Records

end Capture

end ParseTrace
