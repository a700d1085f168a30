import Mathlib.Data.List.Forall2
import ParseTrace.Capture.Archive
import ParseTrace.Proofs.Numeral.Grammar

/-!
# What a capture delivers

The records of an entry are delivered up to the first that cannot be interpreted. So the items
belong to its records one by one, and the record behind the last item, if there is one, is what
delivery ends with. If there is none, delivery ends as the entry does. So it ends well exactly if the
entry is whole and every record can be interpreted, and then there is one item for each.
-/

namespace ParseTrace

theorem bind_eq_ok_iff {ε α β : Type} {first : Except ε α} {next : α → Except ε β} {result : β} :
    first >>= next = .ok result ↔ ∃ value, first = .ok value ∧ next value = .ok result := by
  cases first with
  | error fault => simp [bind, Except.bind]
  | ok value => simp [bind, Except.bind]

namespace Capture

open Delimited (RawRecord)
open Numeral (IntegerRange)

variable {α : Type} {entry : Entry} {read : Fields → Except RecordFault α} {index : Nat}
  {record : RawRecord} {records : List RawRecord} {items : List α} {item : α} {column : Nat}
  {fields : Fields} {bytes : List Bytes} {ending : Except CaptureError Unit}

theorem decodeFields_eq_ok_iff :
    decodeFields entry record column bytes = .ok fields ↔ bytes = fields.map Utf8.encode := by
  induction bytes generalizing column fields with
  | nil => simp [decodeFields, eq_comm]
  | cons first rest ih =>
      rw [decodeFields]
      constructor
      · intro read
        cases decoded : Utf8.decode? first with
        | none =>
            rw [decoded] at read
            cases read
        | some text =>
            rw [decoded] at read
            cases others : decodeFields entry record (column + 1) rest with
            | error error =>
                rw [others] at read
                cases read
            | ok texts =>
                rw [others] at read
                cases read
                rw [List.map_cons, ← Utf8.decode?_eq_some_iff.mp decoded, ← ih.mp others]
      · intro encoded
        rcases List.map_eq_cons_iff.mp encoded.symm with ⟨text, texts, rfl, sameFirst, sameRest⟩
        rw [Utf8.decode?_eq_some_iff.mpr sameFirst.symm, ih.mpr sameRest.symm]
        rfl

/-- Only a field that is no text can be wrong with the bytes of a record. -/
theorem malformed_of_decodeFields {error : CaptureError}
    (failed : decodeFields entry record column bytes = .error error) :
    ∃ place, error = .malformedField entry place := by
  induction bytes generalizing column with
  | nil => cases failed
  | cons first rest ih =>
      rw [decodeFields] at failed
      cases decoded : Utf8.decode? first with
      | none =>
          rw [decoded] at failed
          cases failed
          exact ⟨_, rfl⟩
      | some text =>
          rw [decoded] at failed
          cases others : decodeFields entry record (column + 1) rest with
          | error fault =>
              rw [others] at failed
              cases failed
              exact ih others
          | ok texts =>
              rw [others] at failed
              cases failed

/-- The fields of a record are texts, and they can be read. -/
def Interpretable (entry : Entry) (read : Fields → Except RecordFault α) (record : RawRecord) :
    Prop :=
  ∃ fields item, decodeFields entry record 0 record.fields = .ok fields ∧ read fields = .ok item

theorem interpret_eq_ok_iff :
    interpret entry read index record = .ok item ↔
      ∃ fields, decodeFields entry record 0 record.fields = .ok fields ∧
        read fields = .ok item := by
  simp only [interpret]
  rw [bind_eq_ok_iff]
  refine exists_congr fun fields => and_congr_right fun _ => ?_
  cases read fields with
  | error fault => exact iff_of_false (fun impossible => by cases impossible) (by simp)
  | ok other => simp [pure, Except.pure]

theorem interpretable_iff (index : Nat) :
    Interpretable entry read record ↔ ∃ item, interpret entry read index record = .ok item := by
  constructor
  · rintro ⟨fields, item, decoded, readOk⟩
    exact ⟨item, interpret_eq_ok_iff.mpr ⟨fields, decoded, readOk⟩⟩
  · rintro ⟨item, interpreted⟩
    rcases interpret_eq_ok_iff.mp interpreted with ⟨fields, decoded, readOk⟩
    exact ⟨fields, item, decoded, readOk⟩

theorem deliverAfter_ending_iff :
    (deliverAfter entry read ending items index records).ending = .ok () ↔
      ending = .ok () ∧ ∀ record ∈ records, Interpretable entry read record := by
  induction records generalizing items index with
  | nil => simp [deliverAfter]
  | cons record rest ih =>
      rw [List.forall_mem_cons, interpretable_iff index, deliverAfter]
      cases interpret entry read index record with
      | error error => simp
      | ok item => simp [ih]

/-- What was read before stands in front. -/
theorem deliverAfter_eq :
    deliverAfter entry read ending items index records =
      ⟨items.reverse ++ (deliverAfter entry read ending [] index records).items,
        (deliverAfter entry read ending [] index records).ending⟩ := by
  induction records generalizing items index with
  | nil => simp [deliverAfter]
  | cons record rest ih =>
      rw [deliverAfter, deliverAfter]
      cases interpret entry read index record with
      | error error => simp
      | ok item =>
          have single := @ih (index + 1) [item]
          dsimp only
          rw [ih, single]
          simp

theorem deliverAfter_of_ok (interpreted : interpret entry read index record = .ok item) :
    deliverAfter entry read ending [] index (record :: records) =
      ⟨item :: (deliverAfter entry read ending [] (index + 1) records).items,
        (deliverAfter entry read ending [] (index + 1) records).ending⟩ := by
  rw [deliverAfter, interpreted]
  exact deliverAfter_eq

theorem deliverAfter_of_error {error : CaptureError}
    (failed : interpret entry read index record = .error error) :
    deliverAfter entry read ending [] index (record :: records) = ⟨[], .error error⟩ := by
  rw [deliverAfter, failed]
  rfl

/-- The items are what the first records say, in order. -/
theorem forall₂_deliverAfter :
    List.Forall₂ (fun record item => ∃ number, interpret entry read number record = .ok item)
      (records.take (deliverAfter entry read ending [] index records).items.length)
      (deliverAfter entry read ending [] index records).items := by
  induction records generalizing index with
  | nil => exact List.Forall₂.nil
  | cons record rest ih =>
      cases outcome : interpret entry read index record with
      | error error =>
          rw [deliverAfter_of_error outcome]
          exact List.Forall₂.nil
      | ok item =>
          rw [deliverAfter_of_ok outcome]
          exact List.Forall₂.cons ⟨index, outcome⟩ ih

/-- The record behind the last item cannot be interpreted, and this is what delivery ends with. -/
theorem ending_deliverAfter
    (next : records[(deliverAfter entry read ending [] index records).items.length]? = some record) :
    ∃ error,
      interpret entry read (index + (deliverAfter entry read ending [] index records).items.length)
        record = .error error ∧
      (deliverAfter entry read ending [] index records).ending = .error error := by
  induction records generalizing index with
  | nil => cases next
  | cons first rest ih =>
      cases outcome : interpret entry read index first with
      | error error =>
          rw [deliverAfter_of_error outcome] at next ⊢
          obtain rfl : first = record := Option.some.inj next
          exact ⟨error, outcome, rfl⟩
      | ok item =>
          rw [deliverAfter_of_ok outcome] at next ⊢
          rcases ih next with ⟨error, failed, ended⟩
          refine ⟨error, ?_, ended⟩
          rw [List.length_cons, ← Nat.add_assoc, Nat.add_right_comm]
          exact failed

/-- Behind the last record delivery ends with what comes there. -/
theorem ending_deliverAfter_of_length_eq
    (all : (deliverAfter entry read ending [] index records).items.length = records.length) :
    (deliverAfter entry read ending [] index records).ending = ending := by
  induction records generalizing index with
  | nil => rfl
  | cons record rest ih =>
      cases outcome : interpret entry read index record with
      | error error =>
          rw [deliverAfter_of_error outcome] at all
          cases all
      | ok item =>
          rw [deliverAfter_of_ok outcome] at all ⊢
          exact ih (Nat.succ.inj all)

section Contents

variable {contents : Contents}

theorem ending_eq_ok_iff : contents.ending entry = .ok () ↔ contents.fault = none := by
  rw [Contents.ending]
  cases contents.fault <;> simp

theorem deliver_ending_iff :
    (deliver entry read contents).ending = .ok () ↔
      contents.fault = none ∧ ∀ record ∈ contents.records, Interpretable entry read record := by
  rw [deliver, deliverAfter_ending_iff, ending_eq_ok_iff]

theorem forall₂_deliver (entry : Entry) (read : Fields → Except RecordFault α)
    (contents : Contents) :
    List.Forall₂ (fun record item => ∃ number, interpret entry read number record = .ok item)
      (contents.records.take (deliver entry read contents).items.length)
      (deliver entry read contents).items :=
  forall₂_deliverAfter

theorem length_deliver_le :
    (deliver entry read contents).items.length ≤ contents.records.length := by
  have lengths := (forall₂_deliver entry read contents).length_eq
  rw [List.length_take] at lengths
  omega

theorem length_deliver (ended : (deliver entry read contents).ending = .ok ()) :
    (deliver entry read contents).items.length = contents.records.length := by
  apply Nat.le_antisymm length_deliver_le
  by_contra fewer
  rcases ending_deliverAfter (List.getElem?_eq_getElem (Nat.not_le.mp fewer)) with
    ⟨error, _, failed⟩
  exact absurd (ended.symm.trans failed) nofun

/-- Whatever an entry delivers was read from the fields of a record. -/
theorem exists_fields_of_mem_deliver (delivered : item ∈ (deliver entry read contents).items) :
    ∃ fields, read fields = .ok item := by
  rcases List.mem_iff_get.mp delivered with ⟨⟨place, inside⟩, rfl⟩
  rcases List.forall₂_iff_get.mp (forall₂_deliver entry read contents) with ⟨lengths, belongs⟩
  rcases belongs place (by rwa [lengths]) inside with ⟨number, interpreted⟩
  rcases interpret_eq_ok_iff.mp interpreted with ⟨fields, _, readOk⟩
  exact ⟨fields, readOk⟩

end Contents

theorem contains_of_integerColumn {range : IntegerRange} {fields : Fields} {column : Nat}
    {value : Int} (zero : range.Contains 0)
    (readOk : integerColumn range fields column = .ok value) : range.Contains value := by
  rcases bind_eq_ok_iff.mp readOk with ⟨raw, _, parsed⟩
  cases outcome : Numeral.readInteger range (Text.trim raw.toList) with
  | error cause =>
      rw [outcome] at parsed
      cases parsed
  | ok number =>
      rw [outcome] at parsed
      cases parsed
      exact Numeral.contains_of_readInteger zero outcome

theorem id_inRange_of_readRule {fields : Fields} {rule : Rule}
    (readOk : readRule fields = .ok rule) : IntegerRange.signed32.Contains rule.id := by
  rcases bind_eq_ok_iff.mp readOk with ⟨kind, _, afterKind⟩
  rcases bind_eq_ok_iff.mp afterKind with ⟨id, idRead, afterId⟩
  rcases bind_eq_ok_iff.mp afterId with ⟨className, _, afterClass⟩
  rcases bind_eq_ok_iff.mp afterClass with ⟨name, _, done⟩
  cases done
  exact contains_of_integerColumn (by decide) idRead

/-- The identifiers of the rules of a capture have 32 bits. -/
theorem ids_inRange (capture : Capture) :
    ∀ rule ∈ capture.readRules.items, IntegerRange.signed32.Contains rule.id := by
  intro rule delivered
  rcases exists_fields_of_mem_deliver delivered with ⟨fields, readOk⟩
  exact id_inRange_of_readRule readOk

end Capture

end ParseTrace
