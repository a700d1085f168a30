import ParseTrace.Capture.Draft
import ParseTrace.Proofs.Capture.Delivery
import ParseTrace.Proofs.Delimited.RoundTrip
import ParseTrace.Proofs.Numeral.RoundTrip

/-!
# Written records of a capture read back

The record of a header, a rule or an invocation reads back as what it was written for, as long as
its numbers keep the ranges of their columns. Every record begins with a number, and a number does
not begin with a byte order mark, so an entry of written records delivers all of them.
-/

namespace ParseTrace.Capture

open Delimited (RawRecord)
open Numeral (IntegerRange)

variable {α : Type} {entry : Entry} {read : Fields → Except RecordFault α} {write : α → Fields}
  {fields : Fields} {index : Nat} {range : IntegerRange}

theorem textColumn_eq {text : String} (column : fields[index]? = some text) :
    textColumn fields index = .ok text := by
  simp only [textColumn, column]

theorem integerColumn_numberField {value : Int} (inRange : range.Contains value)
    (column : fields[index]? = some (numberField value)) :
    integerColumn range fields index = .ok value := by
  have trimmed : Text.trim (numberField value).toList = Numeral.writeInteger value := by
    rw [numberField, String.toList_ofList, Numeral.trim_writeInteger]
  simp only [integerColumn, textColumn_eq column, bind, Except.bind]
  rw [trimmed, Numeral.readInteger_writeInteger inRange]
  rfl

theorem naturalColumn_numberField {value : Nat} (inRange : range.Contains value)
    (column : fields[index]? = some (numberField value)) :
    naturalColumn range fields index = .ok value := by
  rw [naturalColumn, integerColumn_numberField inRange column]
  rfl

theorem ofText?_name (kind : RuleKind) :
    RuleKind.ofText? (Text.trim kind.name.toList) = some kind := by
  cases kind <;> decide

theorem kindColumn_name {kind : RuleKind} (column : fields[index]? = some kind.name) :
    kindColumn fields index = .ok kind := by
  simp only [kindColumn, textColumn_eq column, bind, Except.bind, ofText?_name]
  rfl

/-- The numbers of a header keep the ranges of their columns. -/
structure WritableHeader (header : Header) : Prop where
  hasDate : Calendar.HasDate header.capturedAt
  ruleCount : IntegerRange.unsigned64.Contains header.ruleCount
  nodeCount : IntegerRange.unsigned64.Contains header.nodeCount
  depth : IntegerRange.unsigned32.Contains header.depth

theorem readHeader_headerFields {header : Header} (writable : WritableHeader header) :
    readHeader (headerFields header) = .ok header := by
  have inRange : IntegerRange.signed64.Contains header.capturedAt := by
    have dated := writable.hasDate
    simp only [Calendar.HasDate, Calendar.firstMoment, Calendar.lastMoment] at dated
    simp only [IntegerRange.Contains, IntegerRange.signed64]
    omega
  rw [readHeader, integerColumn_numberField inRange rfl,
    naturalColumn_numberField writable.ruleCount rfl,
    naturalColumn_numberField writable.nodeCount rfl, naturalColumn_numberField writable.depth rfl]
  simp only [bind, Except.bind, if_pos writable.hasDate]
  rfl

theorem readRule_ruleFields {rule : Rule} (inRange : IntegerRange.signed32.Contains rule.id) :
    readRule (ruleFields rule) = .ok rule := by
  rw [readRule, kindColumn_name rfl, integerColumn_numberField inRange rfl, textColumn_eq rfl,
    textColumn_eq rfl]
  rfl

/-- The numbers of an invocation keep the ranges of their columns. -/
structure WritableInvocation (id : NodeId) (invocation : Invocation) : Prop where
  id : IntegerRange.signed32.Contains id
  parent : ∀ parent, invocation.parent = some parent → 0 ≤ parent ∧ parent ≤ maxNodeId
  level : IntegerRange.unsigned32.Contains invocation.level
  rule : IntegerRange.signed32.Contains invocation.rule
  start : IntegerRange.unsigned64.Contains invocation.start
  stop : IntegerRange.unsigned64.Contains invocation.stop
  nanos : IntegerRange.unsigned64.Contains invocation.nanos

theorem readParent_getD {parent : Option NodeId}
    (inRange : ∀ id, parent = some id → 0 ≤ id ∧ id ≤ maxNodeId) :
    readParent (parent.getD (-1)) = .ok parent := by
  cases parent with
  | none => rfl
  | some id =>
      rcases inRange id rfl with ⟨least, greatest⟩
      rw [Option.getD_some, readParent, if_neg (Int.not_lt.mpr least), if_pos greatest]

theorem parentNumber_inRange {parent : Option NodeId}
    (inRange : ∀ id, parent = some id → 0 ≤ id ∧ id ≤ maxNodeId) :
    IntegerRange.signed64.Contains (parent.getD (-1)) := by
  simp only [IntegerRange.Contains, IntegerRange.signed64]
  cases parent with
  | none => decide
  | some id =>
      rcases inRange id rfl with ⟨least, greatest⟩
      exact ⟨Int.le_trans (by decide) least, Int.le_trans greatest (by decide)⟩

theorem readInvocation_invocationFields {id : NodeId} {invocation : Invocation}
    (writable : WritableInvocation id invocation) :
    readInvocation (invocationFields id invocation) = .ok (id, invocation) := by
  have flagRange :
      IntegerRange.unsigned8.Contains (if invocation.success then 1 else 0) := by
    cases invocation.success <;> decide
  have flagRead : readSuccess (if invocation.success then 1 else 0) = .ok invocation.success := by
    cases invocation.success <;> rfl
  rw [readInvocation, integerColumn_numberField (parentNumber_inRange writable.parent) rfl,
    integerColumn_numberField writable.id rfl, integerColumn_numberField flagRange rfl,
    naturalColumn_numberField writable.level rfl, integerColumn_numberField writable.rule rfl,
    naturalColumn_numberField writable.start rfl, naturalColumn_numberField writable.stop rfl,
    naturalColumn_numberField writable.nanos rfl]
  simp only [bind, Except.bind, readParent_getD writable.parent, flagRead]
  rfl

/-- A written number begins with a byte of ASCII. -/
theorem encode_numberField (value : Int) :
    ∃ first rest, Utf8.encode (numberField value) = first :: rest ∧ first ≠ 0xef := by
  have begins : ∃ char rest, Numeral.writeInteger value = char :: rest ∧ char.toNat ≤ 57 := by
    cases value with
    | ofNat magnitude =>
        rcases Numeral.toDigits_eq_cons magnitude with ⟨char, rest, digits, isDigit⟩
        exact ⟨char, rest, digits, (Numeral.code_of_isDigit isDigit).2⟩
    | negSucc magnitude => exact ⟨'-', _, rfl, by decide⟩
  rcases begins with ⟨char, rest, begins, code⟩
  have ascii : String.utf8EncodeChar char = [UInt8.ofNat char.toNat] :=
    if_pos (Nat.le_trans code (by decide))
  refine ⟨UInt8.ofNat char.toNat, rest.flatMap String.utf8EncodeChar, ?_, ?_⟩
  · rw [Utf8.encode, numberField, begins, String.toByteArray_ofList, List.utf8Encode,
      List.flatMap_cons, ascii, List.data_toByteArray]
    rfl
  · intro same
    have sameCode : char.toNat % 256 = 0xef := congrArg UInt8.toNat same
    omega

/-- A record that begins with a number. -/
def BeginsWithNumber (fields : Fields) : Prop :=
  ∃ value rest, fields = numberField value :: rest

/-- Written records that can be read back are delivered one after the other. -/
theorem deliverAfter_of_fields {ending : Except CaptureError Unit} {items done : List α}
    {records : List RawRecord}
    (readsBack : ∀ item ∈ items, read (write item) = .ok item)
    (written : records.map RawRecord.fields = items.map fun item =>
      (write item).map Utf8.encode) :
    deliverAfter entry read ending done index records = ⟨done.reverse ++ items, ending⟩ := by
  induction items generalizing done index records with
  | nil =>
      obtain rfl : records = [] := List.map_eq_nil_iff.mp written
      simp [deliverAfter]
  | cons item rest ih =>
      rw [List.forall_mem_cons] at readsBack
      rcases List.map_eq_cons_iff.mp written with ⟨record, behind, rfl, fields, others⟩
      have interpreted : interpret entry read index record = .ok item :=
        interpret_eq_ok_iff.mpr
          ⟨write item, decodeFields_eq_ok_iff.mpr fields, readsBack.1⟩
      rw [deliverAfter, interpreted]
      simp [ih readsBack.2 others]

theorem divides_separator : Delimited.Divides separator :=
  ⟨by decide, by decide⟩

theorem records_entry {records : List Fields}
    (begin : ∀ fields ∈ records, BeginsWithNumber fields) :
    (Draft.entry records).records.map RawRecord.fields = records.map (·.map Utf8.encode) := by
  refine Delimited.readRecords_writeRecords divides_separator ?_ ?_
  · intro record written
    rcases List.mem_map.mp written with ⟨fields, present, rfl⟩
    rcases begin fields present with ⟨value, rest, rfl⟩
    exact List.cons_ne_nil _ _
  · cases records with
    | nil => rfl
    | cons fields others =>
        rcases begin fields List.mem_cons_self with ⟨value, rest, rfl⟩
        rcases encode_numberField value with ⟨first, behind, encoded, notMark⟩
        rw [List.map_cons, List.map_cons, encoded]
        exact Delimited.noMark_of_head notMark _ _ _

/-- An entry of written records delivers what they were written for. -/
theorem deliver_entry {items : List α}
    (begin : ∀ item ∈ items, BeginsWithNumber (write item))
    (readsBack : ∀ item ∈ items, read (write item) = .ok item) :
    deliver entry read (Draft.entry (items.map write)) = ⟨items, .ok ()⟩ := by
  refine deliverAfter_of_fields readsBack ?_
  rw [records_entry (List.forall_mem_map.mpr begin), List.map_map]
  rfl

theorem openHeader_entry {header : Header} (writable : WritableHeader header) :
    openHeader (Draft.entry [headerFields header]) = .ok header := by
  have begin : ∀ fields ∈ [headerFields header], BeginsWithNumber fields := by
    intro fields present
    rw [List.mem_singleton.mp present]
    exact ⟨_, _, rfl⟩
  have written := records_entry begin
  rcases List.map_eq_cons_iff.mp written with ⟨record, behind, records, fields, _⟩
  rw [openHeader, records]
  exact interpret_eq_ok_iff.mpr
    ⟨headerFields header, decodeFields_eq_ok_iff.mpr fields, readHeader_headerFields writable⟩

/-- An archive with all four entries is opened if its header is read. -/
theorem open?_of_openHeader {info : Contents} {header : Header}
    (readable : openHeader info = .ok header) (rules nodes input : Contents) :
    open? (.archive
      { info := some info, rules := some rules, nodes := some nodes, input := some input }) =
      .ok ⟨header, rules, nodes, input⟩ := by
  simp only [open?, demand, bind, Except.bind, readable]
  rfl

section Input

variable {capture : Capture} {text : String}

theorem inputText_of_ofText (stored : capture.input = .ofText text) :
    capture.inputText = .ok text := by
  rw [inputText, stored, Contents.ofText, Contents.ofBytes]
  simp only [Contents.ending, Utf8.decode?_encode, bind, Except.bind]
  rfl

theorem readInput_of_ofText (stored : capture.input = .ofText text)
    (fits : (Utf8.encode text).length ≤ maxBytes) : capture.readInput = .ok text := by
  have room : ¬maxBytes < capture.input.announced := by
    rw [stored]
    exact Nat.not_lt.mpr fits
  rw [readInput, if_neg room, inputText_of_ofText stored]
  rfl

end Input

end ParseTrace.Capture
