import ParseTrace.Delimited.Writer

/-!
# Written records read back

A reader goes through a written file byte by byte. `ReaderState.Holds` says what it has taken up so
far: the field in progress, the fields before it in the same record, and the records before that
one. A written field adds itself to the field in progress, whether it is quoted or not, and leaves
the reader in a mode in which a delimiter ends the field and a newline ends the record. From this
it follows, field by field and record by record, that a file holds the records that were written,
whatever their bytes are. Only a file that happens to begin with a byte order mark loses it.
-/

namespace ParseTrace.Delimited

variable {delimiter byte : UInt8} {state : ReaderState} {mode : Mode} {field bytes : Bytes}
  {fields : List Bytes} {records : List (List Bytes)}

/-- A delimiter with no other meaning: it is no quote and ends no record. -/
structure Divides (delimiter : UInt8) : Prop where
  not_quote : delimiter ≠ quote
  not_end : endsRecord delimiter = false

/-- A byte that stands for itself outside of quotes. -/
structure Ordinary (delimiter byte : UInt8) : Prop where
  not_delimiter : byte ≠ delimiter
  not_quote : byte ≠ quote
  not_end : endsRecord byte = false

theorem needsQuotes_eq_false_iff :
    needsQuotes delimiter bytes = false ↔ ∀ byte ∈ bytes, Ordinary delimiter byte := by
  simp only [needsQuotes, List.any_eq_false, Bool.or_eq_true, beq_iff_eq, not_or,
    Bool.not_eq_true]
  constructor
  · intro plain byte present
    exact ⟨(plain byte present).1.1, (plain byte present).1.2, (plain byte present).2⟩
  · intro plain byte present
    exact ⟨⟨(plain byte present).not_delimiter, (plain byte present).not_quote⟩,
      (plain byte present).not_end⟩

/-- Only a record of a single empty field would be an empty line. -/
theorem writeRecord_eq {field : Bytes} {others : List Bytes}
    (nonempty : field = [] → others ≠ []) :
    writeRecord delimiter (field :: others) =
      List.intercalate [delimiter] ((field :: others).map (writeField delimiter)) ++ [0x0a] := by
  have notEmpty :
      List.intercalate [delimiter] ((field :: others).map (writeField delimiter)) ≠ [] := by
    cases others with
    | cons next others => simp [List.intercalate]
    | nil =>
        have bytesThere : field ≠ [] := fun empty => nonempty empty rfl
        rw [List.map_singleton, List.intercalate_singleton, writeField]
        split
        · exact List.cons_ne_nil _ _
        · exact bytesThere
  simp only [writeRecord]
  rw [if_neg (by simpa using notEmpty)]

namespace ReaderState

/-- What a reader has taken up: a field, the fields before it, and the records before these. -/
structure Holds (state : ReaderState) (mode : Mode) (field : Bytes) (fields : List Bytes)
    (records : List (List Bytes)) : Prop where
  mode_eq : state.mode = mode
  field_eq : state.field.reverse = field
  fields_eq : state.fields.reverse = fields
  records_eq : (state.records.map RawRecord.fields).reverse = records

theorem holds_initial (skipped : Nat) : (initial skipped).Holds .recordStart [] [] [] :=
  ⟨rfl, rfl, rfl, rfl⟩

namespace Holds

theorem advance (holds : state.Holds mode field fields records) (byte : UInt8) :
    (state.advance byte).Holds mode field fields records :=
  ⟨holds.mode_eq, holds.field_eq, holds.fields_eq, holds.records_eq⟩

theorem push (holds : state.Holds mode field fields records) (byte : UInt8) (next : Mode) :
    (state.push byte next).Holds next (field ++ [byte]) fields records := by
  refine ⟨rfl, ?_, holds.fields_eq, holds.records_eq⟩
  rw [← holds.field_eq]
  exact List.reverse_cons

theorem endField (holds : state.Holds mode field fields records) :
    state.endField.Holds .fieldStart [] (fields ++ [field]) records := by
  refine ⟨rfl, rfl, ?_, holds.records_eq⟩
  rw [← holds.fields_eq, ← holds.field_eq]
  exact List.reverse_cons

theorem endRecord (holds : state.Holds mode field fields records) :
    state.endRecord.Holds .recordStart [] [] (records ++ [fields ++ [field]]) := by
  refine ⟨rfl, rfl, rfl, ?_⟩
  rw [← holds.records_eq, ← holds.fields_eq, ← holds.field_eq]
  simp [ReaderState.endRecord]

/-- Outside of quotes a byte is taken as it is. The exceptions are a quote, which may have a meaning
where a field begins or behind another quote, and a line end before a record. -/
theorem step_eq_takePlain (holds : state.Holds mode field fields records)
    (outside : mode ≠ .quoted) (notQuote : byte ≠ quote)
    (inRecord : mode = .recordStart → endsRecord byte = false) :
    state.step delimiter byte = (state.advance byte).takePlain delimiter byte := by
  have noQuote : (byte == quote) = false := beq_false_of_ne notQuote
  simp only [step, holds.mode_eq]
  cases mode with
  | recordStart => simp [inRecord rfl, noQuote]
  | fieldStart => simp [noQuote]
  | unquoted => rfl
  | quoted => exact absurd rfl outside
  | afterQuote => simp [noQuote]

theorem step_ordinary (holds : state.Holds mode field fields records) (outside : mode ≠ .quoted)
    (ordinary : Ordinary delimiter byte) :
    (state.step delimiter byte).Holds .unquoted (field ++ [byte]) fields records := by
  rw [holds.step_eq_takePlain outside ordinary.not_quote fun _ => ordinary.not_end, takePlain,
    if_neg (by simpa using ordinary.not_delimiter), if_neg (by simp [ordinary.not_end])]
  exact (holds.advance byte).push byte .unquoted

theorem step_delimiter (divides : Divides delimiter) (holds : state.Holds mode field fields records)
    (outside : mode ≠ .quoted) :
    (state.step delimiter delimiter).Holds .fieldStart [] (fields ++ [field]) records := by
  rw [holds.step_eq_takePlain outside divides.not_quote fun _ => divides.not_end, takePlain,
    if_pos (beq_self_eq_true delimiter)]
  exact (holds.advance delimiter).endField

theorem step_newline (divides : Divides delimiter) (holds : state.Holds mode field fields records)
    (outside : mode ≠ .quoted) (inRecord : mode ≠ .recordStart) :
    (state.step delimiter 0x0a).Holds .recordStart [] [] (records ++ [fields ++ [field]]) := by
  have noDelimiter : (0x0a : UInt8) ≠ delimiter := by
    rintro rfl
    exact absurd divides.not_end (by decide)
  rw [holds.step_eq_takePlain outside (by decide) fun start => absurd start inRecord, takePlain,
    if_neg (by simpa using noDelimiter), if_pos (by decide)]
  exact (holds.advance 0x0a).endRecord

theorem step_openingQuote (holds : state.Holds mode field fields records)
    (isStart : mode = .recordStart ∨ mode = .fieldStart) :
    (state.step delimiter quote).Holds .quoted field fields records := by
  rcases isStart with rfl | rfl
  · simp only [step, holds.mode_eq]
    exact ⟨rfl, holds.field_eq, holds.fields_eq, holds.records_eq⟩
  · simp only [step, holds.mode_eq]
    exact ⟨rfl, holds.field_eq, holds.fields_eq, holds.records_eq⟩

theorem step_quoted (holds : state.Holds .quoted field fields records) (notQuote : byte ≠ quote) :
    (state.step delimiter byte).Holds .quoted (field ++ [byte]) fields records := by
  simp only [step, holds.mode_eq]
  rw [if_neg (by simpa using notQuote)]
  exact (holds.advance byte).push byte .quoted

theorem step_closingQuote (holds : state.Holds .quoted field fields records) :
    (state.step delimiter quote).Holds .afterQuote field fields records := by
  simp only [step, holds.mode_eq]
  exact ⟨rfl, holds.field_eq, holds.fields_eq, holds.records_eq⟩

/-- A quote behind the one that would close the quoted part stands for a quote. -/
theorem step_doubledQuote (holds : state.Holds .afterQuote field fields records) :
    (state.step delimiter quote).Holds .quoted (field ++ [quote]) fields records := by
  simp only [step, holds.mode_eq]
  exact (holds.advance quote).push quote .quoted

theorem foldl_ordinary (holds : state.Holds .unquoted field fields records)
    (ordinary : ∀ byte ∈ bytes, Ordinary delimiter byte) :
    (bytes.foldl (step delimiter) state).Holds .unquoted (field ++ bytes) fields records := by
  induction bytes generalizing state field with
  | nil => simpa using holds
  | cons byte rest ih =>
      rw [List.forall_mem_cons] at ordinary
      rw [List.foldl_cons, List.append_cons]
      exact ih (holds.step_ordinary (by decide) ordinary.1) ordinary.2

theorem foldl_doubleQuotes (holds : state.Holds .quoted field fields records) (bytes : Bytes) :
    ((doubleQuotes bytes).foldl (step delimiter) state).Holds .quoted (field ++ bytes) fields
      records := by
  induction bytes generalizing state field with
  | nil => simpa [doubleQuotes] using holds
  | cons byte rest ih =>
      rw [doubleQuotes, List.flatMap_cons, ← doubleQuotes, List.foldl_append, List.append_cons]
      by_cases isQuote : byte = quote
      · rw [if_pos (by simpa using isQuote), isQuote]
        exact ih holds.step_closingQuote.step_doubledQuote
      · rw [if_neg (by simpa using isQuote)]
        exact ih (holds.step_quoted isQuote)

end Holds

/-- The mode in which a written field leaves a reader that was in the given mode before it. -/
def modeBehind (delimiter : UInt8) (start : Mode) (field : Bytes) : Mode :=
  if needsQuotes delimiter field then .afterQuote
  else if field.isEmpty then start
  else .unquoted

theorem modeBehind_ne_quoted {start : Mode} (isStart : start = .recordStart ∨ start = .fieldStart) :
    modeBehind delimiter start field ≠ .quoted := by
  unfold modeBehind
  split
  · decide
  split
  · rcases isStart with rfl | rfl <;> decide
  · decide

theorem modeBehind_ne_recordStart {start : Mode} (begun : start = .recordStart → field ≠ []) :
    modeBehind delimiter start field ≠ .recordStart := by
  unfold modeBehind
  split
  · decide
  split
  next empty =>
    intro isStart
    exact begun isStart (List.isEmpty_iff.mp empty)
  · decide

/-- A written field is taken up, with or without quotes. -/
theorem Holds.foldl_writeField (holds : state.Holds mode [] fields records)
    (isStart : mode = .recordStart ∨ mode = .fieldStart) (delimiter : UInt8) (field : Bytes) :
    ((writeField delimiter field).foldl (step delimiter) state).Holds
      (modeBehind delimiter mode field) field fields records := by
  unfold writeField modeBehind
  split
  · rw [List.foldl_cons, List.foldl_append]
    have opened : (state.step delimiter quote).Holds .quoted [] fields records :=
      holds.step_openingQuote isStart
    exact (opened.foldl_doubleQuotes field).step_closingQuote
  next plain =>
    have ordinary := needsQuotes_eq_false_iff.mp (Bool.eq_false_iff.mpr plain)
    cases field with
    | nil => exact holds
    | cons byte rest =>
        rw [List.forall_mem_cons] at ordinary
        have outside : mode ≠ .quoted := by rcases isStart with rfl | rfl <;> decide
        exact (holds.step_ordinary outside ordinary.1).foldl_ordinary ordinary.2

/-- The fields of a line and the newline behind it end a record, unless the line is empty. -/
theorem Holds.foldl_line (divides : Divides delimiter) (holds : state.Holds mode [] fields records)
    (isStart : mode = .recordStart ∨ mode = .fieldStart) (field : Bytes) (others : List Bytes)
    (nonempty : mode = .recordStart → field = [] → others ≠ []) :
    ((List.intercalate [delimiter] ((field :: others).map (writeField delimiter)) ++
      [0x0a]).foldl (step delimiter) state).Holds .recordStart [] []
        (records ++ [fields ++ field :: others]) := by
  induction others generalizing state mode fields field with
  | nil =>
      have taken := holds.foldl_writeField isStart delimiter field
      have begun : mode = .recordStart → field ≠ [] :=
        fun start empty => nonempty start empty rfl
      rw [List.foldl_append]
      simpa using taken.step_newline divides (modeBehind_ne_quoted isStart)
        (modeBehind_ne_recordStart begun)
  | cons next others ih =>
      have taken := holds.foldl_writeField isStart delimiter field
      have divided := taken.step_delimiter divides (modeBehind_ne_quoted isStart)
      have ended := ih divided (Or.inr rfl) next (fun start => absurd start (by decide))
      simpa [List.intercalate, List.foldl_append] using ended

/-- A written record is read as one record. -/
theorem Holds.foldl_writeRecord (divides : Divides delimiter)
    (holds : state.Holds .recordStart [] [] records) {record : List Bytes} (nonempty : record ≠ []) :
    ((writeRecord delimiter record).foldl (step delimiter) state).Holds .recordStart [] []
      (records ++ [record]) := by
  cases record with
  | nil => exact absurd rfl nonempty
  | cons field others =>
      by_cases emptyLine : field = [] ∧ others = []
      · rcases emptyLine with ⟨rfl, rfl⟩
        have opened : (state.step delimiter quote).Holds .quoted [] [] records :=
          holds.step_openingQuote (Or.inl rfl)
        exact opened.step_closingQuote.step_newline divides (by decide) (by decide)
      · have bytesThere : field = [] → others ≠ [] :=
          fun empty alone => emptyLine ⟨empty, alone⟩
        rw [writeRecord_eq bytesThere]
        exact holds.foldl_line divides (Or.inl rfl) field others fun _ => bytesThere

theorem Holds.foldl_writeRecords (divides : Divides delimiter)
    (holds : state.Holds .recordStart [] [] records) {written : List (List Bytes)}
    (nonempty : ∀ record ∈ written, record ≠ []) :
    ((writeRecords delimiter written).foldl (step delimiter) state).Holds .recordStart [] []
      (records ++ written) := by
  induction written generalizing state records with
  | nil => simpa [writeRecords] using holds
  | cons record rest ih =>
      rw [List.forall_mem_cons] at nonempty
      rw [writeRecords, List.flatMap_cons, ← writeRecords, List.foldl_append, List.append_cons]
      exact ih (holds.foldl_writeRecord divides nonempty.1) nonempty.2

theorem Holds.finish (holds : state.Holds .recordStart [] [] records) :
    state.finish.map RawRecord.fields = records := by
  simp only [ReaderState.finish, holds.mode_eq]
  rw [List.map_reverse, holds.records_eq]

end ReaderState

/-- A written field begins like the field, or with a quote. -/
theorem writeField_cons (delimiter first : UInt8) (bytes : Bytes) :
    ∃ begun rest, writeField delimiter (first :: bytes) = begun :: rest ∧
      (begun = quote ∨ begun = first) := by
  unfold writeField
  split
  · exact ⟨quote, _, rfl, Or.inl rfl⟩
  · exact ⟨first, bytes, rfl, Or.inr rfl⟩

/-- There is no byte order mark where the first field does not begin like one. -/
theorem noMark_of_head {first : UInt8} (notMark : first ≠ 0xef) (bytes : Bytes)
    (others : List Bytes) (rest : List (List Bytes)) :
    byteOrderMark.isPrefixOf (writeRecords delimiter (((first :: bytes) :: others) :: rest)) =
      false := by
  rcases writeField_cons delimiter first bytes with ⟨begun, behind, written, quoteOrFirst⟩
  have differs : (0xef : UInt8) ≠ begun := by
    rcases quoteOrFirst with rfl | rfl
    · decide
    · exact notMark.symm
  have begins : ∃ more,
      writeRecords delimiter (((first :: bytes) :: others) :: rest) = begun :: more := by
    rw [writeRecords, List.flatMap_cons, writeRecord_eq (fun empty => by cases empty),
      List.map_cons, written]
    cases others with
    | nil => simp
    | cons next others => simp [List.intercalate_cons_cons]
  rcases begins with ⟨more, begins⟩
  simp [begins, byteOrderMark, List.isPrefixOf, differs]

/-- A file that does not begin with a byte order mark holds the records that were written. -/
theorem readRecords_writeRecords (divides : Divides delimiter)
    (nonempty : ∀ record ∈ records, record ≠ [])
    (noMark : byteOrderMark.isPrefixOf (writeRecords delimiter records) = false) :
    (readRecords delimiter (writeRecords delimiter records)).map RawRecord.fields = records := by
  rw [readRecords, readAll, if_neg (by simp [noMark])]
  exact ((ReaderState.holds_initial 0).foldl_writeRecords divides nonempty).finish

end ParseTrace.Delimited
