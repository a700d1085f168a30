import ParseTrace.Proofs.Input.Extraction

/-!
# Lines partition the input

What stands in front of a line and the line itself stand in front of the next line. So the spans of the
lines lie side by side from the start of the input to its end, and the texts that are extracted from
them are the lines: each ends with its newline, the last one only if the input does, and has no other.
-/

namespace ParseTrace

namespace Text

variable {text line : List Char} {index : Nat}

/-- A newline closes its line. -/
theorem newline_notMem_dropLast (present : line ∈ lines text) : '\n' ∉ line.dropLast := by
  induction text generalizing line with
  | nil =>
      obtain rfl := List.mem_singleton.mp present
      exact List.not_mem_nil
  | cons char rest ih =>
      by_cases last : rest = []
      · rw [last, lines_singleton] at present
        obtain rfl := List.mem_singleton.mp present
        exact List.not_mem_nil
      by_cases newline : char = '\n'
      · rw [newline, lines_cons_newline last] at present
        rcases List.mem_cons.mp present with rfl | later
        · exact List.not_mem_nil
        · exact ih later
      · rcases List.exists_cons_of_ne_nil (lines_ne_nil rest) with ⟨first, others, split⟩
        rw [lines_cons_of_ne newline last split] at present
        have firstListed : first ∈ lines rest := by simp [split]
        rcases List.mem_cons.mp present with rfl | later
        · rw [List.dropLast_cons_of_ne_nil (nonempty_of_mem_lines last firstListed), List.mem_cons]
          rintro (rfl | inside)
          · exact newline rfl
          · exact ih firstListed inside
        · apply ih
          rw [split]
          exact List.mem_cons_of_mem first later

/-- A line in front of another one has a newline. -/
theorem getLast?_of_lt (found : (lines text)[index]? = some line)
    (inFront : index + 1 < (lines text).length) : line.getLast? = some '\n' := by
  induction text generalizing index line with
  | nil => simp [lines] at inFront
  | cons char rest ih =>
      by_cases last : rest = []
      · simp [last, lines_singleton] at inFront
      by_cases newline : char = '\n'
      · rw [newline, lines_cons_newline last] at found inFront
        cases index with
        | zero =>
            obtain rfl := Option.some.inj found
            rfl
        | succ index => exact ih found (Nat.lt_of_succ_lt_succ inFront)
      · rcases List.exists_cons_of_ne_nil (lines_ne_nil rest) with ⟨first, others, split⟩
        rw [lines_cons_of_ne newline last split] at found inFront
        rw [split] at ih
        cases index with
        | zero =>
            obtain rfl := Option.some.inj found
            have nonempty : first ≠ [] := nonempty_of_mem_lines last (by simp [split])
            have closed : first.getLast? = some '\n' := ih rfl inFront
            rw [List.getLast?_cons, closed, Option.getD_some]
        | succ index =>
            have foundBehind : (first :: others)[index + 1]? = some line := found
            exact ih foundBehind inFront

/-- The last line ends as the text does. -/
theorem getLast?_of_last (found : (lines text)[index]? = some line)
    (last : index + 1 = (lines text).length) : line.getLast? = text.getLast? := by
  by_cases empty : text = []
  · subst empty
    obtain rfl := List.mem_singleton.mp (List.mem_of_getElem? found)
    rfl
  · have nonempty := nonempty_of_mem_lines empty (List.mem_of_getElem? found)
    have whole : ((lines text).take index).flatten ++ line = text := by
      have all := congrArg List.flatten (List.take_length (l := lines text))
      rw [← last, List.take_add_one, found, flatten_lines] at all
      simpa using all
    rw [← whole, List.getLast?_append_of_ne_nil _ nonempty]

/-- What stands between the lengths of two parts that begin a text is what the second part adds. -/
theorem slice16_append (front middle back : List Char) :
    slice16 (length16 front) (length16 (front ++ middle)) (front ++ middle ++ back) = middle := by
  have cut (part rest : List Char) : take16 (length16 part) (part ++ rest) = part := by
    rw [take16_append (Nat.le_refl _), Nat.sub_self, take16_zero, List.append_nil]
  have ordered : length16 front ≤ length16 (front ++ middle) := by simp
  have parts := take16_append_slice16 ordered (front ++ middle ++ back)
  rw [cut, List.append_assoc, cut] at parts
  rw [List.append_assoc]
  exact List.append_cancel_left parts

end Text

open Text

namespace InputText

variable {input : InputText} {index line offset start stop : Nat}

/-- A line has a span, and a number that has a span is one of a line. -/
theorem lineSpan?_eq_some_iff :
    input.lineSpan? line = some (start, stop) ↔
      ∃ index, line = index + 1 ∧ index < input.lineCount ∧ start = length16 (input.front index) ∧
        stop = length16 (input.front (index + 1)) := by
  cases line with
  | zero => simp [lineSpan?]
  | succ index =>
      by_cases within : index < input.lineCount
      · rw [lineSpan?_succ within]
        simp [within, eq_comm]
      · have absent : input.lineSpan? (index + 1) = none := by
          simp only [lineSpan?]
          rw [List.getElem?_eq_none (Nat.le_of_not_lt within)]
        simp [absent, within]

/-- The text of a line is what is extracted from its span. -/
theorem extract_line {text : List Char} (found : (lines input.chars)[index]? = some text) :
    input.extract (length16 (input.front index)) (length16 (input.front (index + 1))) =
      .ok (String.ofList text) := by
  have whole := input.front_append (index + 1)
  rw [extract_eq _ (input.length16_front_le _)]
  · conv => lhs; rw [← whole, front_succ found, slice16_append]
  · rw [front_succ found, length16_append]
    exact Nat.le_add_right _ _

/-- An offset lies on the line in whose span it is, and at the end on the last line. -/
theorem lineNumber_eq_succ_iff (within : offset ≤ input.length) (inside : index < input.lineCount) :
    input.lineNumber offset = index + 1 ↔
      length16 (input.front index) ≤ offset ∧ offset < length16 (input.front (index + 1)) ∨
        index + 1 = input.lineCount ∧ offset = input.length := by
  have starts : index < input.lineNumber offset ↔ _ ≤ offset := lt_lineNumber_iff inside
  by_cases last : index + 1 = input.lineCount
  · have atMost := input.lineNumber_le offset
    rw [last, front_lineCount, ← input.length_eq]
    have front := input.length16_front_le index
    omega
  · have nextInside : index + 1 < input.lineCount := by omega
    have nextStarts : index + 1 < input.lineNumber offset ↔ _ ≤ offset :=
      lt_lineNumber_iff nextInside
    omega

theorem exists_lineSpan_iff :
    (∃ span, input.lineSpan? line = some span) ↔ 1 ≤ line ∧ line ≤ input.lineCount := by
  constructor
  · rintro ⟨⟨start, stop⟩, found⟩
    rcases lineSpan?_eq_some_iff.mp found with ⟨index, rfl, inside, _⟩
    omega
  · rintro ⟨positive, inside⟩
    exact ⟨_, lineSpan?_of_pos positive inside⟩

theorem lineSpan?_adjacent {next last : Nat} (found : input.lineSpan? line = some (start, stop))
    (nextFound : input.lineSpan? (line + 1) = some (next, last)) : stop = next := by
  rcases lineSpan?_eq_some_iff.mp found with ⟨index, rfl, _, _, rfl⟩
  rcases lineSpan?_eq_some_iff.mp nextFound with ⟨nextIndex, same, _, rfl, _⟩
  obtain rfl : nextIndex = index + 1 := by omega
  rfl

theorem exists_lineSpan_lineCount (input : InputText) :
    ∃ start, input.lineSpan? input.lineCount = some (start, input.length) := by
  have span := lineSpan?_of_pos input.lineCount_pos (Nat.le_refl _)
  rw [front_lineCount, ← input.length_eq] at span
  exact ⟨_, span⟩

theorem lineSpan?_nonempty (nonempty : input.chars ≠ [])
    (found : input.lineSpan? line = some (start, stop)) : start < stop := by
  rcases lineSpan?_eq_some_iff.mp found with ⟨index, rfl, inside, rfl, rfl⟩
  rw [input.lineCount_eq] at inside
  have listed := List.getElem?_eq_getElem inside
  have wide := length16_pos (nonempty_of_mem_lines nonempty (List.getElem_mem inside))
  rw [front_succ listed, length16_append]
  omega

theorem lineOf_eq_ok_iff_span (within : offset ≤ input.length) :
    input.lineOf offset = .ok line ↔ ∃ start stop, input.lineSpan? line = some (start, stop) ∧
      (start ≤ offset ∧ offset < stop ∨ line = input.lineCount ∧ offset = input.length) := by
  rw [lineOf_eq_ok_iff]
  constructor
  · rintro ⟨_, rfl⟩
    have span := lineSpan?_of_pos (input.lineNumber_pos offset) (input.lineNumber_le offset)
    have same := Nat.sub_add_cancel (input.lineNumber_pos offset)
    have place := (lineNumber_eq_succ_iff within (input.lineNumber_pred_lt offset)).mp same.symm
    rw [same] at place
    exact ⟨_, _, span, place⟩
  · rintro ⟨start, stop, span, place⟩
    rcases lineSpan?_eq_some_iff.mp span with ⟨index, rfl, inside, rfl, rfl⟩
    exact ⟨within, (lineNumber_eq_succ_iff within inside).mpr place⟩

/-- The text of a line, and where it has a newline. -/
theorem lineText_spec {text : List Char} (listed : (lines input.chars)[index]? = some text) :
    (∃ start stop, input.lineSpan? (index + 1) = some (start, stop) ∧
      input.extract start stop = .ok (String.ofList text)) ∧
    '\n' ∉ text.dropLast ∧
    (index + 1 < input.lineCount → text.getLast? = some '\n') ∧
    (index + 1 = input.lineCount →
      (text.getLast? = some '\n' ↔ input.chars.getLast? = some '\n')) := by
  rw [input.lineCount_eq]
  refine ⟨⟨_, _, lineSpan?_succ ?_, extract_line listed⟩,
    newline_notMem_dropLast (List.mem_of_getElem? listed), getLast?_of_lt listed, ?_⟩
  · rw [input.lineCount_eq]
    exact (List.getElem?_eq_some_iff.mp listed).1
  · intro last
    rw [getLast?_of_last listed last]

theorem join_lines (input : InputText) :
    String.join ((lines input.chars).map String.ofList) = input.text := by
  rw [← String.toList_inj, text, String.toList_ofList, String.toList_join, List.flatMap_map]
  simp only [String.toList_ofList, List.flatMap_id', flatten_lines]

/-- The spans of the lines of any text, and what is extracted from them. -/
theorem spans_partition_input (input : InputText) :
    (∀ line, (∃ span, input.lineSpan? line = some span) ↔
      1 ≤ line ∧ line ≤ input.lineCount) ∧
    (∃ stop, input.lineSpan? 1 = some (0, stop)) ∧
    (∀ line start stop next last, input.lineSpan? line = some (start, stop) →
      input.lineSpan? (line + 1) = some (next, last) → stop = next) ∧
    (∃ start, input.lineSpan? input.lineCount = some (start, input.length)) ∧
    (input.chars ≠ [] → ∀ line start stop, input.lineSpan? line = some (start, stop) →
      start < stop) ∧
    (∃ texts : List String, texts.length = input.lineCount ∧ String.join texts = input.text ∧
      ∀ index text, texts[index]? = some text →
        (∃ start stop, input.lineSpan? (index + 1) = some (start, stop) ∧
          input.extract start stop = .ok text) ∧
        '\n' ∉ text.toList.dropLast ∧
        (index + 1 < input.lineCount → text.toList.getLast? = some '\n') ∧
        (index + 1 = input.lineCount →
          (text.toList.getLast? = some '\n' ↔ input.chars.getLast? = some '\n'))) ∧
    ∀ offset line, offset ≤ input.length → (input.lineOf offset = .ok line ↔
      ∃ start stop, input.lineSpan? line = some (start, stop) ∧
        (start ≤ offset ∧ offset < stop ∨ line = input.lineCount ∧ offset = input.length)) := by
  refine ⟨fun _ => exists_lineSpan_iff, ⟨_, lineSpan?_succ input.lineCount_pos⟩,
    fun _ _ _ _ _ => lineSpan?_adjacent, input.exists_lineSpan_lineCount,
    fun nonempty _ _ _ => lineSpan?_nonempty nonempty,
    ⟨(lines input.chars).map String.ofList, ?_, input.join_lines, ?_⟩,
    fun _ _ => lineOf_eq_ok_iff_span⟩
  · rw [List.length_map, input.lineCount_eq]
  · intro index text found
    rw [List.getElem?_map, Option.map_eq_some_iff] at found
    rcases found with ⟨line, listed, rfl⟩
    rw [String.toList_ofList]
    exact lineText_spec listed

theorem emptyLine_has_its_newline :
    ∃ texts : List String, texts.length = 3 ∧ String.join texts = "a\n\nb" ∧
      (∀ text, texts[1]? = some text → text.toList.getLast? = some '\n') ∧
      (InputText.ofString "a\n\nb").lineOf 2 = .ok 2 := by
  rcases spans_partition_input (.ofString "a\n\nb") with
    ⟨_, _, _, _, _, ⟨texts, count, joined, shapes⟩, lineFound⟩
  have three : (InputText.ofString "a\n\nb").lineCount = 3 := by decide +kernel
  refine ⟨texts, count.trans three, joined.trans (by decide +kernel), ?_, ?_⟩
  · intro text listed
    exact (shapes 1 text listed).2.2.1 (by decide +kernel)
  · apply (lineFound 2 2 (by decide +kernel)).mpr
    exact ⟨2, 3, by decide +kernel, Or.inl (by decide)⟩

end InputText

end ParseTrace
