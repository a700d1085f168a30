import Mathlib.Data.List.SplitBy
import ParseTrace.Text.Line
import ParseTrace.Text.Units16

/-!
# Cuts and lines

A cut is taken character by character, and so are the lines of a text: a character that is no newline
stands in front of the first line of what follows, and a newline is a line of its own in front of
the others. The lines that start at or before an offset are therefore as many as the newlines before
it and one more, except behind the last newline of a text that ends with it, where no line starts.
-/

namespace ParseTrace.Text

variable {char : Char} {text rest : List Char}

section Cuts

@[simp]
theorem drop16_zero (text : List Char) : drop16 0 text = text := by
  cases text with
  | nil => rfl
  | cons char rest =>
      have wide : ¬units16 char ≤ 0 := Nat.not_le.mpr (units16_pos char)
      simp only [drop16, if_neg wide]

@[simp]
theorem take16_nil (offset : Nat) : take16 offset [] = [] := by
  simp [take16]

theorem take16_cons (offset : Nat) (char : Char) (rest : List Char) :
    take16 offset (char :: rest) =
      if units16 char ≤ offset then char :: take16 (offset - units16 char) rest else [] := by
  simp only [take16, drop16]
  split
  · have shorter : (drop16 (offset - units16 char) rest).length ≤ rest.length :=
      (drop16_suffix _ rest).length_le
    rw [List.length_cons, Nat.succ_sub shorter, List.take_succ_cons]
  · rw [Nat.sub_self, List.take_zero]

@[simp]
theorem take16_zero (text : List Char) : take16 0 text = [] := by
  simp [take16]

theorem take16_of_length_le {offset : Nat} (whole : length16 text ≤ offset) :
    take16 offset text = text := by
  induction text generalizing offset with
  | nil => exact take16_nil offset
  | cons char rest ih =>
      rw [length16_cons] at whole
      rw [take16_cons, if_pos (by omega), ih (by omega)]

/-- A cut behind the first part of a text is a cut of the rest. -/
theorem take16_append {offset : Nat} {front : List Char} (behind : length16 front ≤ offset)
    (back : List Char) :
    take16 offset (front ++ back) = front ++ take16 (offset - length16 front) back := by
  induction front generalizing offset with
  | nil => simp
  | cons char rest ih =>
      rw [length16_cons] at behind
      rw [List.cons_append, take16_cons, if_pos (by omega), ih (by omega), length16_cons,
        Nat.sub_sub]
      rfl

/-- Of two cuts the one in front also cuts what is in front of the other. -/
theorem take16_take16 {start stop : Nat} (ordered : start ≤ stop) (text : List Char) :
    take16 start (take16 stop text) = take16 start text := by
  induction text generalizing start stop with
  | nil => simp
  | cons char rest ih =>
      rw [take16_cons stop]
      by_cases within : units16 char ≤ stop
      · rw [if_pos within, take16_cons, take16_cons, ih (by omega)]
      · rw [if_neg within, take16_nil, take16_cons, if_neg (by omega)]

theorem take16_append_slice16 {start stop : Nat} (ordered : start ≤ stop) (text : List Char) :
    take16 start text ++ slice16 start stop text = take16 stop text := by
  rw [← take16_take16 ordered, slice16, take16_append_drop16]

end Cuts

section Lines

theorem lines_of_ne_nil (nonempty : text ≠ []) :
    lines text = text.splitBy fun char _ => char != '\n' := by
  simp [lines, nonempty]

theorem lines_ne_nil (text : List Char) : lines text ≠ [] := by
  by_cases empty : text = []
  · simp [lines, empty]
  · rw [lines_of_ne_nil empty]
    exact List.splitBy_ne_nil.mpr empty

theorem lines_singleton (char : Char) : lines [char] = [[char]] := rfl

/-- A newline closes the first line. -/
theorem lines_cons_newline (nonempty : rest ≠ []) :
    lines ('\n' :: rest) = ['\n'] :: lines rest := by
  rw [lines_of_ne_nil (List.cons_ne_nil _ _), lines_of_ne_nil nonempty, ← List.singleton_append,
    List.splitBy_append (by simp)]
  rfl

/-- Any other character stands on the same line as what follows. -/
theorem lines_cons_of_ne {line : List Char} {others : List (List Char)} (noNewline : char ≠ '\n')
    (nonempty : rest ≠ []) (split : lines rest = line :: others) :
    lines (char :: rest) = (char :: line) :: others := by
  rw [lines_of_ne_nil nonempty, List.splitBy_eq_iff] at split
  rcases split with ⟨same, nonemptyLines, chains, ends⟩
  have lineNonempty : line ≠ [] := by
    rintro rfl
    exact nonemptyLines List.mem_cons_self
  rw [lines_of_ne_nil (List.cons_ne_nil _ _), List.splitBy_eq_iff]
  refine ⟨?_, ?_, ?_, ?_⟩
  · rw [same]
    rfl
  · rw [List.mem_cons] at nonemptyLines ⊢
    simpa using fun present => nonemptyLines (Or.inr present)
  · intro other present
    rcases List.mem_cons.mp present with rfl | later
    · rw [List.isChain_cons]
      refine ⟨?_, chains line List.mem_cons_self⟩
      intro next isNext
      simpa using noNewline
    · exact chains other (List.mem_cons_of_mem _ later)
  · rw [List.isChain_cons] at ends ⊢
    refine ⟨?_, ends.2⟩
    intro next isNext
    rcases ends.1 next isNext with ⟨_, nextNonempty, closes⟩
    exact ⟨List.cons_ne_nil _ _, nextNonempty, by rwa [List.getLast_cons lineNonempty]⟩

end Lines

section Starts

variable {total : List Char → Nat} {base start index bound : Nat} {lines : List (List Char)}

theorem units16_newline : units16 '\n' = 1 := rfl

theorem length16_pos (nonempty : text ≠ []) : 0 < length16 text := by
  cases text with
  | nil => exact absurd rfl nonempty
  | cons char rest =>
      have positive := units16_pos char
      rw [length16_cons]
      omega

theorem nonempty_of_mem_lines {line : List Char} (nonempty : text ≠ [])
    (present : line ∈ Text.lines text) : line ≠ [] := by
  rintro rfl
  rw [lines_of_ne_nil nonempty] at present
  exact List.nil_notMem_splitBy _ _ present

theorem flatten_lines (text : List Char) : (Text.lines text).flatten = text := by
  by_cases empty : text = []
  · simp [empty, Text.lines]
  · rw [lines_of_ne_nil empty]
    exact List.flatten_splitBy _ _

/-- In front of the line at a place stand the lines before it. -/
theorem getElem?_lineStarts (within : index < lines.length)
    (additive : ∀ left right, total (left ++ right) = total left + total right) :
    (lineStarts total base lines)[index]? = some (base + total (lines.take index).flatten) := by
  induction lines generalizing base index with
  | nil => cases within
  | cons line rest ih =>
      cases index with
      | zero =>
          have nothing : total [] = 0 := by simpa using additive [] []
          simp [lineStarts, nothing]
      | succ index =>
          rw [lineStarts, List.getElem?_cons_succ, ih (Nat.lt_of_succ_lt_succ within),
            List.take_succ_cons, List.flatten_cons, additive, Nat.add_assoc]

theorem le_of_mem_lineStarts (present : start ∈ lineStarts total base lines) : base ≤ start := by
  induction lines generalizing base with
  | nil => cases present
  | cons line rest ih =>
      rcases List.mem_cons.mp present with rfl | later
      · exact Nat.le_refl start
      · exact Nat.le_trans (Nat.le_add_right _ _) (ih later)

theorem pairwise_lineStarts_of_nonempty (base : Nat) (nonempty : ∀ line ∈ lines, line ≠ []) :
    (lineStarts length16 base lines).Pairwise (· < ·) := by
  induction lines generalizing base with
  | nil => exact .nil
  | cons line rest ih =>
      rw [List.forall_mem_cons] at nonempty
      refine .cons ?_ (ih _ nonempty.2)
      intro start later
      have behind := le_of_mem_lineStarts later
      have wide := length16_pos nonempty.1
      omega

/-- Lines start one behind the other. -/
theorem pairwise_lineStarts (text : List Char) (base : Nat) :
    (lineStarts length16 base (Text.lines text)).Pairwise (· < ·) := by
  by_cases empty : text = []
  · simp [empty, Text.lines, lineStarts]
  · apply pairwise_lineStarts_of_nonempty
    intro line present
    exact nonempty_of_mem_lines empty present

theorem lt_length16_of_mem_lineStarts (nonempty : ∀ line ∈ lines, line ≠ [])
    (present : start ∈ lineStarts length16 base lines) :
    start < base + length16 lines.flatten := by
  induction lines generalizing base with
  | nil => cases present
  | cons line rest ih =>
      rw [List.forall_mem_cons] at nonempty
      have wide := length16_pos nonempty.1
      rw [List.flatten_cons, length16_append]
      rcases List.mem_cons.mp present with rfl | later
      · omega
      · have within := ih nonempty.2 later
        omega

/-- No line starts at the end of a text. -/
theorem lt_of_mem_lineStarts (nonempty : text ≠ [])
    (present : start ∈ lineStarts length16 0 (Text.lines text)) : start < length16 text := by
  have inside := lt_length16_of_mem_lineStarts
    (fun line listed => nonempty_of_mem_lines nonempty listed) present
  rwa [flatten_lines, Nat.zero_add] at inside

theorem countP_lineStarts_of_lt (before : bound < base) (lines : List (List Char)) :
    (lineStarts length16 base lines).countP (fun start => start ≤ bound) = 0 := by
  rw [List.countP_eq_zero]
  intro start present
  have := le_of_mem_lineStarts present
  simp only [decide_eq_true_eq]
  omega

theorem countP_lineStarts_cons (base offset : Nat) (line : List Char)
    (others : List (List Char)) :
    (lineStarts length16 base (line :: others)).countP (fun start => start ≤ base + offset) =
      (lineStarts length16 (base + length16 line) others).countP
        (fun start => start ≤ base + offset) + 1 := by
  rw [lineStarts, List.countP_cons_of_pos (by simp)]

/-- As many lines start within the first code units of a text as there are newlines in them, and one
more, as long as there are so many lines. -/
theorem countP_lineStarts (text : List Char) (base offset : Nat) :
    (lineStarts length16 base (Text.lines text)).countP (fun start => start ≤ base + offset) =
      min (1 + (take16 offset text).count '\n') (Text.lines text).length := by
  induction text generalizing base offset with
  | nil => simp [Text.lines, lineStarts]
  | cons char rest ih =>
      by_cases last : rest = []
      · rw [last, lines_singleton]
        simp [lineStarts]
      by_cases newline : char = '\n'
      · rw [newline, lines_cons_newline last, countP_lineStarts_cons, take16_cons, length16_cons,
          length16_nil, units16_newline, List.length_cons]
        by_cases within : 1 ≤ offset
        · have shifted : base + offset = base + 1 + (offset - 1) := by omega
          rw [if_pos within, List.count_cons_self, shifted, ih]
          omega
        · rw [if_neg within, countP_lineStarts_of_lt (by omega)]
          simp
      · rcases List.exists_cons_of_ne_nil (lines_ne_nil rest) with ⟨line, others, split⟩
        rw [lines_cons_of_ne newline last split, countP_lineStarts_cons, take16_cons, length16_cons,
          List.length_cons, ← Nat.add_assoc]
        by_cases within : units16 char ≤ offset
        · have shifted : base + offset = base + units16 char + (offset - units16 char) := by omega
          have restStarts := ih (base + units16 char) (offset - units16 char)
          rw [split, countP_lineStarts_cons, List.length_cons] at restStarts
          rw [if_pos within, List.count_cons_of_ne newline, shifted, restStarts]
        · rw [if_neg within, countP_lineStarts_of_lt (by omega)]
          simp

section Increasing

variable {entries : List Nat}

/-- If an increasing list begins past a bound, it has no entry up to it. -/
theorem countP_le_of_lt {first : Nat} (increasing : (first :: entries).Pairwise (· < ·))
    (beyond : bound < first) : (first :: entries).countP (fun entry => entry ≤ bound) = 0 := by
  rw [List.countP_eq_zero]
  intro entry present
  simp only [decide_eq_true_eq]
  rcases List.mem_cons.mp present with rfl | later
  · omega
  · have behind := (List.pairwise_cons.mp increasing).1 entry later
    omega

/-- In an increasing list the entries up to a bound stand in front. -/
theorem lt_countP_iff (increasing : entries.Pairwise (· < ·))
    (found : entries[index]? = some start) :
    index < entries.countP (fun entry => entry ≤ bound) ↔ start ≤ bound := by
  induction entries generalizing index with
  | nil => cases found
  | cons first rest ih =>
      by_cases small : first ≤ bound
      · rw [List.countP_cons_of_pos (by simpa using small)]
        cases index with
        | zero =>
            obtain rfl := Option.some.inj found
            simp [small]
        | succ index =>
            rw [Nat.add_lt_add_iff_right]
            exact ih increasing.of_cons found
      · have beyond : bound < first := Nat.lt_of_not_le small
        rw [countP_le_of_lt increasing beyond]
        rcases List.mem_cons.mp (List.mem_of_getElem? found) with rfl | later
        · omega
        · have behind := (List.pairwise_cons.mp increasing).1 start later
          omega

/-- So the first entry past a bound has as many in front of it as there are up to the bound. -/
theorem findIdx_eq_countP (increasing : entries.Pairwise (· < ·)) (bound : Nat) :
    entries.findIdx (fun entry => bound < entry) = entries.countP (fun entry => entry ≤ bound) := by
  induction entries with
  | nil => rfl
  | cons first rest ih =>
      by_cases beyond : bound < first
      · rw [countP_le_of_lt increasing beyond, List.findIdx_cons]
        simp [beyond]
      · rw [List.countP_cons_of_pos (by simpa using beyond), ← ih increasing.of_cons,
          List.findIdx_cons]
        simp [beyond]

end Increasing

end Starts

end ParseTrace.Text
