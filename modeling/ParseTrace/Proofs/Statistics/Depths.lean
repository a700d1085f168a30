import ParseTrace.Proofs.Input.Spans
import ParseTrace.Proofs.Store.Reading
import ParseTrace.Statistics.Depth

/-!
# The depth of a line

A window of lines is asked for as a range of offsets, and what is found there is sorted back onto
lines. Both agree as long as the offsets of the input can be stored: an offset lies in the range if
and only if it lies within the input and on a line of the window. So what is reported for a line
depends on the nodes that start on it and not on the window.
-/

namespace ParseTrace

namespace InputText

variable {input : InputText} {first last line offset : Nat}

/-- The offset at which a window begins. -/
theorem low_le_iff (positive : first ≠ 0) (within : first ≤ input.lineCount) :
    ((input.lineSpan? first).getD (0, 0)).1 ≤ input.length ∧
      (((input.lineSpan? first).getD (0, 0)).1 ≤ offset ↔ first ≤ input.lineNumber offset) := by
  rcases Nat.exists_eq_succ_of_ne_zero positive with ⟨index, rfl⟩
  rw [lineSpan?_succ within]
  exact ⟨input.length16_front_le index, (lt_lineNumber_iff within).symm⟩

/-- The offset in front of which a window ends, unless it reaches down to the last line. -/
theorem lt_high_iff (positive : last ≠ 0) (inside : last < input.lineCount) :
    ((input.lineSpan? last).getD (0, 0)).2 ≤ input.length ∧
      (offset < ((input.lineSpan? last).getD (0, 0)).2 ↔ input.lineNumber offset ≤ last) := by
  rcases Nat.exists_eq_succ_of_ne_zero positive with ⟨index, rfl⟩
  have ends : index + 1 < input.lineNumber offset ↔ _ ≤ offset := lt_lineNumber_iff inside
  rw [lineSpan?_succ (Nat.lt_of_succ_lt inside)]
  refine ⟨input.length16_front_le (index + 1), ?_⟩
  simp only [Option.getD_some]
  omega

/-- The offsets between which the nodes of a window start, as they are asked for. -/
def windowBounds (input : InputText) (first last : Nat) : Nat × Nat :=
  (min ((input.lineSpan? first).getD (0, 0)).1 Store.maxStored,
    min (if last = input.lineCount then input.length + 1
      else ((input.lineSpan? last).getD (0, 0)).2) Store.maxStored)

/-- The offsets of a window are those on its lines. -/
theorem mem_window_iff (short : input.length ≤ 2 ^ 31 - 2) (positive : first ≠ 0)
    (ordered : first ≤ last) (within : last ≤ input.lineCount) :
    ((input.windowBounds first last).1 ≤ offset ∧ offset < (input.windowBounds first last).2) ↔
      offset ≤ input.length ∧ first ≤ input.lineNumber offset ∧
        input.lineNumber offset ≤ last := by
  have lower : _ ∧ (((input.lineSpan? first).getD (0, 0)).1 ≤ offset ↔
      first ≤ input.lineNumber offset) := low_le_iff positive (Nat.le_trans ordered within)
  have maximum : Store.maxStored = 2147483647 := rfl
  dsimp only [windowBounds]
  by_cases toEnd : last = input.lineCount
  · have upper := input.lineNumber_le offset
    rw [if_pos toEnd]
    omega
  · have upper : _ ∧ (offset < ((input.lineSpan? last).getD (0, 0)).2 ↔
        input.lineNumber offset ≤ last) := lt_high_iff (by omega) (by omega)
    rw [if_neg toEnd]
    omega

end InputText

namespace Statistics

variable {store : Store} {input : InputText} {startLine lineCount : Nat}

/-- The stored nodes that start on a line. -/
def startingOn (store : Store) (input : InputText) (line : Nat) : List StoredNode :=
  store.nodes.toList.filter fun node => input.lineOf node.start = .ok line

/-- The greatest level of the nodes that start on a line, zero if there is none. -/
def depthOn (store : Store) (input : InputText) (line : Nat) : Nat :=
  ((startingOn store input line).map fun node => node.level).max?.getD 0

theorem getElem?_enterNode (depths : List Nat) (node : StoredNode) (index : Nat) :
    (enterNode input startLine depths node)[index]? = depths[index]?.map fun depth =>
      if input.lineNumber (min node.start input.length) = startLine + index then
        max depth node.level
      else depth := by
  unfold enterNode raiseAt
  by_cases inFront : startLine ≤ input.lineNumber (min node.start input.length)
  · have place : input.lineNumber (min node.start input.length) - startLine = index ↔
        input.lineNumber (min node.start input.length) = startLine + index := by omega
    simp [inFront, List.getElem?_modify, place, Nat.max_comm]
  · have elsewhere : input.lineNumber (min node.start input.length) ≠ startLine + index := by omega
    simp [inFront, elsewhere]

/-- Entering nodes raises every entry to the levels of the nodes on its line. -/
theorem getElem?_foldl_enterNode (nodes : List StoredNode) (depths : List Nat) (index : Nat) :
    (nodes.foldl (enterNode input startLine) depths)[index]? = depths[index]?.map fun depth =>
      ((nodes.filter fun node =>
        input.lineNumber (min node.start input.length) = startLine + index).map
          fun node => node.level).foldl max depth := by
  induction nodes generalizing depths with
  | nil => simp
  | cons node rest ih =>
      rw [List.foldl_cons, ih, getElem?_enterNode, Option.map_map]
      congr 1
      funext depth
      by_cases here : input.lineNumber (min node.start input.length) = startLine + index
      · simp [here]
      · simp [here]

theorem depthByLine_eq_error (outside : startLine = 0 ∨ input.lineCount < startLine) :
    depthByLine store input startLine lineCount =
      .error (.range startLine (min (startLine + lineCount) (countLimit - 1)) input.lineCount) := by
  rw [depthByLine, if_pos outside]

/-- The nodes of a window on one of its lines are the nodes that start on this line. -/
theorem filter_window {last index : Nat} (short : input.length ≤ 2 ^ 31 - 2)
    (positive : startLine ≠ 0) (inWindow : startLine + index ≤ last)
    (within : last ≤ input.lineCount) :
    ((store.nodes.toList.filter fun node =>
        (input.windowBounds startLine last).1 ≤ node.start &&
          node.start < (input.windowBounds startLine last).2).filter fun node =>
      input.lineNumber (min node.start input.length) = startLine + index) =
      startingOn store input (startLine + index) := by
  rw [List.filter_filter]
  apply List.filter_congr
  intro node _
  rw [← Bool.decide_and, ← Bool.decide_and, decide_eq_decide,
    InputText.mem_window_iff short positive (by omega) within, InputText.lineOf_eq_ok_iff]
  constructor
  · rintro ⟨here, inside, _⟩
    rw [Nat.min_eq_left inside] at here
    exact ⟨inside, here⟩
  · rintro ⟨inside, here⟩
    rw [Nat.min_eq_left inside]
    omega

theorem depthByLine_eq_whenOpen (positive : startLine ≠ 0) (inText : startLine ≤ input.lineCount)
    (some : lineCount ≠ 0) {last : Nat}
    (lastEq : last = min (startLine + (lineCount - 1)) input.lineCount) :
    depthByLine store input startLine lineCount =
      store.whenOpen (.ok ((store.nodes.toList.filter fun node =>
        (input.windowBounds startLine last).1 ≤ node.start &&
          node.start < (input.windowBounds startLine last).2).foldl (enterNode input startLine)
            (List.replicate (last - startLine + 1) 0))) := by
  rw [depthByLine, if_neg (by omega), if_neg some, lastEq]
  rfl

/-- Every line of a window has its own depth. -/
theorem depthByLine_eq_ok (isOpen : store.closed = false) (short : input.length ≤ 2 ^ 31 - 2)
    (positive : startLine ≠ 0) (inText : startLine ≤ input.lineCount) :
    depthByLine store input startLine lineCount =
      .ok ((List.range (min lineCount (input.lineCount - startLine + 1))).map fun index =>
        depthOn store input (startLine + index)) := by
  by_cases empty : lineCount = 0
  · rw [depthByLine, if_neg (by omega), if_pos empty, empty, Nat.zero_min]
    rfl
  obtain ⟨last, lastEq⟩ : ∃ last, last = min (startLine + (lineCount - 1)) input.lineCount :=
    ⟨_, rfl⟩
  have size : min lineCount (input.lineCount - startLine + 1) = last - startLine + 1 := by omega
  rw [depthByLine_eq_whenOpen positive inText empty lastEq, Store.whenOpen_of_open isOpen, size]
  congr 1
  apply List.ext_getElem?
  intro index
  rw [getElem?_foldl_enterNode, List.getElem?_map]
  by_cases within : index < last - startLine + 1
  · rw [filter_window short positive (by omega) (by omega)]
    simp [within, depthOn, List.foldl_max]
  · have beyond : last - startLine + 1 ≤ index := Nat.not_lt.mp within
    have noDepth : (List.replicate (last - startLine + 1) 0)[index]? = none :=
      List.getElem?_eq_none (List.length_replicate.trans_le beyond)
    have noLine : (List.range (last - startLine + 1))[index]? = none :=
      List.getElem?_eq_none (List.length_range.trans_le beyond)
    rw [noDepth, noLine]
    rfl

/-- What is reported for a line, whatever window it is reported in. -/
theorem getElem?_depthByLine (isOpen : store.closed = false) (short : input.length ≤ 2 ^ 31 - 2)
    {depths : List Nat} (reported : depthByLine store input startLine lineCount = .ok depths)
    {line : Nat} (behind : startLine ≤ line) (inside : line < startLine + depths.length) :
    depths[line - startLine]? = some (depthOn store input line) := by
  have inRange : ¬(startLine = 0 ∨ input.lineCount < startLine) := by
    intro outside
    rw [depthByLine_eq_error outside] at reported
    cases reported
  rw [depthByLine_eq_ok isOpen short (by omega) (by omega)] at reported
  obtain rfl := Except.ok.inj reported
  rw [List.length_map, List.length_range] at inside
  have place : line - startLine < min lineCount (input.lineCount - startLine + 1) := by omega
  simp [place, behind]

/-- The depths of any lines of an input whose offsets can be stored. A window that does not begin at
a line is refused; any other one is cut at the last line and reports, line by line, how deep the nodes
are that start there, so two windows agree on the lines that they share. -/
theorem window_reports_line_depths (isOpen : store.closed = false)
    (short : input.length ≤ 2 ^ 31 - 2) :
    (∀ startLine lineCount,
      (∃ start stop length,
        depthByLine store input startLine lineCount = .error (.range start stop length)) ↔
        startLine = 0 ∨ input.lineCount < startLine) ∧
    (∀ startLine lineCount, startLine ≠ 0 → startLine ≤ input.lineCount →
      depthByLine store input startLine lineCount =
        .ok ((List.range (min lineCount (input.lineCount - startLine + 1))).map fun index =>
          depthOn store input (startLine + index))) ∧
    ∀ startLine lineCount otherLine otherCount depths others,
      depthByLine store input startLine lineCount = .ok depths →
      depthByLine store input otherLine otherCount = .ok others →
      ∀ line, startLine ≤ line → line < startLine + depths.length →
        otherLine ≤ line → line < otherLine + others.length →
        depths[line - startLine]? = others[line - otherLine]? := by
  refine ⟨?_, ?_, ?_⟩
  · intro startLine lineCount
    constructor
    · rintro ⟨start, stop, length, refused⟩
      by_contra inRange
      rw [depthByLine_eq_ok isOpen short (by omega) (by omega)] at refused
      cases refused
    · intro outside
      exact ⟨_, _, _, depthByLine_eq_error outside⟩
  · intro startLine lineCount positive inText
    exact depthByLine_eq_ok isOpen short positive inText
  · intro startLine lineCount otherLine otherCount depths others reported otherReported line
      behind inside otherBehind otherInside
    rw [getElem?_depthByLine isOpen short reported behind inside,
      getElem?_depthByLine isOpen short otherReported otherBehind otherInside]

/-- Nodes below the root of the sample store: one on the second line of the text below, one at its
very end, and one past it. -/
def deepNodes : List Invocation :=
  [⟨some 0, 1, 7, true, 2, 3, 40⟩, ⟨some 1, 2, 7, true, 3, 3, 30⟩, ⟨some 2, 3, 7, true, 9, 9, 20⟩]

theorem secondLine_is_two_deep :
    depthByLine (Store.sample.appendBatch deepNodes).2 (.ofChars ['a', '\n', 'b']) 2 10 =
      .ok [2] :=
  (window_reports_line_depths (by decide) (by decide)).2.1 2 10 (by decide) (by decide)

end Statistics

end ParseTrace
