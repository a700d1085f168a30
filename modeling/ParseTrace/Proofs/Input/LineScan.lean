import ParseTrace.Proofs.Input.Lines
import ParseTrace.Text.LineScan
import ParseTrace.Text.Units8

/-!
# What one pass finds

Reading a text character by character notes the place behind every newline. Together with the start of
the text these are the starts of its lines, and the end of the text if a newline stands there, which is
the note that is taken back. The same holds in code units and in bytes, so the two tables that a pass
leaves are of one length and their entries belong together.
-/

namespace ParseTrace.Text

variable {text : List Char}

section NewlineEnds

variable {width : Char → Nat} {total : List Char → Nat}

/-- The places behind the newlines of a text that starts at `base`. -/
def newlineEnds (width : Char → Nat) (base : Nat) : List Char → List Nat
  | [] => []
  | char :: rest =>
      if char = '\n' then (base + width char) :: newlineEnds width (base + width char) rest
      else newlineEnds width (base + width char) rest

/-- Behind every newline a line starts, unless the text ends there. -/
theorem cons_newlineEnds (total_nil : total [] = 0)
    (total_cons : ∀ char rest, total (char :: rest) = width char + total rest)
    (base : Nat) (text : List Char) :
    base :: newlineEnds width base text =
      lineStarts total base (lines text) ++
        if text.getLast? = some '\n' then [base + total text] else [] := by
  induction text generalizing base with
  | nil => rfl
  | cons char rest ih =>
      rw [newlineEnds]
      by_cases last : rest = []
      · subst last
        rw [lines_singleton, total_cons, total_nil]
        by_cases newline : char = '\n'
        · simp [newline, lineStarts, newlineEnds]
        · simp [newline, lineStarts, newlineEnds]
      have sameEnd : (char :: rest).getLast? = rest.getLast? := by
        rw [List.getLast?_cons, List.getLast?_eq_some_getLast last]
        rfl
      rw [sameEnd, total_cons, ← Nat.add_assoc]
      have behind := ih (base + width char)
      by_cases newline : char = '\n'
      · rw [if_pos newline, behind]
        subst newline
        rw [lines_cons_newline last, lineStarts, total_cons, total_nil]
        rfl
      · rcases List.exists_cons_of_ne_nil (lines_ne_nil rest) with ⟨line, others, split⟩
        -- The line of the character goes on, so only the lines behind it start where they did.
        rw [split, lineStarts, List.cons_append, List.cons.injEq] at behind
        rw [if_neg newline, behind.2, lines_cons_of_ne newline last split, lineStarts, total_cons,
          ← Nat.add_assoc]
        rfl

end NewlineEnds

namespace LineScan

theorem step_newline (scan : LineScan) :
    scan.step '\n' =
      ⟨scan.units + units16 '\n', scan.bytes + '\n'.utf8Size, scan.codePoints + 1,
        scan.unitStarts.push (scan.units + units16 '\n'),
        scan.byteStarts.push (scan.bytes + '\n'.utf8Size)⟩ := rfl

theorem step_of_ne (scan : LineScan) {char : Char} (noNewline : char ≠ '\n') :
    scan.step char =
      ⟨scan.units + units16 char, scan.bytes + char.utf8Size, scan.codePoints + 1,
        scan.unitStarts, scan.byteStarts⟩ := by
  rw [step, if_neg noNewline]

/-- What has been found behind more text. -/
theorem foldl_step (scan : LineScan) (text : List Char) :
    text.foldl step scan =
      ⟨scan.units + length16 text, scan.bytes + length8 text, scan.codePoints + text.length,
        scan.unitStarts ++ newlineEnds units16 scan.units text,
        scan.byteStarts ++ newlineEnds Char.utf8Size scan.bytes text⟩ := by
  induction text generalizing scan with
  | nil => simp [newlineEnds]
  | cons char rest ih =>
      rw [List.foldl_cons, ih]
      by_cases newline : char = '\n'
      · subst newline
        rw [step_newline]
        simp [newlineEnds, Nat.add_assoc, Nat.add_comm 1]
      · rw [step_of_ne scan newline]
        simp [newlineEnds, newline, Nat.add_assoc, Nat.add_comm 1]

/-- What has been found behind the last character. -/
theorem foldl_start (text : List Char) :
    text.foldl step start =
      ⟨length16 text, length8 text, text.length,
        (lineStarts length16 0 (lines text) ++
          if text.getLast? = some '\n' then [length16 text] else []).toArray,
        (lineStarts length8 0 (lines text) ++
          if text.getLast? = some '\n' then [length8 text] else []).toArray⟩ := by
  have units := cons_newlineEnds length16_nil length16_cons 0 text
  have bytes := cons_newlineEnds length8_nil length8_cons 0 text
  rw [Nat.zero_add] at units bytes
  rw [foldl_step, ← units, ← bytes]
  simp [start]

/-- A pass finds the length of a text in its three measures, and where its lines start. -/
theorem ofChars_eq (text : List Char) :
    ofChars text =
      ⟨length16 text, length8 text, text.length, (lineStarts length16 0 (lines text)).toArray,
        (lineStarts length8 0 (lines text)).toArray⟩ := by
  have some_line : 0 < (lines text).length := List.length_pos_iff.mpr (lines_ne_nil text)
  rw [ofChars, foldl_start]
  by_cases endsLine : text.getLast? = some '\n'
  · simp only [if_pos endsLine]
    rw [finish, if_pos]
    · simp
    · simpa using some_line
  · simp only [if_neg endsLine, List.append_nil]
    rw [finish, if_neg]
    rintro ⟨more, atEnd⟩
    -- The last of several lines is not empty, so it starts in front of the end.
    have nonempty : text ≠ [] := by
      rintro rfl
      simp [lines, lineStarts] at more
    have present : length16 text ∈ lineStarts length16 0 (lines text) :=
      List.mem_of_getLast? (by simpa using atEnd)
    exact Nat.lt_irrefl _ (lt_of_mem_lineStarts nonempty present)

end LineScan

end ParseTrace.Text
