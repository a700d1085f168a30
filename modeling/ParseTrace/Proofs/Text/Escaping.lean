import ParseTrace.Text.Control

/-!
# Escaped texts

A text is escaped character by character. Every control character becomes a backslash with a letter, or
with the letter `u` and the four hexadecimal digits of its number; every other character is kept, a
backslash as well. So nothing in an escaped text is a control character, and escaping changes only texts
that hold one.
-/

namespace ParseTrace.Text

variable {char other : Char} {text : List Char}

/-- The lower-case hexadecimal digits. -/
def hexDigits : List Char :=
  ['0', '1', '2', '3', '4', '5', '6', '7', '8', '9', 'a', 'b', 'c', 'd', 'e', 'f']

/-- The number that hexadecimal digits spell. -/
def hexValue (digits : List Char) : Nat :=
  digits.foldl (fun value digit => 16 * value + hexDigits.idxOf digit) 0

/-- Whether a text is the escape of a character: a backslash and the letter of the character, or a
backslash, the letter `u` and four hexadecimal digits that spell its number. -/
def Escapes (char : Char) : List Char → Prop
  | ['\\', letter] => (char, letter) ∈ [('\n', 'n'), ('\r', 'r'), ('\t', 't')]
  | '\\' :: 'u' :: digits =>
      digits.length = 4 ∧ digits ⊆ hexDigits ∧ hexValue digits = char.toNat
  | _ => False

instance (char : Char) : DecidablePred (Escapes char) := fun shown => by
  unfold Escapes
  split <;> infer_instance

/-- The control characters are few, so what holds of all of them can be looked up. -/
theorem forall_isControl (property : Char → Prop)
    (each : ∀ code < 0xa0, isControl (Char.ofNat code) = true → property (Char.ofNat code))
    (control : isControl char = true) : property char := by
  have few : char.toNat < 0xa0 := by
    simp only [isControl, Bool.or_eq_true, Bool.and_eq_true, decide_eq_true_eq] at control
    omega
  have shown := each char.toNat few
  rw [Char.ofNat_toNat] at shown
  exact shown control

theorem visible_of_plain (plain : isControl char = false) : visible char = [char] := by
  have noNewline : char ≠ '\n' := by
    rintro rfl
    exact absurd plain (by decide)
  have noReturn : char ≠ '\r' := by
    rintro rfl
    exact absurd plain (by decide)
  have noTabulator : char ≠ '\t' := by
    rintro rfl
    exact absurd plain (by decide)
  simp [visible, noNewline, noReturn, noTabulator, plain]

theorem escapes_visible (control : isControl char = true) : Escapes char (visible char) :=
  forall_isControl (fun char => Escapes char (visible char)) (by decide +kernel) control

/-- Nothing in the place of a character is a control character. -/
theorem isControl_of_mem_visible (present : other ∈ visible char) : isControl other = false := by
  by_cases control : isControl char = true
  · -- A list is walked through by `all`; a `∀` would be decided by trying every character there is.
    have shown := forall_isControl (fun char => (visible char).all (fun sign => !isControl sign) = true)
      (by decide +kernel) control
    simpa using List.all_eq_true.mp shown other present
  · have plain : isControl char = false := by simpa using control
    rw [visible_of_plain plain, List.mem_singleton] at present
    rwa [present]

@[simp]
theorem escapeControl_append (text rest : List Char) :
    escapeControl (text ++ rest) = escapeControl text ++ escapeControl rest :=
  List.flatMap_append

theorem escapeControl_cons (char : Char) (rest : List Char) :
    escapeControl (char :: rest) = visible char ++ escapeControl rest :=
  List.flatMap_cons

theorem isControl_of_mem_escapeControl (present : char ∈ escapeControl text) :
    isControl char = false := by
  rcases List.mem_flatMap.mp present with ⟨source, _, shown⟩
  exact isControl_of_mem_visible shown

/-- Escaping keeps a text if it has nothing to escape, and no other text. -/
theorem escapeControl_eq_self_iff :
    escapeControl text = text ↔ ∀ char ∈ text, isControl char = false := by
  constructor
  · intro same char present
    rw [← same] at present
    exact isControl_of_mem_escapeControl present
  · intro plain
    induction text with
    | nil => rfl
    | cons char rest ih =>
        rw [List.forall_mem_cons] at plain
        rw [escapeControl_cons, visible_of_plain plain.1, ih plain.2, List.singleton_append]

/-- What escaping does to any text. Nothing in the result is a control character. The text is kept
exactly if it holds none, so escaping twice is escaping once. Two parts of a text are escaped one
behind the other. Wherever in a text a character stands, it is kept if it is no control character, and
otherwise its escape takes its place. -/
theorem escaping_replaces_just_control (text : List Char) :
    (∀ char ∈ escapeControl text, isControl char = false) ∧
    (escapeControl text = text ↔ ∀ char ∈ text, isControl char = false) ∧
    escapeControl (escapeControl text) = escapeControl text ∧
    (∀ rest, escapeControl (text ++ rest) = escapeControl text ++ escapeControl rest) ∧
    (∀ char rest, isControl char = false →
      escapeControl (text ++ char :: rest) = escapeControl text ++ char :: escapeControl rest) ∧
    ∀ char rest, isControl char = true → ∃ shown, Escapes char shown ∧
      escapeControl (text ++ char :: rest) = escapeControl text ++ shown ++ escapeControl rest := by
  refine ⟨?_, escapeControl_eq_self_iff, ?_, escapeControl_append text, ?_, ?_⟩
  · exact fun char => isControl_of_mem_escapeControl
  · exact escapeControl_eq_self_iff.mpr fun char => isControl_of_mem_escapeControl
  · intro char rest plain
    rw [escapeControl_append, escapeControl_cons, visible_of_plain plain, List.singleton_append]
  · intro char rest control
    refine ⟨visible char, escapes_visible control, ?_⟩
    rw [escapeControl_append, escapeControl_cons, List.append_assoc]

/-- A backslash in front of an `n` is no line break and is kept; a line break is escaped. -/
theorem backslash_is_kept : isControl '\\' = false ∧ isControl '\u0085' = true ∧
    escapeControl ['\n', '\\', 'n'] = ['\\', 'n', '\\', 'n'] ∧
    ∃ shown, Escapes '\u0085' shown ∧ escapeControl ['a', '\u0085'] = 'a' :: shown := by
  have plain : isControl '\\' = false := by decide
  have control : isControl '\u0085' = true := by decide
  refine ⟨plain, control, ?_, ?_⟩
  · exact (escaping_replaces_just_control ['\n']).2.2.2.2.1 '\\' ['n'] plain
  · rcases (escaping_replaces_just_control ['a']).2.2.2.2.2 '\u0085' [] control with
      ⟨shown, isEscape, replaced⟩
    have kept : escapeControl ['a'] = ['a'] := by decide
    refine ⟨shown, isEscape, replaced.trans ?_⟩
    rw [kept, escapeControl, List.flatMap_nil, List.append_nil]
    rfl

end ParseTrace.Text
