/-!
# Rules of a traced grammar

A rule is declared once in a trace, under an identifier of its own, and names the class that
implements it.
-/

namespace ParseTrace

/-- Identifies a declared rule. -/
abbrev RuleId := Int

/-- What kind of matcher implements a rule. -/
inductive RuleKind where
  | terminal
  | composite
  | sequence
  | choice
  | predicate
  | action
  | custom
  deriving DecidableEq, Repr

namespace RuleKind

/-- Every kind, in the order in which they are listed. -/
def all : List RuleKind :=
  [terminal, composite, sequence, choice, predicate, action, custom]

/-- The name under which a kind is written. -/
def name : RuleKind → String
  | terminal => "TERMINAL"
  | composite => "COMPOSITE"
  | sequence => "SEQUENCE"
  | choice => "CHOICE"
  | predicate => "PREDICATE"
  | action => "ACTION"
  | custom => "CUSTOM"

theorem mem_all (kind : RuleKind) : kind ∈ all := by
  cases kind <;> decide

end RuleKind

/-- A declared rule. -/
structure Rule where
  id : RuleId
  /-- The class of matcher that implements the rule. -/
  className : String
  kind : RuleKind
  name : String
  deriving DecidableEq, Repr

end ParseTrace
