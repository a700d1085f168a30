import ParseTrace.Text.Blank
import ParseTrace.Trace.Rule

/-!
# Reading the kind of a rule

The name of a kind is recognised in capital and small letters alike and with blanks around it.
-/

namespace ParseTrace

namespace RuleKind

/-- The kind that a text names. -/
def ofText? (text : List Char) : Option RuleKind :=
  all.find? fun kind => kind.name.toList == (Text.trim text).map Char.toUpper

/-- What is said of a text that names no kind. -/
def unknownMessage (text : String) : String :=
  s!"unknown matcher type '{text}'"

end RuleKind

end ParseTrace
