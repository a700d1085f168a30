/-!
# Styles on a terminal

A styled text stands between two control sequences: one that sets the style and one that resets
everything. A reset within the text would end the style too early, so the style is set again
behind it.
-/

namespace ParseTrace.Text

/-- The styles in use. -/
inductive Style where
  | bold
  | dimmed
  | red
  | green
  | cyan
  | boldCyan
  | boldYellow
  deriving DecidableEq, Repr

namespace Style

/-- The parameters of the control sequence that sets a style. -/
def parameters : Style → List Char
  | bold => ['1']
  | dimmed => ['2']
  | red => ['3', '1']
  | green => ['3', '2']
  | cyan => ['3', '6']
  | boldCyan => ['1', ';', '3', '6']
  | boldYellow => ['1', ';', '3', '3']

/-- The control sequence that sets a style. -/
def start (style : Style) : List Char :=
  '\x1b' :: '[' :: (style.parameters ++ ['m'])

/-- The control sequence that resets everything. -/
def reset : List Char := ['\x1b', '[', '0', 'm']

/-- A text in which a style is set again behind every reset. -/
def restartAfterResets (style : Style) : List Char → List Char
  | '\x1b' :: '[' :: '0' :: 'm' :: rest => reset ++ style.start ++ restartAfterResets style rest
  | char :: rest => char :: restartAfterResets style rest
  | [] => []

/-- A text in a style, or as it is where styles are off. -/
def paint (styled : Bool) (style : Style) (text : String) : String :=
  if styled then
    String.ofList (style.start ++ style.restartAfterResets text.toList ++ reset)
  else text

end Style

end ParseTrace.Text
