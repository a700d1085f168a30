/-!
# Columns

A text is brought to the width of its column by spaces. Widths are counted in characters, and a
text that is too wide stays as it is.
-/

namespace ParseTrace.Text

/-- The spaces that a text lacks. -/
def padding (width : Nat) (text : String) : String :=
  String.ofList (List.replicate (width - text.toList.length) ' ')

/-- A text at the left of its column. -/
def alignLeft (width : Nat) (text : String) : String :=
  text ++ padding width text

/-- A text at the right of its column. -/
def alignRight (width : Nat) (text : String) : String :=
  padding width text ++ text

end ParseTrace.Text
