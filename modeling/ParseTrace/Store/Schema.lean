/-!
# The version of the store's layout

A layout is named by three numbers and lists what it can hold.
-/

namespace ParseTrace

/-- The version of a layout and what it holds. -/
structure Schema where
  major : Nat
  minor : Nat
  patch : Nat
  name : String
  features : List String
  deriving DecidableEq, Repr

namespace Schema

/-- The layout in use. -/
def current : Schema where
  major := 1
  minor := 0
  patch := 0
  name := "parse-trace"
  features := ["matchers", "nodes"]

/-- The three numbers of a version. -/
def version (schema : Schema) : String :=
  s!"{schema.major}.{schema.minor}.{schema.patch}"

/-- Version and name of a layout. -/
def describe (schema : Schema) : String :=
  s!"v{schema.version} ({schema.name})"

end Schema

end ParseTrace
