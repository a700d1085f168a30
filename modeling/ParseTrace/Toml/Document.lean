import ParseTrace.Toml.Value

/-!
# TOML documents

A document is a sequence of expressions, one a line: a key with its value, or the header of the
table to which the following keys belong. A table has at most one header, and no key has two
values.
-/

namespace ParseTrace.Toml

open Scanner

/-- An expression of a document. -/
inductive Expression where
  | pair (key : List String) (value : Value)
  | header (key : List String)
  /-- A header in double brackets, which adds a table to an array. -/
  | element (key : List String)
  deriving Repr

/-- The header of a table. -/
def tableHeader : Scanner Expression := do
  char '['
  let path ← key
  char ']'
  return .header path

/-- The header of an element of an array of tables. -/
def elementHeader : Scanner Expression := do
  literal ['[', '[']
  let path ← key
  literal [']', ']']
  return .element path

/-- An expression up to the end of its line. -/
def expression : Scanner Expression :=
  (elementHeader <|> tableHeader <|> ((fun pair => .pair pair.1 pair.2) <$> pairOf value))
    <* lineEnd

/-- A line with or without an expression. -/
def documentLine : Scanner (Option Expression) := do
  let line ← (newline *> pure none) <|> (comment *> (newline <|> atEnd) *> pure none) <|>
    (some <$> expression)
  blanks
  return line

/-- The expressions of a document, behind a byte order mark if there is one. -/
def expressions : Scanner (List Expression) := do
  discard <| maybe (char '\ufeff')
  blanks
  let lines ← many documentLine
  atEnd
  return lines.filterMap id

/-- Changes the table at a path. Tables on the way are made as needed, and of an array of tables
the last one is meant. -/
def changeAt (change : Entries → Option Entries) : List String → Entries → Option Entries
  | [], entries => change entries
  | part :: path, entries =>
      match entries.get? part with
      | none => do
          let inner ← changeAt change path []
          return entries.set part (.table .outer inner)
      | some (.table origin inner) => do
          let inner ← changeAt change path inner
          return entries.set part (.table origin inner)
      | some (.tables elements) => do
          let element ← elements.getLast?
          let inner ← changeAt change path element
          return entries.set part (.tables (elements.dropLast ++ [inner]))
      | some _ => none

/-- Enters keys and values into a table. -/
def insertAll (pairs : List (List String × Value)) (entries : Entries) : Option Entries :=
  pairs.foldlM (fun entries pair => entries.insert? pair.1 pair.2) entries

/-- A header with the keys and values that follow it. -/
structure Section where
  key : List String
  isElement : Bool
  pairs : List (List String × Value)

/-- Enters a section into a document. -/
def addSection (document : Entries) (part : Section) : Option Entries := do
  let name ← part.key.getLast?
  changeAt
    (fun entries =>
      match part.isElement, entries.get? name with
      | false, none => do
          return entries.set name (.table .header (← insertAll part.pairs []))
      | false, some (.table .outer inner) => do
          return entries.set name (.table .header (← insertAll part.pairs inner))
      | true, none => do
          return entries.set name (.tables [← insertAll part.pairs []])
      | true, some (.tables elements) => do
          return entries.set name (.tables (elements ++ [← insertAll part.pairs []]))
      | _, some _ => none)
    part.key.dropLast document

/-- The keys and values before the first header, and the sections. -/
def divide : List Expression → List (List String × Value) × List Section
  | [] => ([], [])
  | .pair key value :: rest =>
      let (pairs, sections) := divide rest
      ((key, value) :: pairs, sections)
  | .header key :: rest =>
      let (pairs, sections) := divide rest
      ([], ⟨key, false, pairs⟩ :: sections)
  | .element key :: rest =>
      let (pairs, sections) := divide rest
      ([], ⟨key, true, pairs⟩ :: sections)

/-- The entries of a document, none if it is no TOML. -/
def parse? (text : String) : Option Entries := do
  let (expressions, _) ← expressions text.toList
  let (pairs, sections) := divide expressions
  let root ← insertAll pairs []
  sections.foldlM addSection root

end ParseTrace.Toml
