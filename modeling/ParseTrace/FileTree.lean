/-!
# Files and directories

A file tree says what lies where, and paths are looked up in it from a working directory. A path
is a sequence of names divided by slashes; empty names and single dots stay where they are, double
dots go up, and every name but the last has to be that of a directory. The text of a path has a
greatest length, however short the way is that it describes. A file may be there and yet not be open
to reading.
-/

namespace ParseTrace

/-- What lies at a path. -/
inductive Located (α : Type) where
  | missing
  | directory
  /-- A file that may not be read. -/
  | unreadable
  | file (contents : α)
  deriving DecidableEq, Repr

/-- Files, explicitly listed directories, and a working directory, each under the names that lead
to it from the root. -/
structure FileTree (α : Type) where
  files : List (List String × α)
  /-- The files that may not be read. -/
  unreadable : List (List String) := []
  directories : List (List String)
  workingDirectory : List String

namespace FileTree

/-- What lies under the given names. A directory is one that is listed, or that leads to something
else. -/
def lookup (tree : FileTree α) (names : List String) : Located α :=
  match tree.files.find? (·.1 == names) with
  | some (_, contents) => .file contents
  | none =>
      let listed := tree.workingDirectory ::
        (tree.directories ++ tree.unreadable ++ tree.files.map Prod.fst)
      if tree.unreadable.contains names then .unreadable
      else if listed.any names.isPrefixOf then .directory
      else .missing

/-- The place that a name leads to. -/
def step (place : List String) (name : String) : List String :=
  if name = "" ∨ name = "." then place
  else if name = ".." then place.dropLast
  else place ++ [name]

/-- Follows the names of a path from a place. -/
def follow (tree : FileTree α) (place : List String) : List String → Located α
  | [] => tree.lookup place
  | name :: rest =>
      match tree.lookup place with
      | .directory => follow tree (step place name) rest
      | _ => .missing

/-- How many bytes a path has at most. -/
def pathLimit : Nat := 4095

/-- What lies at a path. Nothing lies at the empty one, nor at one that is too long. -/
def locate (tree : FileTree α) (path : String) : Located α :=
  if path = "" ∨ pathLimit < path.utf8ByteSize then .missing
  else if path.startsWith "/" then tree.follow [] (path.splitOn "/")
  else tree.follow tree.workingDirectory (path.splitOn "/")

/-- The path that leads from the root through the given names. -/
def pathOf (names : List String) : String :=
  "/" ++ "/".intercalate names

/-- What lies under the given names. Nothing does if their path is too long. -/
def locateNames (tree : FileTree α) (names : List String) : Located α :=
  if pathLimit < (pathOf names).utf8ByteSize then .missing else tree.lookup names

/-- A path as seen from the root. -/
def fromRoot (tree : FileTree α) (path : String) : String :=
  if path.startsWith "/" then path else pathOf tree.workingDirectory ++ "/" ++ path

/-- The path of a name in the directory at a path. -/
def join (path name : String) : String :=
  if path.endsWith "/" then path ++ name else path ++ "/" ++ name

/-- Whether something of a new name can be made in the directory at a path, where the empty path
means the working directory. The path of what is made starts at the root. -/
def accepts (tree : FileTree α) (path name : String) : Bool :=
  let whole := tree.fromRoot path
  match tree.locate whole with
  | .directory => (join whole name).utf8ByteSize ≤ pathLimit
  | _ => false

/-- The working directory and the ones above it, nearest first. -/
def upwards (tree : FileTree α) : List (List String) :=
  let height := tree.workingDirectory.length
  (List.range (height + 1)).map fun steps => tree.workingDirectory.take (height - steps)

/-- The places that a path leads through, the last one first. -/
def trail (place : List String) (path : String) : List (List String) :=
  let start := if path.startsWith "/" then [] else place
  (path.splitOn "/").foldl (fun places name => step (places.headD []) name :: places) [start]

/-- Enters what was found at a path, and the directories on the way. -/
def enter (tree : FileTree α) (path : String) (located : Located α) : FileTree α :=
  let places := trail tree.workingDirectory path
  match located with
  | .missing => tree
  | .directory => { tree with directories := places ++ tree.directories }
  | .unreadable =>
      { tree with
        unreadable := places.headD [] :: tree.unreadable
        directories := places.drop 1 ++ tree.directories }
  | .file contents =>
      { tree with
        files := (places.headD [], contents) :: tree.files
        directories := places.drop 1 ++ tree.directories }

end FileTree

end ParseTrace
