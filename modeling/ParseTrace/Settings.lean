import ParseTrace.FileTree
import ParseTrace.Text.Utf8
import ParseTrace.Toml.Document

/-!
# Settings

Settings are read from a file of three tables. A key that the file leaves out has its default, and
a file with any fault counts for nothing: the settings are then all defaults. A table may also be
written as an array of its values in order.

Which file is read is settled beforehand. A file that is named explicitly is the only one
considered; otherwise it is the nearest one on the way from the working directory up.
-/

namespace ParseTrace

/-- What can be set. -/
structure Settings where
  /-- Time between two samples of a load in progress. -/
  pollIntervalMillis : Nat
  /-- Records stored at a time. -/
  batchSize : Nat
  /-- Connections to a store. -/
  poolSize : Nat
  /-- How long a connection waits for a store in use. -/
  busyTimeoutMillis : Nat
  /-- Where stores are kept, the system's place for temporary files if not set. -/
  tempDirectory : Option String
  /-- Queries answered at a time. -/
  workers : Nat
  deriving DecidableEq, Repr

namespace Settings

open Toml (Entries Value)

/-- The settings where nothing is set. -/
def defaults : Settings where
  pollIntervalMillis := 1000
  batchSize := 1000
  poolSize := 5
  busyTimeoutMillis := 5000
  tempDirectory := none
  workers := 4

/-- Where the settings file lies, relative to a directory. -/
def location : List String := [".parsedebug", "config.toml"]

/-- The fields of a table: by name, or in the order of the given names where it is written as an
array. A date has none of the fields. -/
def fields? (names : List String) : Value → Option (String → Option Value)
  | .table _ entries => some (Entries.get? entries)
  | .inline entries => some (Entries.get? entries)
  | .array items => some fun name => items[names.idxOf name]?
  | .tables elements => some fun name =>
      (elements.map fun entries => Value.table .header entries)[names.idxOf name]?
  | .date => some fun _ => none
  | _ => none

/-- A count below a limit. -/
def count? (limit : Nat) : Value → Option Nat
  | .integer (.ofNat value) => if value < limit then some value else none
  | _ => none

/-- A text. -/
def text? : Value → Option String
  | .text text => some text
  | _ => none

/-- One past the largest number of 32 bits. -/
def limit32 : Nat := 4294967296

/-- One past the largest number of 64 bits. -/
def limit64 : Nat := 18446744073709551616

/-- The value of a field, or its default where it is left out. -/
def fieldOr (default : α) (read : Value → Option α) : Option Value → Option α
  | none => some default
  | some value => read value

/-- Reads the table about loading. -/
def readLoad (settings : Settings) (value : Value) : Option Settings := do
  let field ← fields? ["poll_interval_ms", "batch_size"] value
  let pollIntervalMillis ←
    fieldOr settings.pollIntervalMillis (count? limit64) (field "poll_interval_ms")
  let batchSize ← fieldOr settings.batchSize (count? limit64) (field "batch_size")
  return { settings with pollIntervalMillis, batchSize }

/-- Reads the table about stores. -/
def readStorage (settings : Settings) (value : Value) : Option Settings := do
  let field ← fields? ["pool_size", "busy_timeout_ms", "temp_dir"] value
  let poolSize ← fieldOr settings.poolSize (count? limit32) (field "pool_size")
  let busyTimeoutMillis ←
    fieldOr settings.busyTimeoutMillis (count? limit64) (field "busy_timeout_ms")
  let tempDirectory ←
    fieldOr settings.tempDirectory (fun value => some <$> text? value) (field "temp_dir")
  return { settings with poolSize, busyTimeoutMillis, tempDirectory }

/-- Reads the table about queries. -/
def readTasks (settings : Settings) (value : Value) : Option Settings := do
  let field ← fields? ["workers"] value
  let workers ← fieldOr settings.workers (count? limit64) (field "workers")
  return { settings with workers }

/-- Reads a table if it is there. -/
def readTable (read : Settings → Value → Option Settings) (settings : Settings) :
    Option Value → Option Settings
  | none => some settings
  | some value => read settings value

/-- The settings that a text spells, none if it has any fault. -/
def ofText? (text : String) : Option Settings := do
  let document ← Toml.parse? text
  let settings ← readTable readLoad defaults (Entries.get? document "load")
  let settings ← readTable readStorage settings (Entries.get? document "storage")
  readTable readTasks settings (Entries.get? document "tasks")

/-- What is found at a place where a settings file may lie. -/
inductive Reading where
  | absent
  /-- Something is there that cannot be read as a text. -/
  | unreadable
  | contents (text : String)
  deriving DecidableEq, Repr

/-- What a place holds as a settings file. -/
def Reading.ofLocated : Located Bytes → Reading
  | .missing => .absent
  | .directory => .unreadable
  | .unreadable => .unreadable
  | .file bytes =>
      match Utf8.decode? bytes with
      | some text => .contents text
      | none => .unreadable

/-- The settings of one file, or the defaults. -/
def ofReading : Reading → Settings
  | .contents text => (ofText? text).getD defaults
  | .unreadable => defaults
  | .absent => defaults

/-- The file that is read: the named one, otherwise the first that is there. -/
def choose (named : Option Reading) (onTheWay : List Reading) : Reading :=
  match named with
  | some reading => reading
  | none => (onTheWay.find? (· ≠ .absent)).getD .absent

/-- The settings, given what an explicitly named file holds and what is found in the working
directory and the ones above it, nearest first. -/
def load (named : Option Reading) (onTheWay : List Reading) : Settings :=
  ofReading (choose named onTheWay)

/-- The settings that hold in a file tree, where a settings file may be named explicitly. -/
def find (files : FileTree Bytes) (named : Option String) : Settings :=
  load (named.map fun path => .ofLocated (files.locate path))
    (files.upwards.map fun place => .ofLocated (files.locateNames (place ++ location)))

end Settings

end ParseTrace
