import ParseTrace.FileTree
import ParseTrace.Store.Basic

/-!
# Where stores are kept

The data of a store lies in a directory of its own, which is made in a given directory or, if none
is given, in the place for temporary files. That place is always there.
-/

namespace ParseTrace.Store

/-- A name for the directory of a store. Its last six letters differ from store to store. -/
def directoryName : String := "parsedebug-abcdef"

/-- A new store in a directory. Nothing can be made where there is no directory. -/
def createIn (files : FileTree α) (directory : Option String) (label : String) (header : Header) :
    Except TraceError Store :=
  match directory with
  | none => .ok (create label header)
  | some path =>
      if files.accepts path directoryName then .ok (create label header)
      else .error (.storage .directoryNotCreated)

end ParseTrace.Store
