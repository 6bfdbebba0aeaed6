import NamingAudit.SourcePath

/-! Places in source files. Line 0 stands for the whole file, column 0 for an unknown column. -/

namespace NamingAudit

structure Location where
  file : SourcePath
  line : Nat
  column : Nat
deriving DecidableEq, Repr, Inhabited

namespace Location

def wholeFile (file : SourcePath) : Location := ⟨file, 0, 0⟩

def toFile (location : Location) : Location := wholeFile location.file

instance : Ord Location where
  compare := compareLex (compareOn file) (compareLex (compareOn line) (compareOn column))

instance : Std.TransOrd Location :=
  inferInstanceAs (Std.TransCmp (compareLex (compareOn file)
    (compareLex (compareOn line) (compareOn column))))

def same (first second : Location) : Bool :=
  first.file.same second.file && first.line == second.line && first.column == second.column

def display (location : Location) : String :=
  location.file.text ++ ":" ++ location.line.repr ++ ":" ++ location.column.repr

end Location

end NamingAudit
