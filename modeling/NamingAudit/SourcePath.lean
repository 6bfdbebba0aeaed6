import NamingAudit.Text.Pieces

/-! Paths of source files, relative to the project root or absolute. Two spellings denote the same
path when their components agree, and paths are ordered by components, never by text: repeated and
trailing slashes count for nothing, and neither does a dot except at the start of a relative path. -/

namespace NamingAudit

structure SourcePath where
  text : String
deriving DecidableEq, Repr, Inhabited

namespace SourcePath

inductive Component where
  | root
  | here
  | parent
  | named (name : String)
deriving DecidableEq, Repr

namespace Component

def rank : Component → Nat
  | root => 0
  | here => 1
  | parent => 2
  | named _ => 3

def label : Component → String
  | named name => name
  | _ => ""

instance : Ord Component where
  compare := compareLex (compareOn rank) (compareOn label)

instance : Std.TransOrd Component :=
  inferInstanceAs (Std.TransCmp (compareLex (compareOn rank) (compareOn label)))

end Component

def inner? (piece : List Char) : Option Component :=
  if piece == [] || piece == ['.'] then none
  else if piece == ['.', '.'] then some .parent
  else some (.named (String.ofList piece))

def leading (pieces : List (List Char)) : List Component :=
  match pieces with
  | [] :: _ :: _ => [.root]
  | ['.'] :: _ => [.here]
  | _ => []

def components (path : SourcePath) : List Component :=
  let pieces := Text.splitOn '/' path.text.toList
  leading pieces ++ pieces.filterMap inner?

instance : Ord SourcePath where
  compare := compareOn components

instance : Std.TransOrd SourcePath := inferInstanceAs (Std.TransCmp (compareOn components))

def same (first second : SourcePath) : Bool := first.components == second.components

end SourcePath

end NamingAudit
