import NamingAudit.Toml.Value

/-! Putting keys and headers into tables. A table can be defined once; what a header or a dotted key
may walk through depends on the origin of the tables on its way. -/

namespace NamingAudit.Toml

abbrev Entries := List (String × Value)

def setEntry (key : String) (value : Value) : Entries → Entries
  | [] => [(key, value)]
  | (other, old) :: rest =>
    if other == key then (key, value) :: rest else (other, old) :: setEntry key value rest

abbrev Edit := TableOrigin → Entries → Option (TableOrigin × Entries)

def editValue (edit : Edit) : Value → Option Value
  | .table origin entries => (edit origin entries).map fun (origin, entries) => .table origin entries
  | .tables (.table origin entries) earlier =>
    (edit origin entries).map fun (origin, entries) => .tables (.table origin entries) earlier
  | _ => none

/-- A dotted key passes only tables without a definition of their own; a header passes all but
inline ones. -/
def mayPass (byDottedKey : Bool) : Value → Bool
  | .table origin _ => if byDottedKey then origin == .path || origin == .dotted else origin != .inline
  | .tables _ _ => true
  | _ => false

/-- Carries an edit out at the end of a path, making the tables that are missing on the way. -/
def editAt (byDottedKey : Bool) (edit : Edit) : List String → Edit
  | [], origin, entries => edit origin entries
  | key :: path, origin, entries => do
    let child := (entries.lookup key).getD (.table (if byDottedKey then .dotted else .path) [])
    if mayPass byDottedKey child then
      let child ← editValue (editAt byDottedKey edit path) child
      some (origin, setEntry key child entries)
    else none

/-- Adds a key that is not taken. At the end of a dotted key's front part only a table made by
dotted keys will do. -/
def addEntry (isDotted : Bool) (key : String) (value : Value) : Edit := fun origin entries =>
  if (origin == .dotted) != isDotted || (entries.lookup key).isSome then none
  else some (origin, entries ++ [(key, value)])

def assign (path : List String) (key : String) (value : Value) : Edit :=
  editAt true (addEntry (!path.isEmpty) key value) path

/-- Defines a table by its header. One that was only passed through so far moves to the end. -/
def defineTable (key : String) : Edit := fun origin entries =>
  match entries.lookup key with
  | none => some (origin, entries ++ [(key, .table .header [])])
  | some (.table .path inner) =>
    some (origin, entries.filter (·.1 != key) ++ [(key, .table .header inner)])
  | some _ => none

def appendTable (key : String) : Edit := fun origin entries =>
  match entries.lookup key with
  | none => some (origin, entries ++ [(key, .tables (.table .header []) [])])
  | some (.tables latest earlier) =>
    some (origin, setEntry key (.tables (.table .header []) (latest :: earlier)) entries)
  | some _ => none

end NamingAudit.Toml
