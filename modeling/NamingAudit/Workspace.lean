import NamingAudit.CommandLine.Host
import NamingAudit.SortedMap
import NamingAudit.Text.Pieces

/-! A system held in memory: the files and directories below a working directory, an environment and
a text to be read as input. Of what lies outside only the directories that lead there are known. -/

namespace NamingAudit

inductive WorkspaceEntry where
  | directory
  | file (text : String)
deriving DecidableEq, Repr

structure Workspace where
  entries : SortedMap (List String) WorkspaceEntry
  environment : List (String × String)
  input : String

namespace Workspace
open CommandLine (FileFault Host)

inductive Place where
  | inside (names : List String)
  | outside
  | nowhere
deriving DecidableEq, Repr

namespace Place

def parent : Place → Place
  | inside [] => outside
  | inside names => inside names.dropLast
  | outside => outside
  | nowhere => nowhere

def child (name : String) : Place → Place
  | inside names => inside (names ++ [name])
  | _ => nowhere

end Place

/-- Files by their paths; a path without a text is a directory. -/
def ofFiles (files : List (String × Option String)) (environment : List (String × String))
    (input : String) : Workspace :=
  let put (entries : SortedMap (List String) WorkspaceEntry) (file : String × Option String) :=
    let names := (Text.splitOn '/' file.1.toList).map String.ofList
    let entries := ((List.range names.length).drop 1).foldl
      (fun entries depth => entries.insert (names.take depth) .directory) entries
    entries.insert names ((file.2.map WorkspaceEntry.file).getD .directory)
  ⟨files.foldl put .empty, environment, input⟩

def entry? (workspace : Workspace) : Place → Option WorkspaceEntry
  | .inside [] => some .directory
  | .inside names => workspace.entries.get? names
  | .outside => some .directory
  | .nowhere => none

def nameLimit : Nat := 255

/-- The length that a path has to stay below, in bytes. -/
def pathLimit : Nat := 4096

def step (workspace : Workspace) (place : Place) (name : String) : Except FileFault Place :=
  match workspace.entry? place with
  | none => .error .notFound
  | some (.file _) => .error .notADirectory
  | some .directory =>
    if name.isEmpty || name == "." then .ok place
    else if name == ".." then .ok place.parent
    else if nameLimit < name.utf8ByteSize then .error .nameTooLong
    else .ok (place.child name)

/-- Where a path leads. Nothing needs to be there, but all on the way does. -/
def locate (workspace : Workspace) (path : String) : Except FileFault Place :=
  if pathLimit ≤ path.utf8ByteSize then .error .nameTooLong
  else
    let start := if path.startsWith "/" then Place.outside else .inside []
    ((Text.splitOn '/' path.toList).map String.ofList).foldlM workspace.step start

def entryAt? (workspace : Workspace) (path : String) : Option WorkspaceEntry :=
  match workspace.locate path with
  | .ok place => workspace.entry? place
  | .error _ => none

def readFile (workspace : Workspace) (path : String) : Except FileFault String := do
  match workspace.entry? (← workspace.locate path) with
  | some (.file text) => .ok text
  | some .directory => .error .isADirectory
  | none => .error .notFound

def writeFile (workspace : Workspace) (path text : String) : Except FileFault Workspace := do
  let place ← workspace.locate path
  match workspace.entry? place, place with
  | some .directory, _ => .error .isADirectory
  | _, .inside names => .ok { workspace with entries := workspace.entries.insert names (.file text) }
  | _, _ => .error .permissionDenied

def files (workspace : Workspace) : List (String × String) :=
  workspace.entries.entries.filterMap fun (names, entry) =>
    match entry with
    | .file text => some ("/".intercalate names, text)
    | .directory => none

def host : Host (StateM Workspace) where
  readFile path := return (← get).readFile path
  writeFile path text := do
    match (← get).writeFile path text with
    | .ok changed => set changed; return .ok ()
    | .error fault => return .error fault
  isFile path := return match (← get).entryAt? path with
    | some (.file _) => true
    | _ => false
  isPresent path := return ((← get).entryAt? path).isSome
  lookUp name := return (← get).environment.lookup name
  readInput := return .ok (← get).input

end Workspace

end NamingAudit
