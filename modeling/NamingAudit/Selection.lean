import NamingAudit.Registry

/-! Running some rules only: a list of ids and codes, separated by commas, enables the rules that it
names and disables all others. -/

namespace NamingAudit.Registry

/-- The names in a list. White space around a name and empty names count for nothing. -/
def selectionNames (filter : String) : List String :=
  ((Text.splitOn ',' filter.toList).map fun piece => Text.trim (String.ofList piece)).filter
    fun name => !name.isEmpty

/-- A rule goes by its id, and by its code in any case. -/
def isCalled (entry : RegisteredRule) (name : String) : Bool :=
  entry.rule.id == name || Text.asciiLowerText entry.rule.code == Text.asciiLowerText name

def resolve (registry : Registry) (name : String) : Except RegistryError String :=
  match registry.entries.find? fun entry => isCalled entry name with
  | some entry => .ok entry.rule.id
  | none => .error (.unknownRule name)

def enableOnly (ids : List String) (registry : Registry) : Except RegistryError Registry :=
  registry.ids.foldlM
    (fun (changed : Registry) id => if ids.contains id then changed.enable id else changed.disable id)
    registry

/-- Every name is resolved before any rule changes. -/
def select (filter : String) (registry : Registry) : Except RegistryError Registry := do
  let ids ← (selectionNames filter).mapM registry.resolve
  registry.enableOnly ids

def outcome : Registry × Except RegistryError Unit → Except RegistryError Registry
  | (changed, .ok _) => .ok changed
  | (_, .error error) => .error error

/-- Rule by rule in the given order. The rules before one that fails stay switched. -/
def switchEach (chosen : List String) (registry : Registry) :
    List String → Registry × Except RegistryError Unit
  | [] => (registry, .ok ())
  | id :: rest =>
    match registry.perform (if chosen.contains id then .enable id else .disable id) with
    | (changed, .ok _) => switchEach chosen changed rest
    | (changed, .error error) => (changed, .error error)

def selectInPlace (filter : String) (registry : Registry) : Registry × Except RegistryError Unit :=
  match (selectionNames filter).mapM registry.resolve with
  | .ok ids => registry.switchEach ids registry.ids
  | .error error => (registry, .error error)

end NamingAudit.Registry
