import NamingAudit.Preset
import NamingAudit.Registry.Coherent
import NamingAudit.Settings

/-! Registries: the rules of a run with their state, findable by id and by the kind of fact. The
order of registration is kept and serves as priority. -/

namespace NamingAudit

inductive RegistryError where
  | duplicateRuleId (id : String)
  | unknownRule (id : String)
deriving DecidableEq, Repr

namespace RegistryError

def message : RegistryError → String
  | duplicateRuleId id => "duplicate rule id `" ++ id ++ "`"
  | unknownRule id => "unknown rule `" ++ id ++ "`"

def code : RegistryError → String
  | duplicateRuleId _ => "convention_lint::duplicate_rule_id"
  | unknownRule _ => "convention_lint::unknown_rule"

def help : RegistryError → String
  | duplicateRuleId _ => "rule ids must be unique across all registered rules"
  | unknownRule _ => "run `convention-lint list-rules` to see the available rule ids"

end RegistryError

structure Registry where
  entries : List RegisteredRule
  positions : SortedMap String Nat
  byKind : SortedMap FactKind (List Nat)
  coherent : Registry.Coherent entries positions byKind

namespace Registry

def empty : Registry := ⟨[], .empty, .empty, coherent_empty⟩

def rules (registry : Registry) : List Rule := registry.entries.map RegisteredRule.rule

def ids (registry : Registry) : List String := registry.entries.map fun entry => entry.rule.id

def kinds (registry : Registry) : List FactKind :=
  registry.entries.map fun entry => entry.rule.appliesTo

def register (rule : Rule) (registry : Registry) : Except RegistryError Registry :=
  if taken : registry.positions.contains rule.id then .error (.duplicateRuleId rule.id)
  else
    let priority := registry.entries.length
    .ok
      { entries := registry.entries ++ [freshRule priority rule]
        positions := registry.positions.insert rule.id priority
        byKind := registry.byKind.insertWith (fun old new => old ++ new) rule.appliesTo [priority]
        coherent := registry.coherent.append rule taken }

def ofRules (rules : List Rule) : Except RegistryError Registry :=
  rules.foldlM (fun registry rule => registry.register rule) empty

def get? (registry : Registry) (id : String) : Option RegisteredRule :=
  (registry.positions.get? id).bind fun position => registry.entries[position]?

def update (id : String) (change : StateChange) (registry : Registry) :
    Except RegistryError Registry :=
  match registry.positions.get? id with
  | some position =>
    .ok
      { registry with
        entries := registry.entries.modify position change
        coherent := registry.coherent.modify change position }
  | none => .error (.unknownRule id)

def enabling (enabled : Bool) : StateChange where
  apply entry := { entry with enabled := enabled }
  rule_apply _ := rfl
  priority_apply _ := rfl

def grading (severity : Severity) : StateChange where
  apply entry := { entry with severity := severity }
  rule_apply _ := rfl
  priority_apply _ := rfl

def enable (id : String) : Registry → Except RegistryError Registry := update id (enabling true)

def disable (id : String) : Registry → Except RegistryError Registry := update id (enabling false)

def setSeverity (id : String) (severity : Severity) : Registry → Except RegistryError Registry :=
  update id (grading severity)

def overlay (settings : RuleSettings) : StateChange where
  apply entry :=
    { entry with
      enabled := settings.enabled.getD entry.enabled
      severity := settings.severity.getD entry.severity }
  rule_apply _ := rfl
  priority_apply _ := rfl

def applyEntries (registry : Registry) :
    List (String × RuleSettings) → Registry × Except RegistryError Unit
  | [] => (registry, .ok ())
  | (id, settings) :: rest =>
    match registry.update id (overlay settings) with
    | .ok registry => applyEntries registry rest
    | .error error => (registry, .error error)

/-- Applies settings in the order of the rule ids. What came before an unknown rule stays. -/
def applySettings (settings : Settings) (registry : Registry) :
    Registry × Except RegistryError Unit :=
  registry.applyEntries settings.rules.entries

/-- The enabled rules for a kind of fact, in the order of registration. -/
def rulesFor (registry : Registry) (kind : FactKind) : List RegisteredRule :=
  (((registry.byKind.get? kind).getD []).filterMap fun position => registry.entries[position]?).filter
    RegisteredRule.enabled

def size (registry : Registry) : Nat := registry.entries.length

def enabledCount (registry : Registry) : Nat :=
  (registry.entries.filter RegisteredRule.enabled).length

inductive Operation where
  | register (rule : Rule)
  | enable (id : String)
  | disable (id : String)
  | setSeverity (id : String) (severity : Severity)
  | applySettings (settings : Settings)

/-- The new registry, or the old one and an error. -/
def keeping (registry : Registry) (result : Except RegistryError Registry) :
    Registry × Except RegistryError Unit :=
  match result with
  | .ok changed => (changed, .ok ())
  | .error error => (registry, .error error)

def perform (registry : Registry) : Operation → Registry × Except RegistryError Unit
  | .register rule => registry.keeping (registry.register rule)
  | .enable id => registry.keeping (registry.enable id)
  | .disable id => registry.keeping (registry.disable id)
  | .setSeverity id severity => registry.keeping (registry.setSeverity id severity)
  | .applySettings settings => registry.applySettings settings

/-- A rule outside the preset is disabled; a strict preset raises warnings. -/
def presetRule (preset : Preset) (registry : Registry) (id : String) :
    Except RegistryError Registry := do
  let registry ← if preset.includes id then .ok registry else registry.disable id
  let isWarning := (registry.get? id).any fun entry => entry.severity == .warning
  if preset == .strict && isWarning then registry.setSeverity id .error else .ok registry

end Registry

/-- The options of rules that settings give. A list of extensions without any text counts as none. -/
def RuleOptions.ofSettings (settings : Settings) : RuleOptions :=
  let suffix :=
    match settings.rules.get? Catalogue.controllerNameId with
    | some rule => rule.textOption "suffix" standard.controllerSuffix
    | none => standard.controllerSuffix
  let extensions :=
    match settings.rules.get? Catalogue.viewFileId with
    | some rule => rule.textsOption "extensions"
    | none => []
  ⟨suffix, if extensions.isEmpty then standard.viewExtensions else extensions⟩

namespace Registry

/-- The registry of a run: all built-in rules, then the preset, then the settings. -/
def build (preset : Preset) (settings : Settings) : Except RegistryError Registry := do
  let registry ← ofRules (Catalogue.rules (.ofSettings settings))
  let registry ← registry.ids.foldlM (presetRule preset) registry
  match registry.applySettings settings with
  | (registry, .ok _) => return registry
  | (_, .error error) => .error error

end Registry

end NamingAudit
