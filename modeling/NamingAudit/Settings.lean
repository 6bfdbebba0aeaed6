import NamingAudit.Severity
import NamingAudit.SortedMap
import NamingAudit.Toml.DateTable
import NamingAudit.Toml.Document

/-! Settings of a project, as its TOML file gives them. Keys that mean nothing are ignored, values of
the wrong type are not. Where a table is wanted, a date or time will do for one. -/

namespace NamingAudit

structure EngineSettings where
  /-- Worker threads; none or zero leaves the choice to the system. -/
  parallelism : Option Nat
  batchSize : Nat
  exclude : List String
deriving DecidableEq, Repr

structure RuleSettings where
  enabled : Option Bool
  severity : Option Severity
  options : SortedMap String Toml.Value

structure Settings where
  preset : Option String
  failOn : Option Severity
  engine : EngineSettings
  rules : SortedMap String RuleSettings

namespace EngineSettings

def standardBatchSize : Nat := 256

def standard : EngineSettings := ⟨none, standardBatchSize, ["vendor/**"]⟩

end EngineSettings

namespace RuleSettings

def textOption (settings : RuleSettings) (key standard : String) : String :=
  ((settings.options.get? key).bind Toml.Value.text?).getD standard

def textsOption (settings : RuleSettings) (key : String) : List String :=
  (((settings.options.get? key).bind Toml.Value.items?).getD []).filterMap Toml.Value.text?

end RuleSettings

namespace Settings
open Toml

def standard : Settings := ⟨none, none, .standard, .empty⟩

def threshold (settings : Settings) : Severity := settings.failOn.getD .error

def asText : Value → Option String := Value.text?

def asBool : Value → Option Bool
  | .bool value => some value
  | _ => none

def asSize : Value → Option Nat
  | .integer value => if 0 ≤ value then some value.toNat else none
  | _ => none

def asTexts (value : Value) : Option (List String) := value.items?.bind fun items => items.mapM asText

/-- A severity by its exact name, as a text or as the only key of a table with no content. -/
def asSeverity : Value → Option Severity
  | .text name => Severity.ofName? name
  | .table _ [(name, content)] =>
    if content.isEmptyContainer then Severity.ofName? name else none
  | _ => none

def optional (convert : Value → Option α) : Option Value → Option (Option α)
  | none => some none
  | some value => (convert value).map some

def engineOf (parallelism batchSize exclude : Option Value) : Option EngineSettings := do
  let parallelism ← optional asSize parallelism
  let batchSize ← optional asSize batchSize
  let exclude ← optional asTexts exclude
  return ⟨parallelism, batchSize.getD EngineSettings.standardBatchSize, exclude.getD []⟩

/-- A table, or a list with the values in the order of the fields. -/
def asEngine (value : Value) : Option EngineSettings :=
  match value.items?, value.entriesOrDate? with
  | some items, _ => engineOf items[0]? items[1]? items[2]?
  | none, some entries =>
    engineOf (entries.lookup "parallelism") (entries.lookup "batch_size") (entries.lookup "exclude")
  | none, none => none

/-- What is not one of the two fields is an option, whose value may be of any type. -/
def asRule (value : Value) : Option RuleSettings := do
  let entries ← value.entriesOrDate?
  let enabled ← optional asBool (entries.lookup "enabled")
  let severity ← optional asSeverity (entries.lookup "severity")
  let others := entries.filter fun entry => entry.1 != "enabled" && entry.1 != "severity"
  let options ← Value.readDatesInEntries others
  return ⟨enabled, severity, .collect (fun _ new => new) options⟩

def asRules (value : Value) : Option (SortedMap String RuleSettings) := do
  let entries ← value.entriesOrDate?
  let rules ← entries.mapM fun entry => (asRule entry.2).map fun rule => (entry.1, rule)
  return .collect (fun _ new => new) rules

def ofEntries (entries : Entries) : Option Settings := do
  let preset ← optional asText (entries.lookup "preset")
  let failOn ← optional asSeverity (entries.lookup "fail_on")
  let engine ← optional asEngine (entries.lookup "engine")
  let rules ← optional asRules (entries.lookup "rules")
  return ⟨preset, failOn, engine.getD .standard, rules.getD .empty⟩

def parse? (text : String) : Option Settings := (Toml.read? text).bind ofEntries

end Settings

end NamingAudit
