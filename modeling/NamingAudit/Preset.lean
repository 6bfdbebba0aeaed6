import NamingAudit.Catalogue

/-! Presets: named choices of built-in rules. -/

namespace NamingAudit

inductive Preset where
  | recommended
  | strict
  | minimal
deriving DecidableEq, Repr, Inhabited

namespace Preset

def all : List Preset := [recommended, strict, minimal]

def name : Preset → String
  | recommended => "recommended"
  | strict => "strict"
  | minimal => "minimal"

def parse? (text : String) : Option Preset :=
  let word := Text.asciiLowerText (Text.trim text)
  all.find? fun preset => preset.name == word

def minimalIds : List String :=
  ["controller-name", "model-name", "table-name", "pivot-table-name", "foreign-key-name"]

def includes (preset : Preset) (ruleId : String) : Bool :=
  match preset with
  | recommended => true
  | strict => true
  | minimal => minimalIds.contains ruleId

def rules (preset : Preset) : List Rule :=
  (Catalogue.rules .standard).filter fun rule => preset.includes rule.id

end Preset

end NamingAudit
