import NamingAudit.Preset

/-! The table of built-in rules and presets. -/

namespace NamingAudit.CommandLine.Listing

def padRight (width : Nat) (text : String) : String :=
  text ++ String.ofList (List.replicate (width - text.length) ' ')

def row (code name appliesTo severity description : String) : String :=
  padRight 8 code ++ " " ++ padRight 28 name ++ " " ++ padRight 16 appliesTo ++ " "
    ++ padRight 9 severity ++ " " ++ description

def ruleRow (rule : Rule) : String :=
  row rule.code rule.id rule.appliesTo.tag rule.defaultSeverity.name rule.description

def presetSummary : Preset → String
  | .recommended => "all rules, default severities (default)"
  | .strict => "all rules, warnings promoted to errors"
  | .minimal => "controller, model, table, pivot table and foreign key names"

def presetRow (preset : Preset) : String :=
  "  " ++ padRight 12 preset.name ++ " - " ++ presetSummary preset

def lines : List String :=
  ["Available rules:", "", row "Code" "Name" "Applies to" "Severity" "Description",
    String.ofList (List.replicate 100 '-')]
    ++ (Catalogue.rules .standard).map ruleRow
    ++ ["", "Presets:"]
    ++ Preset.all.map presetRow
    ++ ["", "Use --rules to run specific rules, e.g.:",
      "  convention-lint check facts.json --rules controller-name,table-name",
      "  convention-lint check facts.json --rules CL001,CL030"]

end NamingAudit.CommandLine.Listing
