import NamingAudit.CommandLine.Arguments
import NamingAudit.DiagnosticForm
import NamingAudit.Fact.Batch
import NamingAudit.FixPlan
import NamingAudit.Json.Printer

/-! What a check prints: the report for a reader, as one JSON document or with one line for each
diagnostic. Rejected facts and the plan of fixes are not part of the last. -/

namespace NamingAudit.CommandLine

structure CheckResult where
  report : Report
  rejected : List Fact.Rejected
  plan : Option FixPlan

inductive Color where
  | red
  | green
  | yellow
  | blue
  | magenta
deriving DecidableEq, Repr

def Color.code : Color → String
  | red => "31"
  | green => "32"
  | yellow => "33"
  | blue => "34"
  | magenta => "35"

def painted (color : Color) (text : String) : String :=
  "\x1b[" ++ color.code ++ "m" ++ text ++ "\x1b[0m"

def severityColor : Severity → Color
  | .internal => .magenta
  | .error => .red
  | .warning => .yellow
  | .info => .blue

namespace CheckResult

def diagnosticLines (diagnostic : Diagnostic) : List String :=
  let help :=
    match diagnostic.suggestion with
    | some suggestion => ["  = help: " ++ suggestion.message]
    | none => []
  [diagnostic.code ++ " " ++ diagnostic.ruleId ++ " at " ++ diagnostic.location.display,
    "  " ++ painted (severityColor diagnostic.severity) diagnostic.severity.name ++ ": "
      ++ diagnostic.message]
    ++ help ++ [""]

def rejectedLine (rejected : Fact.Rejected) : String :=
  "  " ++ painted .yellow "skipped" ++ " " ++ rejected.display

def fixLine (fix : PlannedFix) : String :=
  "  " ++ fix.location.display ++ " " ++ fix.target.tag ++ ": `" ++ fix.newText ++ "` ("
    ++ fix.accepted.ruleId ++ ")"

def planLines (plan : FixPlan) : List String :=
  ["Fix plan (" ++ plan.fixes.length.repr ++ " fixes, " ++ plan.supersededCount.repr
      ++ " superseded):"]
    ++ plan.fixes.map fixLine ++ [""]

def summaryColor (counts : SeverityCounts) : Color :=
  if 0 < counts.internal || 0 < counts.errors then .red
  else if 0 < counts.warnings then .yellow
  else .green

def summaryLine (report : Report) : String :=
  let counts := report.counts
  painted (summaryColor counts)
    ("Found " ++ counts.errors.repr ++ " error(s), " ++ counts.warnings.repr ++ " warning(s), "
      ++ counts.infos.repr ++ " info(s), " ++ counts.internal.repr ++ " internal in "
      ++ report.factsChecked.repr ++ " fact(s)")

def textLines (result : CheckResult) : List String :=
  result.report.diagnostics.flatMap diagnosticLines
    ++ result.rejected.map rejectedLine
    ++ ((result.plan.map planLines).getD [])
    ++ [summaryLine result.report]

open Json

def number (value : Nat) : Value := .number (.natural value)

def rejectedJson (rejected : Fact.Rejected) : Value :=
  let location := (rejected.location.map fun place => Value.text place.display).getD .null
  .object
    [("index", number rejected.index), ("location", location),
      ("error", .text rejected.error.message)]

def fixJson (fix : PlannedFix) : Value :=
  .object
    [("location", .text fix.location.display), ("target", .text fix.target.tag),
      ("rule_id", .text fix.accepted.ruleId), ("new_text", .text fix.newText),
      ("superseded", .array (fix.superseded.map fun diagnostic => .text diagnostic.ruleId))]

def summaryJson (report : Report) : Value :=
  let counts := report.counts
  .object
    [("facts_checked", number report.factsChecked), ("errors", number counts.errors),
      ("warnings", number counts.warnings), ("infos", number counts.infos),
      ("internal", number counts.internal)]

def toJson (result : CheckResult) : Value :=
  let fixes :=
    match result.plan with
    | some plan => [("fixes", Value.array (plan.fixes.map fixJson))]
    | none => []
  .object
    ([("diagnostics", .array (result.report.diagnostics.map Diagnostic.toJson)),
      ("rejected", .array (result.rejected.map rejectedJson))]
      ++ fixes ++ [("summary", summaryJson result.report)])

def compactLines (result : CheckResult) : List String :=
  result.report.diagnostics.map Diagnostic.display

def lines (format : OutputFormat) (result : CheckResult) : List String :=
  match format with
  | .text => result.textLines
  | .json => [result.toJson.render]
  | .compact => result.compactLines

end CheckResult

end NamingAudit.CommandLine
