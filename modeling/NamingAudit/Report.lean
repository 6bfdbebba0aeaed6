import NamingAudit.Diagnostic
import NamingAudit.Order

/-! Reports: the diagnostics of one run and the number of facts that it looked at. -/

namespace NamingAudit

structure Report where
  diagnostics : List Diagnostic
  factsChecked : Nat
deriving DecidableEq, Repr

structure SeverityCounts where
  internal : Nat
  errors : Nat
  warnings : Nat
  infos : Nat
deriving DecidableEq, Repr

namespace Report

def empty : Report := ⟨[], 0⟩

def add (report : Report) (diagnostic : Diagnostic) : Report :=
  { report with diagnostics := report.diagnostics ++ [diagnostic] }

def sorted (report : Report) : List Diagnostic := Order.sort compare report.diagnostics

def finalize (report : Report) : Report :=
  { report with diagnostics := Order.dropRepeats Diagnostic.same report.sorted }

def extend (report other : Report) : Report :=
  ⟨report.diagnostics ++ other.diagnostics, report.factsChecked + other.factsChecked⟩

def hasAt (report : Report) (threshold : Severity) : Bool :=
  report.diagnostics.any fun diagnostic => diagnostic.severity.atLeast threshold

def hasErrors (report : Report) : Bool := report.hasAt .error

def byRule (report : Report) (ruleId : String) : List Diagnostic :=
  report.diagnostics.filter fun diagnostic => diagnostic.ruleId == ruleId

def count (report : Report) (severity : Severity) : Nat :=
  (report.diagnostics.filter fun diagnostic => diagnostic.severity == severity).length

def counts (report : Report) : SeverityCounts :=
  ⟨report.count .internal, report.count .error, report.count .warning, report.count .info⟩

end Report

end NamingAudit
