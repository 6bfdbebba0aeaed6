import NamingAudit.Report
import NamingAudit.SortedMap

/-! Fix plans: of the fixes that would rewrite the same identifier exactly one is kept, that of the
rule registered first. The others are listed as superseded. -/

namespace NamingAudit

structure FixKey where
  location : Location
  target : FixTarget
deriving DecidableEq, Repr

namespace FixKey

instance : Ord FixKey where
  compare := compareLex (compareOn location) (compareOn target)

instance : Std.TransOrd FixKey :=
  inferInstanceAs (Std.TransCmp (compareLex (compareOn location) (compareOn target)))

end FixKey

structure PlannedFix where
  accepted : Diagnostic
  superseded : List Diagnostic
deriving DecidableEq, Repr

namespace PlannedFix

def location (fix : PlannedFix) : Location :=
  (fix.accepted.replacement?.map Replacement.location).getD fix.accepted.location

def target (fix : PlannedFix) : FixTarget :=
  (fix.accepted.replacement?.map Replacement.target).getD .name

def newText (fix : PlannedFix) : String := fix.accepted.fixText?.getD ""

end PlannedFix

structure FixPlan where
  fixes : List PlannedFix
deriving DecidableEq, Repr

namespace FixPlan

def precedence : Diagnostic → Diagnostic → Ordering :=
  compareLex (compareOn Diagnostic.priority)
    (compareLex (compareOn Diagnostic.ruleId) (compareOn Diagnostic.message))

def keyed? (diagnostic : Diagnostic) : Option (FixKey × List Diagnostic) :=
  diagnostic.replacement?.map fun replacement =>
    (⟨replacement.location, replacement.target⟩, [diagnostic])

def groups (diagnostics : List Diagnostic) : SortedMap FixKey (List Diagnostic) :=
  .collect (fun old new => old ++ new) (diagnostics.filterMap keyed?)

def choose? (candidates : List Diagnostic) : Option PlannedFix :=
  match Order.sort precedence candidates with
  | [] => none
  | accepted :: superseded => some ⟨accepted, superseded⟩

def ofReport (report : Report) : FixPlan :=
  ⟨(groups report.diagnostics).entries.filterMap fun entry => choose? entry.2⟩

def supersededCount (plan : FixPlan) : Nat :=
  (plan.fixes.flatMap PlannedFix.superseded).length

end FixPlan

end NamingAudit
