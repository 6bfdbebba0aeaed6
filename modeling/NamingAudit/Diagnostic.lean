import NamingAudit.Json.Shape
import NamingAudit.Location
import NamingAudit.Rule

/-! Diagnostics: what a rule found wrong, where, how grave it is and what would mend it. They are
ordered by place and rule first and by everything else after that, so that only equal ones tie. -/

namespace NamingAudit

structure Replacement where
  location : Location
  target : FixTarget
  newText : String
deriving DecidableEq, Repr

structure Suggestion where
  message : String
  replacement : Option Replacement
deriving DecidableEq, Repr

structure Diagnostic where
  ruleId : String
  code : String
  severity : Severity
  location : Location
  message : String
  suggestion : Option Suggestion
  /-- Position of the rule in its registry. -/
  priority : Nat
deriving DecidableEq, Repr

def sameOption (same : α → α → Bool) : Option α → Option α → Bool
  | none, none => true
  | some first, some second => same first second
  | _, _ => false

namespace Replacement

instance : Ord Replacement where
  compare := compareLex (compareOn location) (compareLex (compareOn target) (compareOn newText))

def same (first second : Replacement) : Bool :=
  first.location.same second.location && first.target == second.target
    && first.newText == second.newText

end Replacement

namespace Suggestion

instance : Ord Suggestion where
  compare := compareLex (compareOn message) (compareOn replacement)

def same (first second : Suggestion) : Bool :=
  first.message == second.message
    && sameOption Replacement.same first.replacement second.replacement

end Suggestion

namespace Diagnostic

instance : Ord Diagnostic where
  compare :=
    compareLex (compareOn fun d => d.location.file)
      (compareLex (compareOn fun d => d.location.line)
        (compareLex (compareOn fun d => d.location.column)
          (compareLex (compareOn ruleId)
            (compareLex (compareOn message)
              (compareLex (compareOn code)
                (compareLex (compareOn severity)
                  (compareLex (compareOn priority) (compareOn suggestion))))))))

/-- Equal but for the spelling of paths. -/
def same (first second : Diagnostic) : Bool :=
  first.ruleId == second.ruleId && first.code == second.code
    && first.severity == second.severity && first.location.same second.location
    && first.message == second.message
    && sameOption Suggestion.same first.suggestion second.suggestion
    && first.priority == second.priority

def replacement? (diagnostic : Diagnostic) : Option Replacement :=
  diagnostic.suggestion.bind Suggestion.replacement

def fixText? (diagnostic : Diagnostic) : Option String :=
  diagnostic.replacement?.map Replacement.newText

def display (diagnostic : Diagnostic) : String :=
  diagnostic.location.display ++ ": " ++ diagnostic.severity.name ++ " [" ++ diagnostic.code
    ++ "] " ++ diagnostic.message

end Diagnostic

end NamingAudit
