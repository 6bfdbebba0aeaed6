import NamingAudit.Text.Blank
import NamingAudit.Text.Letter

/-! How grave a finding is, from a remark up to a rule that could not be evaluated. -/

namespace NamingAudit

inductive Severity where
  | info
  | warning
  | error
  | internal
deriving DecidableEq, Repr, Inhabited

namespace Severity

def all : List Severity := [info, warning, error, internal]

def rank : Severity → Nat
  | info => 0
  | warning => 1
  | error => 2
  | internal => 3

instance : Ord Severity where
  compare := compareOn rank

def atLeast (severity threshold : Severity) : Bool := threshold.rank ≤ severity.rank

def name : Severity → String
  | info => "info"
  | warning => "warning"
  | error => "error"
  | internal => "internal"

def ofName? (name : String) : Option Severity := all.find? fun severity => severity.name == name

/-- Reads a name in any case with white space around it; `warn` is short for `warning`. -/
def parse? (text : String) : Option Severity :=
  let word := Text.asciiLowerText (Text.trim text)
  if word == "warn" then some warning else ofName? word

end Severity

end NamingAudit
