import NamingAudit.CommandLine.Check
import NamingAudit.CommandLine.Listing
import NamingAudit.CommandLine.StarterSettings

/-! The command line: checking a facts document, listing the rules and writing a first settings file.
A run that finds nothing grave ends with status 0, one that does or fails with 1, and arguments that
make no sense with 2. -/

namespace NamingAudit.CommandLine

structure Completion where
  status : Nat
  output : String
  errors : String
deriving DecidableEq, Repr

namespace Completion

def joinLines (lines : List String) : String := String.join (lines.map fun line => line ++ "\n")

def success (lines : List String) : Completion := ⟨0, joinLines lines, ""⟩

def failure (failure : Failure) : Completion := ⟨1, "", failure.render ++ "\n"⟩

def misuse (fault : Misuse) : Completion :=
  ⟨2, "", "error: " ++ fault.message ++ "\n\nFor more information, try '--help'.\n"⟩

end Completion

def version : String := "convention-lint 0.1.0"

def helpLines : List String :=
  [ "Naming and structure convention linter driven by extracted source facts",
    "",
    "Usage: convention-lint [OPTIONS] <COMMAND>",
    "",
    "Commands:",
    "  check [FACTS]  Check a facts document against the convention rules",
    "  list-rules     List available rules",
    "  init           Initialize configuration file",
    "",
    "Options:",
    "  -v, --verbose          Enable verbose output",
    "  -c, --config <CONFIG>  Path to configuration file",
    "  -h, --help             Print help",
    "  -V, --version          Print version",
    "",
    "Options of check:",
    "      --project <PROJECT>  Project directory used to find the configuration file",
    "  -f, --format <FORMAT>    Output format: text, json or compact",
    "      --preset <PRESET>    Rule preset (overrides the configuration file)",
    "      --rules <RULES>      Only run specific rules (comma-separated ids or codes)",
    "  -e, --exclude <EXCLUDE>  Exclude patterns (can be specified multiple times)",
    "      --show-fixes         Show the resolved fix plan",
    "",
    "Options of init:",
    "      --force  Overwrite existing config" ]

def Stop.completion : Stop → Completion
  | misuse fault => .misuse fault
  | help => .success helpLines
  | version => .success [CommandLine.version]

section
variable {m : Type → Type} [Monad m]

/-- Writes the first settings of a project; those that are there stay, unless `force` is set. -/
def writeStarter (host : Host m) (force : Bool) : ExceptT Failure m (List String) := do
  let path := StarterSettings.fileName
  if (← host.isPresent path) && !force then throw (.settingsPresent path)
  match ← host.writeFile path StarterSettings.text with
  | .error fault => throw ⟨fault.message, []⟩
  | .ok _ => return StarterSettings.report

def perform (host : Host m) (invocation : Invocation) : ExceptT Failure m Completion := do
  match invocation.task with
  | .check options =>
    let (lines, fails) ← Check.run host invocation.config options
    return ⟨if fails then 1 else 0, Completion.joinLines lines, ""⟩
  | .listRules => return .success Listing.lines
  | .init force => return .success (← writeStarter host force)

def run (host : Host m) (arguments : List String) : m Completion := do
  match Invocation.parse (← host.lookUp "CONVENTION_LINT_CONFIG") arguments with
  | .error stop => return stop.completion
  | .ok invocation =>
    match ← (perform host invocation).run with
    | .ok completion => return completion
    | .error failure => return .failure failure

end

end NamingAudit.CommandLine
