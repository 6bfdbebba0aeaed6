import NamingAudit.CommandLine.Arguments

/-! Invocations: what a command line asks for. A flag that both levels know counts on either; where
both give a path of the settings, the one behind the command wins. -/

namespace NamingAudit.CommandLine

structure CheckOptions where
  /-- Path of the facts document, or a hyphen for the standard input. -/
  facts : String
  project : String
  format : OutputFormat
  preset : Option String
  rules : Option String
  exclude : List String
  showFixes : Bool
deriving DecidableEq, Repr

inductive Task where
  | check (options : CheckOptions)
  | listRules
  | init (force : Bool)
deriving DecidableEq, Repr

structure Invocation where
  config : Option String
  task : Task
deriving DecidableEq, Repr

namespace CheckOptions

def standardInput : String := "-"

def ofGiven (given : Given) : CheckOptions where
  facts := given.operands.head?.getD standardInput
  project := (given.value? .project).getD "."
  format := ((given.value? .format).bind OutputFormat.ofName?).getD .text
  preset := given.value? .preset
  rules := given.value? .rules
  exclude := given.values .exclude
  showFixes := given.has .showFixes

end CheckOptions

namespace Invocation

/-- The environment counts where no flag gives a path. An empty path there is refused, unless
either level has the flag. -/
def configPath (fromEnvironment : Option String) (before behind : Given) :
    Except Stop (Option String) :=
  if fromEnvironment == some "" && !(before.has .config && behind.has .config) then
    .error (.misuse (.invalidValue .config ""))
  else
    .ok ((behind.value? .config).orElse fun _ =>
      (before.value? .config).orElse fun _ => fromEnvironment)

def readHelp (topics : List String) : Stop :=
  match topics with
  | [] => .help
  | [topic] => if (CommandName.ofText? topic).isSome then .help else .misuse (.unexpectedOperand topic)
  | _ :: extra :: _ => .misuse (.unexpectedOperand extra)

def taskOf (command : CommandName) (given : Given) : Except Stop Task :=
  match command with
  | .check => .ok (.check (.ofGiven given))
  | .listRules => .ok .listRules
  | .init => .ok (.init (given.has .force))
  | .help => .error .help

def parse (fromEnvironment : Option String) (arguments : List String) :
    Except Stop Invocation := do
  match ← readLevel none .empty none arguments with
  | (_, none) => .error (.misuse .missingCommand)
  | (_, some ⟨.help, topics⟩) => .error (readHelp topics)
  | (before, some ⟨command, rest⟩) =>
    let (behind, _) ← readLevel (some command) .empty none rest
    let config ← configPath fromEnvironment before behind
    return ⟨config, ← taskOf command behind⟩

end Invocation

end NamingAudit.CommandLine
