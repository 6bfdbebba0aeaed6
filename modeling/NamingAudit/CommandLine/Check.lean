import NamingAudit.CommandLine.Failure
import NamingAudit.CommandLine.Invocation
import NamingAudit.CommandLine.Rendering
import NamingAudit.Selection

/-! Checking a facts document under the settings of a project. -/

namespace NamingAudit.CommandLine.Check

def presetOf (options : CheckOptions) (settings : Settings) : Except Failure Preset :=
  let name :=
    (options.preset.orElse fun _ => settings.preset).getD Preset.recommended.name
  match Preset.parse? name with
  | some preset => .ok preset
  | none => .error (.unknownPreset name)

def registryOf (options : CheckOptions) (settings : Settings) : Except Failure Registry := do
  let preset ← presetOf options settings
  let registry ← (Registry.build preset settings).mapError .ofRegistry
  match options.rules with
  | some filter => (registry.select filter).mapError .ofRegistry
  | none => return registry

def evaluatorOf (options : CheckOptions) (settings : Settings) : Except Failure Evaluator := do
  let request := (EvaluatorRequest.ofRegistry (← registryOf options settings)).withEngine
    settings.engine
  { request with exclude := request.exclude ++ options.exclude }.build.mapError .ofEvaluation

def resultOf (options : CheckOptions) (evaluator : Evaluator) (batch : Fact.Batch) : CheckResult :=
  let report := evaluator.evaluateProject batch.facts
  ⟨report, batch.rejected, if options.showFixes then some (.ofReport report) else none⟩

def projectSettings : List String := ["convention-lint.toml", ".convention-lint.toml"]

def below (directory name : String) : String :=
  if directory.isEmpty || Text.endsWith ['/'] directory.toList then directory ++ name
  else directory ++ "/" ++ name

section
variable {m : Type → Type} [Monad m]

def userDirectory (host : Host m) : m (Option String) := do
  match ← host.lookUp "CONVENTION_LINT_CONFIG_DIR" with
  | some directory => return some directory
  | none =>
    return ((← host.lookUp "HOME").filter fun home => !home.isEmpty).map fun home =>
      below home ".convention-lint"

/-- The path of the settings: the one given, else those of the project, else those of the user. -/
def settingsPath (host : Host m) (config : Option String) (project : String) :
    m (Option String) := do
  match config with
  | some path => return some path
  | none =>
    let user := (← userDirectory host).toList.map fun directory => below directory "config.toml"
    (projectSettings.map (below project) ++ user).findM? host.isFile

def readSettings (host : Host m) : Option String → ExceptT Failure m Settings
  | none => return .standard
  | some path => do
    match ← host.readFile path with
    | .error fault => throw (.unreadableSettings path fault)
    | .ok text =>
      match Settings.parse? text with
      | some settings => return settings
      | none => throw (.malformedSettings path)

def readDocument (host : Host m) (path : String) : ExceptT Failure m (String × String) := do
  if path == CheckOptions.standardInput then
    match ← host.readInput with
    | .error fault => throw (.unreadableInput fault)
    | .ok text => return (text, " on stdin")
  else
    match ← host.readFile path with
    | .error fault => throw (.unreadableFacts path fault)
    | .ok text => return (text, ": " ++ path)

def readFacts (host : Host m) (path : String) : ExceptT Failure m Fact.Batch := do
  let (text, place) ← readDocument host path
  match Fact.load text with
  | .ok batch => return batch
  | .error problem => throw (.malformedFacts place problem)

def run (host : Host m) (config : Option String) (options : CheckOptions) :
    ExceptT Failure m (List String × Bool) := do
  let path ← ExceptT.lift (settingsPath host config options.project)
  let settings ← readSettings host path
  let evaluator ← evaluatorOf options settings
  let batch ← readFacts host options.facts
  let result := resultOf options evaluator batch
  return (result.lines options.format, result.report.hasAt settings.threshold)

end

end NamingAudit.CommandLine.Check
