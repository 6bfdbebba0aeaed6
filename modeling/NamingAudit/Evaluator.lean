import NamingAudit.Composite
import NamingAudit.Glob
import NamingAudit.Parts
import NamingAudit.Registry
import NamingAudit.Report

/-! Evaluation: facts are taken in batches, each is checked by the rules for its kind, and the
findings make one sorted report. A rule that fails on a fact leaves an internal diagnostic and
touches nothing else. Facts in excluded files are not checked. -/

namespace NamingAudit

inductive EvaluationError where
  | cancelled
  | glob (error : Glob.PatternError)
deriving DecidableEq, Repr

def EvaluationError.message : EvaluationError → String
  | cancelled => "evaluation cancelled"
  | glob error => "Invalid glob pattern: " ++ error.message

structure Evaluator where
  registry : Registry
  /-- Threads of a pool of its own; none stands for the shared pool. -/
  workers : Option Nat
  batchSize : Nat
  exclude : List Glob.Pattern

structure EvaluatorRequest where
  registry : Registry
  workers : Option Nat
  batchSize : Option Nat
  exclude : List String

namespace EvaluatorRequest

def ofRegistry (registry : Registry) : EvaluatorRequest := ⟨registry, none, none, []⟩

def withEngine (request : EvaluatorRequest) (engine : EngineSettings) : EvaluatorRequest :=
  { request with
    workers := engine.parallelism.orElse fun _ => request.workers
    batchSize := some engine.batchSize
    exclude := request.exclude ++ engine.exclude }

/-- Patterns are compiled in their order; a batch size of zero counts as none. -/
def build (request : EvaluatorRequest) : Except EvaluationError Evaluator := do
  let exclude ← (request.exclude.mapM Glob.Pattern.compile).mapError .glob
  return {
    registry := request.registry
    workers := request.workers.filter (0 < ·)
    batchSize := (request.batchSize.filter (0 < ·)).getD EngineSettings.standardBatchSize
    exclude := exclude }

end EvaluatorRequest

namespace Evaluator

def internalCode : String := "CL999"

def violationAt (entry : RegisteredRule) (location : Location) (finding : Finding) : Diagnostic :=
  { ruleId := entry.rule.id
    code := entry.rule.code
    severity := entry.severity
    location := location
    message := finding.message
    suggestion := finding.fix.map fun fix =>
      ⟨"replace with `" ++ fix ++ "`", some ⟨location, finding.target, fix⟩⟩
    priority := entry.priority }

def placeOf (fact : Fact) : Scope → Location
  | .fact => fact.location
  | .file => fact.location.toFile

def failure (entry : RegisteredRule) (fact : Fact) (error : RuleError) : Diagnostic :=
  { ruleId := entry.rule.id
    code := internalCode
    severity := .internal
    location := fact.location
    message := "rule evaluation error: " ++ error.message
    suggestion := none
    priority := entry.priority }

def panicError : Option String → RuleError
  | some text => .malformed ("rule panicked: " ++ text)
  | none => .malformed "rule panicked"

def evaluateRule (entry : RegisteredRule) (fact : Fact) : Option Diagnostic :=
  match entry.rule.check fact with
  | .verdict .pass => none
  | .verdict (.violation finding) => some (violationAt entry (placeOf fact finding.scope) finding)
  | .failed error => some (failure entry fact error)
  | .panicked text => some (failure entry fact (panicError text))

def isExcluded (evaluator : Evaluator) (fact : Fact) : Bool :=
  evaluator.exclude.any fun pattern => pattern.admits fact.location.file.text

def findings (evaluator : Evaluator) (fact : Fact) : List Diagnostic :=
  (evaluator.registry.rulesFor fact.kind).filterMap fun entry => evaluateRule entry fact

def evaluateFact (evaluator : Evaluator) (report : Report) (fact : Fact) : Report :=
  if evaluator.isExcluded fact then report
  else report.extend ⟨evaluator.findings fact, 1⟩

def evaluateBatch (evaluator : Evaluator) (batch : List Fact) : Report :=
  batch.foldl evaluator.evaluateFact .empty

/-- Runs all batches. `raised` tells what each batch reads from the cancellation flag when it
starts; no partial report is given. -/
def run (evaluator : Evaluator) (raised : Nat → Bool) (facts : List Fact) :
    Except EvaluationError Report := do
  let reports ← (parts evaluator.batchSize facts).zipIdx.mapM fun (batch, number) =>
    if raised number then .error .cancelled else .ok (evaluator.evaluateBatch batch)
  return (reports.foldl Report.extend .empty).finalize

def evaluate (evaluator : Evaluator) (facts : List Fact) : Report :=
  match evaluator.run (fun _ => false) facts with
  | .ok report => report
  | .error _ => .empty

def evaluateProject (evaluator : Evaluator) (facts : List Fact) : Report :=
  evaluator.evaluate (facts ++ Composite.join facts)

end Evaluator

end NamingAudit
