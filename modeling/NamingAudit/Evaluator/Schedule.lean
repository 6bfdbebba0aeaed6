import NamingAudit.Evaluator

/-! A run on several threads, step by step. Every batch reads the cancellation flag once, when it is
taken up. Which batch is taken up or finished next is left open, and so is when the flag is raised. -/

namespace NamingAudit.Evaluator

inductive Stage where
  | waiting
  | running
  | finished (report : Report)
  | cancelled
  /-- Never taken up, since another batch was cancelled. -/
  | skipped

namespace Stage

def isOpen : Stage → Bool
  | waiting => true
  | running => true
  | _ => false

def isCancelled : Stage → Bool
  | cancelled => true
  | _ => false

def report? : Stage → Option Report
  | finished report => some report
  | _ => none

end Stage

structure Progress where
  flag : Option Bool
  batches : List (List Fact × Stage)

namespace Progress

def isRaised (progress : Progress) : Bool := progress.flag.getD false

def move (progress : Progress) (number : Nat) (stage : Stage) : Progress :=
  { progress with batches := progress.batches.modify number fun batch => (batch.1, stage) }

def At (progress : Progress) (number : Nat) (batch : List Fact) (stage : Stage) : Prop :=
  progress.batches[number]? = some (batch, stage)

/-- What a run hands over once no batch is open: all reports in the order of the batches, or none. -/
def outcome? (progress : Progress) : Option (Except EvaluationError Report) :=
  if progress.batches.any fun batch => batch.2.isOpen then none
  else if progress.batches.any fun batch => batch.2.isCancelled then some (.error .cancelled)
  else
    some (.ok ((progress.batches.filterMap fun batch => batch.2.report?).foldl
      Report.extend .empty).finalize)

end Progress

inductive Event where
  | raise
  | take (number : Nat) (raised : Bool)
  | finish (number : Nat)
  | skip (number : Nat)
deriving DecidableEq

inductive Step (evaluator : Evaluator) : Progress → Event → Progress → Prop where
  | raise {progress : Progress} {raised : Bool} (shared : progress.flag = some raised) :
      Step evaluator progress .raise { progress with flag := some true }
  | take {progress : Progress} {number : Nat} {batch : List Fact}
      (waiting : progress.At number batch .waiting) (calm : progress.isRaised = false) :
      Step evaluator progress (.take number false) (progress.move number .running)
  | cancel {progress : Progress} {number : Nat} {batch : List Fact}
      (waiting : progress.At number batch .waiting) (raised : progress.isRaised = true) :
      Step evaluator progress (.take number true) (progress.move number .cancelled)
  | finish {progress : Progress} {number : Nat} {batch : List Fact}
      (running : progress.At number batch .running) :
      Step evaluator progress (.finish number)
        (progress.move number (.finished (evaluator.evaluateBatch batch)))
  | skip {progress : Progress} {number other : Nat} {batch otherBatch : List Fact}
      (waiting : progress.At number batch .waiting)
      (cancelled : progress.At other otherBatch .cancelled) :
      Step evaluator progress (.skip number) (progress.move number .skipped)

inductive Execution (evaluator : Evaluator) (start : Progress) :
    List Event → Progress → Prop where
  | idle : Execution evaluator start [] start
  | next {events : List Event} {event : Event} {before after : Progress}
      (sofar : Execution evaluator start events before)
      (step : Step evaluator before event after) :
      Execution evaluator start (events ++ [event]) after

def begin (evaluator : Evaluator) (flag : Option Bool) (facts : List Fact) : Progress :=
  ⟨flag, (parts evaluator.batchSize facts).map fun batch => (batch, .waiting)⟩

end NamingAudit.Evaluator
