import NamingAudit.Evaluator.Schedule
import NamingAudit.Proofs.Evaluation
import Mathlib.Algebra.BigOperators.Group.List.Basic
import Mathlib.Algebra.GroupWithZero.Nat

/-! Cancellation. Batches are taken up in any order, their work interleaves in any way, and the flag may
be raised at any moment in between. However it goes, a run ends in one of two ways: some batch read a
raised flag when it was taken up, and there is no report; or none did, and the report is the one of an
evaluation that cannot be cancelled. -/

namespace NamingAudit.Evaluator

def Stage.remaining : Stage → Nat
  | waiting => 2
  | running => 1
  | _ => 0

def Progress.remaining (progress : Progress) : Nat :=
  (progress.batches.map fun batch => batch.2.remaining).sum

def Event.isWork : Event → Bool
  | raise => false
  | _ => true

namespace Progress

theorem getElem?_move (progress : Progress) (number index : Nat) (stage : Stage) :
    (progress.move number stage).batches[index]? =
      progress.batches[index]?.map fun batch =>
        if number = index then (batch.1, stage) else batch := by
  rw [move, List.getElem?_modify]
  split <;> simp [*]

theorem map_fst_move (progress : Progress) (number : Nat) (stage : Stage) :
    (progress.move number stage).batches.map Prod.fst = progress.batches.map Prod.fst := by
  apply List.ext_getElem?
  intro index
  rw [List.getElem?_map, getElem?_move, List.getElem?_map]
  cases progress.batches[index]? with
  | none => rfl
  | some batch => by_cases same : number = index <;> simp [same]

theorem At.unique {progress : Progress} {number : Nat} {batch other : List Fact}
    {stage otherStage : Stage} (one : progress.At number batch stage)
    (two : progress.At number other otherStage) : batch = other ∧ stage = otherStage := by
  rw [At, two] at one
  cases one
  exact ⟨rfl, rfl⟩

section Move
variable {progress : Progress} {number : Nat} {batch : List Fact} {old : Stage}
  (found : progress.At number batch old)
include found

theorem remaining_move {stage : Stage} (nearer : stage.remaining < old.remaining) :
    (progress.move number stage).remaining < progress.remaining := by
  have total (batches : List (List Fact × Stage)) (number : Nat)
      (found : batches[number]? = some (batch, old)) :
      ((batches.modify number fun batch => (batch.1, stage)).map fun batch =>
        batch.2.remaining).sum < (batches.map fun batch => batch.2.remaining).sum := by
    induction batches generalizing number with
    | nil => contradiction
    | cons head rest ih =>
      cases number with
      | zero =>
        cases found
        simpa using nearer
      | succ number =>
        have later := ih number found
        simpa using later
  exact total progress.batches number found

theorem at_move_self {other : List Fact} {stage stage' : Stage} :
    (progress.move number stage).At number other stage' ↔ other = batch ∧ stage' = stage := by
  rw [At] at found ⊢
  rw [getElem?_move, found, Option.map_some, if_pos rfl, Option.some.injEq, Prod.mk.injEq]
  exact and_congr eq_comm eq_comm

end Move

theorem at_move_of_ne {progress : Progress} {number index : Nat} (different : index ≠ number)
    {batch : List Fact} {stage stage' : Stage} :
    (progress.move number stage).At index batch stage' ↔ progress.At index batch stage' := by
  rw [At, At, getElem?_move]
  simp [different.symm]

end Progress

structure Accounts (evaluator : Evaluator) (flag : Option Bool) (facts : List Fact)
    (events : List Event) (progress : Progress) : Prop where
  batches : progress.batches.map Prod.fst = parts evaluator.batchSize facts
  finished : ∀ number batch report, progress.At number batch (.finished report) →
    report = evaluator.evaluateBatch batch
  cancelled : ∀ number, .take number true ∈ events ↔ ∃ batch, progress.At number batch .cancelled
  skipped : ∀ number batch, progress.At number batch .skipped → ∃ other, .take other true ∈ events
  flag : progress.flag = if .raise ∈ events then flag.map fun _ => true else flag
  read : ∀ number, .take number true ∈ events → progress.isRaised = true

namespace Accounts
variable {evaluator : Evaluator} {flag : Option Bool} {facts : List Fact} {events : List Event}
  {progress : Progress}

theorem begin : Accounts evaluator flag facts [] (evaluator.begin flag facts) := by
  have stage {number : Nat} {batch : List Fact} {stage : Stage}
      (found : (evaluator.begin flag facts).At number batch stage) : stage = .waiting := by
    rw [Progress.At, Evaluator.begin, List.getElem?_map] at found
    obtain ⟨_, _, same⟩ := Option.map_eq_some_iff.mp found
    exact (Prod.mk.inj same).2.symm
  constructor
  case batches =>
    rw [Evaluator.begin, List.map_map]
    exact List.map_id _
  case finished =>
    intro number batch report found
    cases stage found
  case cancelled =>
    refine fun number => iff_of_false List.not_mem_nil ?_
    rintro ⟨batch, found⟩
    cases stage found
  case skipped =>
    intro number batch found
    cases stage found
  case flag => rfl
  case read => exact fun _ taken => absurd taken List.not_mem_nil

theorem move (accounts : Accounts evaluator flag facts events progress) {number : Nat}
    {batch : List Fact} {old stage : Stage} {event : Event}
    (found : progress.At number batch old) (isOpen : old.isOpen = true)
    (finished : ∀ report, stage = .finished report → report = evaluator.evaluateBatch batch)
    (cancelled : ∀ index, .take index true = event ↔ index = number ∧ stage = .cancelled)
    (skipped : stage = .skipped → ∃ other, .take other true ∈ events)
    (unraised : event ≠ .raise) (read : ∀ index, .take index true = event → progress.isRaised = true) :
    Accounts evaluator flag facts (events ++ [event]) (progress.move number stage) := by
  have kept {index : Nat} (taken : .take index true ∈ events) :
      .take index true ∈ events ++ [event] := List.mem_append_left _ taken
  constructor
  case batches => rw [Progress.map_fst_move, accounts.batches]
  case finished =>
    intro index other report reached
    by_cases same : index = number
    · subst same
      obtain ⟨rfl, isFinished⟩ := (Progress.at_move_self found).mp reached
      exact finished report isFinished.symm
    · exact accounts.finished index other report ((Progress.at_move_of_ne same).mp reached)
  case cancelled =>
    intro index
    rw [List.mem_append, List.mem_singleton, cancelled, accounts.cancelled]
    by_cases same : index = number
    · subst same
      have before : ¬ ∃ other, progress.At index other .cancelled := by
        rintro ⟨other, reached⟩
        rw [(found.unique reached).2] at isOpen
        contradiction
      simp [before, Progress.at_move_self found, eq_comm]
    · simp [same, Progress.at_move_of_ne same]
  case skipped =>
    intro index other reached
    by_cases same : index = number
    · subst same
      obtain ⟨_, isSkipped⟩ := (Progress.at_move_self found).mp reached
      obtain ⟨cause, taken⟩ := skipped isSkipped.symm
      exact ⟨cause, kept taken⟩
    · obtain ⟨cause, taken⟩ :=
        accounts.skipped index other ((Progress.at_move_of_ne same).mp reached)
      exact ⟨cause, kept taken⟩
  case flag =>
    have same : .raise ∈ events ++ [event] ↔ .raise ∈ events := by simp [unraised.symm]
    simp only [same]
    exact accounts.flag
  case read =>
    intro index taken
    rcases List.mem_append.mp taken with before | last
    · exact accounts.read index before
    · exact read index (List.mem_singleton.mp last)

theorem step (accounts : Accounts evaluator flag facts events progress) {event : Event}
    {after : Progress} (step : Step evaluator progress event after) :
    Accounts evaluator flag facts (events ++ [event]) after := by
  cases step with
  | raise shared =>
    have same (number : Nat) :
        .take number true ∈ events ++ [.raise] ↔ .take number true ∈ events := by simp
    refine ⟨accounts.batches, accounts.finished, fun number => ?_, fun number batch reached => ?_,
      ?_, fun _ _ => rfl⟩
    · rw [same]
      exact accounts.cancelled number
    · obtain ⟨cause, taken⟩ := accounts.skipped number batch reached
      exact ⟨cause, (same cause).mpr taken⟩
    · have given := accounts.flag
      rw [shared] at given
      cases flag with
      | none => simp at given
      | some _ => simp
  | take waiting calm =>
    exact accounts.move waiting rfl (by simp) (by simp) (by simp) (by simp) (by simp)
  | cancel waiting raised =>
    exact accounts.move waiting rfl (by simp) (by simp) (by simp) (by simp) fun _ _ => raised
  | finish running =>
    exact accounts.move running rfl (by simp) (by simp) (by simp) (by simp) (by simp)
  | skip waiting cancelled =>
    exact accounts.move waiting rfl (by simp) (by simp)
      (fun _ => ⟨_, (accounts.cancelled _).mpr ⟨_, cancelled⟩⟩) (by simp) (by simp)

end Accounts

theorem Execution.accounts {evaluator : Evaluator} {flag : Option Bool} {facts : List Fact}
    {events : List Event} {progress : Progress}
    (execution : Execution evaluator (evaluator.begin flag facts) events progress) :
    Accounts evaluator flag facts events progress := by
  induction execution with
  | idle => exact .begin
  | next _ step ih => exact ih.step step

namespace Progress

theorem exists_open_iff {progress : Progress} :
    progress.outcome? = none ↔ ∃ number batch stage, progress.At number batch stage ∧
      stage.isOpen = true := by
  have listed : (∃ number batch stage, progress.At number batch stage ∧ stage.isOpen = true) ↔
      (progress.batches.any fun batch => batch.2.isOpen) = true := by
    rw [List.any_eq_true]
    constructor
    · rintro ⟨number, batch, stage, found, isOpen⟩
      exact ⟨_, List.mem_of_getElem? found, isOpen⟩
    · rintro ⟨⟨batch, stage⟩, member, isOpen⟩
      obtain ⟨number, found⟩ := List.mem_iff_getElem?.mp member
      exact ⟨number, batch, stage, found, isOpen⟩
  rw [listed, outcome?]
  split
  case isTrue isOpen => simp [isOpen]
  case isFalse closed => split <;> simp [closed]

end Progress

section Steps
variable {evaluator : Evaluator} {progress : Progress}

theorem exists_work_iff :
    (∃ event after, event.isWork = true ∧ Step evaluator progress event after) ↔
      progress.outcome? = none := by
  rw [Progress.exists_open_iff]
  constructor
  · rintro ⟨event, after, worked, step⟩
    cases step with
    | raise => contradiction
    | take waiting => exact ⟨_, _, _, waiting, rfl⟩
    | cancel waiting => exact ⟨_, _, _, waiting, rfl⟩
    | finish running => exact ⟨_, _, _, running, rfl⟩
    | skip waiting => exact ⟨_, _, _, waiting, rfl⟩
  · rintro ⟨number, batch, stage, found, isOpen⟩
    cases stage with
    | waiting =>
      cases read : progress.isRaised with
      | true => exact ⟨_, _, rfl, .cancel found read⟩
      | false => exact ⟨_, _, rfl, .take found read⟩
    | running => exact ⟨_, _, rfl, .finish found⟩
    | _ => contradiction

/-- Whatever happens to a batch brings the run closer to its end. -/
theorem Step.remaining_le {after : Progress} {event : Event}
    (step : Step evaluator progress event after) :
    after.remaining + event.isWork.toNat ≤ progress.remaining := by
  cases step with
  | raise => exact Nat.le_refl _
  | take waiting => exact Progress.remaining_move waiting (by decide)
  | cancel waiting => exact Progress.remaining_move waiting (by decide)
  | finish running => exact Progress.remaining_move running Nat.one_pos
  | skip waiting => exact Progress.remaining_move waiting (by decide)

theorem Execution.remaining_le {events : List Event} {start : Progress}
    (execution : Execution evaluator start events progress) :
    progress.remaining + events.countP Event.isWork ≤ start.remaining := by
  induction execution with
  | idle => exact Nat.le_refl _
  | @next events event before after _ step ih =>
    have closer := step.remaining_le
    have counted : (events ++ [event]).countP Event.isWork =
        events.countP Event.isWork + event.isWork.toNat := by
      rw [List.countP_append, List.countP_singleton]
      cases event.isWork <;> rfl
    omega

end Steps

theorem remaining_begin (evaluator : Evaluator) (flag : Option Bool) (facts : List Fact) :
    (evaluator.begin flag facts).remaining = 2 * (parts evaluator.batchSize facts).length := by
  simp [begin, Progress.remaining, Function.comp_def, Stage.remaining, Nat.mul_comm]

namespace Accounts
variable {evaluator : Evaluator} {flag : Option Bool} {facts : List Fact} {events : List Event}
  {progress : Progress}

theorem reports (accounts : Accounts evaluator flag facts events progress)
    (closed : ∀ number batch stage, progress.At number batch stage → stage.isOpen = false)
    (unread : ∀ number, .take number true ∉ events) :
    progress.batches.filterMap (fun batch => batch.2.report?) =
      (parts evaluator.batchSize facts).map evaluator.gathered := by
  rw [← accounts.batches, List.map_map, ← List.filterMap_eq_map]
  apply List.filterMap_congr
  rintro ⟨batch, stage⟩ member
  obtain ⟨number, found⟩ := List.mem_iff_getElem?.mp member
  cases stage with
  | finished report =>
    have made := accounts.finished number batch report found
    rw [evaluateBatch_eq_gathered] at made
    exact congrArg some made
  | cancelled => exact absurd ((accounts.cancelled number).mpr ⟨batch, found⟩) (unread number)
  | skipped =>
    obtain ⟨cause, taken⟩ := accounts.skipped number batch found
    exact absurd taken (unread cause)
  | _ => exact absurd (closed number batch _ found) (by simp [Stage.isOpen])

theorem outcome_cases (accounts : Accounts evaluator flag facts events progress)
    {outcome : Except EvaluationError Report} (ended : progress.outcome? = some outcome) :
    (outcome = .error .cancelled ∧ ∃ number, .take number true ∈ events) ∨
      (outcome = .ok (evaluator.evaluate facts) ∧ ∀ number, .take number true ∉ events) := by
  have closed (number : Nat) (batch : List Fact) (stage : Stage)
      (found : progress.At number batch stage) : stage.isOpen = false := by
    cases isOpen : stage.isOpen with
    | false => rfl
    | true =>
      rw [Progress.exists_open_iff.mpr ⟨number, batch, stage, found, isOpen⟩] at ended
      contradiction
  unfold Progress.outcome? at ended
  split at ended
  · contradiction
  split at ended
  case isTrue met =>
    obtain ⟨⟨batch, stage⟩, member, isCancelled⟩ := List.any_eq_true.mp met
    obtain ⟨number, found⟩ := List.mem_iff_getElem?.mp member
    cases stage with
    | cancelled =>
      exact .inl ⟨(Option.some.inj ended).symm, number,
        (accounts.cancelled number).mpr ⟨batch, found⟩⟩
    | _ => contradiction
  case isFalse missed =>
    have unread (number : Nat) : .take number true ∉ events := by
      intro taken
      obtain ⟨batch, found⟩ := (accounts.cancelled number).mp taken
      exact missed (List.any_eq_true.mpr ⟨_, List.mem_of_getElem? found, rfl⟩)
    rw [accounts.reports closed unread, foldl_extend_gathered, parts_flatten,
      ← evaluate_eq] at ended
    exact .inr ⟨(Option.some.inj ended).symm, unread⟩

end Accounts

theorem mapM_eq_error {α : Type u} {β ε : Type v} {step : α → Except ε β} {error : ε} {items : List α}
    (only : ∀ item ∈ items, ∀ other, step item = .error other → other = error)
    (fails : ∃ item ∈ items, step item = .error error) : items.mapM step = .error error := by
  induction items with
  | nil =>
    obtain ⟨_, absent, _⟩ := fails
    exact absurd absent List.not_mem_nil
  | cons head rest ih =>
    rw [List.mapM_cons]
    cases stepped : step head with
    | error other =>
      rw [only head (by simp) other stepped]
      rfl
    | ok result =>
      obtain ⟨item, member, failed⟩ := fails
      have later : item ∈ rest := (List.mem_cons.mp member).resolve_left fun same => by
        rw [same, stepped] at failed
        contradiction
      rw [ih (fun other present => only other (by simp [present])) ⟨item, later, failed⟩]
      rfl

theorem run_of_raised (evaluator : Evaluator) (facts : List Fact) {raised : Nat → Bool}
    {number : Nat} (inside : number < (parts evaluator.batchSize facts).length)
    (read : raised number = true) : evaluator.run raised facts = .error .cancelled := by
  unfold run
  rw [mapM_eq_error]
  · rfl
  · rintro ⟨batch, index⟩ _ other
    cases seen : raised index <;> simp [seen, eq_comm]
  · refine ⟨((parts evaluator.batchSize facts)[number], number), ?_, by simp [read]⟩
    exact List.mk_mem_zipIdx_iff_getElem?.mpr (List.getElem?_eq_getElem inside)

theorem run_of_reads {evaluator : Evaluator} {flag : Option Bool} {facts : List Fact}
    {events : List Event} {progress : Progress}
    (accounts : Accounts evaluator flag facts events progress)
    {outcome : Except EvaluationError Report} (ended : progress.outcome? = some outcome) :
    evaluator.run (fun number => decide (.take number true ∈ events)) facts = outcome := by
  rcases accounts.outcome_cases ended with ⟨rfl, number, taken⟩ | ⟨rfl, unread⟩
  · obtain ⟨batch, found⟩ := (accounts.cancelled number).mp taken
    have inside : number < (parts evaluator.batchSize facts).length := by
      rw [← accounts.batches, List.length_map]
      exact (List.getElem?_eq_some_iff.mp found).1
    exact evaluator.run_of_raised facts inside (decide_eq_true taken)
  · have calm : (fun number => decide (Event.take number true ∈ events)) = fun _ => false :=
      funext fun number => decide_eq_false (unread number)
    rw [calm, run_of_not_raised, ← evaluate_eq]

theorem Accounts.raised {evaluator : Evaluator} {flag : Option Bool} {facts : List Fact}
    {events : List Event} {progress : Progress}
    (accounts : Accounts evaluator flag facts events progress) {number : Nat}
    (taken : .take number true ∈ events) :
    flag = some true ∨ flag = some false ∧ .raise ∈ events := by
  have raised := accounts.read number taken
  rw [Progress.isRaised, accounts.flag] at raised
  cases flag with
  | none => simp at raised
  | some initial =>
    cases initial with
    | true => exact .inl rfl
    | false =>
      by_cases request : Event.raise ∈ events
      · exact .inr ⟨rfl, request⟩
      · simp [request] at raised

/-- However the batches of a run are scheduled and whenever its flag is raised: a run that has ended
either gives no report, and some batch read the flag after it was raised, or it gives the report of an
evaluation to the last diagnostic, and no batch did. It is the run that goes through the batches one by
one with the same readings. Every run ends, for as long as it has not, and no longer, something can
happen to a batch, and at most two things happen to each. Without facts there is an empty report at
once, and without a flag always the report of an evaluation, which never falls back on an empty one. -/
theorem report_whole_or_none (evaluator : Evaluator) (flag : Option Bool) (facts : List Fact) :
    (∀ events progress, Execution evaluator (evaluator.begin flag facts) events progress →
      (∀ outcome, progress.outcome? = some outcome →
        ((outcome = .error .cancelled ∧ (∃ number, .take number true ∈ events) ∧
            (flag = some true ∨ flag = some false ∧ .raise ∈ events)) ∨
          (outcome = .ok (evaluator.evaluate facts) ∧ ∀ number, .take number true ∉ events)) ∧
        evaluator.run (fun number => decide (.take number true ∈ events)) facts = outcome ∧
        (flag = none → outcome = .ok (evaluator.evaluate facts))) ∧
      (progress.outcome? = none ↔
        ∃ event after, event.isWork = true ∧ Step evaluator progress event after) ∧
      events.countP Event.isWork ≤ 2 * (parts evaluator.batchSize facts).length ∧
      (facts = [] → progress.outcome? = some (.ok .empty))) ∧
    evaluator.run (fun _ => false) facts = .ok (evaluator.evaluate facts) := by
  refine ⟨fun events progress execution => ?_, by rw [run_of_not_raised, ← evaluate_eq]⟩
  have accounts := execution.accounts
  refine ⟨fun outcome ended => ⟨?_, run_of_reads accounts ended, fun flagless => ?_⟩,
    exists_work_iff.symm, ?_, ?_⟩
  · rcases accounts.outcome_cases ended with ⟨none, number, taken⟩ | whole
    · exact .inl ⟨none, ⟨number, taken⟩, accounts.raised taken⟩
    · exact .inr whole
  · rcases accounts.outcome_cases ended with ⟨_, number, taken⟩ | ⟨whole, _⟩
    · rcases accounts.raised taken with raised | ⟨raised, _⟩
      all_goals
        rw [flagless] at raised
        contradiction
    · exact whole
  · have spent := execution.remaining_le
    rw [remaining_begin] at spent
    omega
  · rintro rfl
    have empty : progress.batches = [] := by
      have same := accounts.batches
      rw [parts] at same
      exact List.map_eq_nil_iff.mp same
    simp [Progress.outcome?, empty, Report.finalize, Report.sorted, Order.sort, Report.empty,
      Order.dropRepeats]

def singlyStarted : Progress :=
  ⟨some false, commandsAroundVendor.map fun fact => ([fact], .waiting)⟩

theorem begin_singly : singly.begin (some false) commandsAroundVendor = singlyStarted := by
  simp [begin, singly, parts, commandsAroundVendor, singlyStarted]

/-- Raised after the second batch was taken up, the flag stops the first one when that is next, and the
third is not taken up. Raised after all batches were taken up, it stops none of them. -/
theorem raised_amid_commandsAroundVendor :
    (∃ progress, Execution singly (singly.begin (some false) commandsAroundVendor)
      [.take 1 false, .raise, .take 0 true, .finish 1, .skip 2] progress ∧
      progress.outcome? = some (.error .cancelled)) ∧
    ∃ progress, Execution singly (singly.begin (some false) commandsAroundVendor)
      [.take 2 false, .take 0 false, .finish 2, .take 1 false, .raise, .finish 1, .finish 0]
      progress ∧
      progress.outcome? = some (.ok (singly.evaluate commandsAroundVendor)) := by
  constructor
  · rw [begin_singly]
    have taken : Execution singly singlyStarted [.take 1 false] _ := .next .idle (.take rfl rfl)
    have raised := taken.next (.raise rfl)
    have cancelled := raised.next (.cancel (show Progress.At _ 0 _ _ from rfl) rfl)
    have finished := cancelled.next (.finish (show Progress.At _ 1 _ _ from rfl))
    have skipped := finished.next
      (.skip (show Progress.At _ 2 _ _ from rfl) (show Progress.At _ 0 _ _ from rfl))
    exact ⟨_, skipped, rfl⟩
  · have reached : ∃ progress, Execution singly (singly.begin (some false) commandsAroundVendor)
        [.take 2 false, .take 0 false, .finish 2, .take 1 false, .raise, .finish 1, .finish 0]
        progress ∧ (progress.outcome?).isSome = true := by
      rw [begin_singly]
      have third : Execution singly singlyStarted [.take 2 false] _ := .next .idle (.take rfl rfl)
      have first := third.next (.take (show Progress.At _ 0 _ _ from rfl) rfl)
      have thirdDone := first.next (.finish (show Progress.At _ 2 _ _ from rfl))
      have second := thirdDone.next (.take (show Progress.At _ 1 _ _ from rfl) rfl)
      have raised := second.next (.raise rfl)
      have secondDone := raised.next (.finish (show Progress.At _ 1 _ _ from rfl))
      have firstDone := secondDone.next (.finish (show Progress.At _ 0 _ _ from rfl))
      exact ⟨_, firstDone, rfl⟩
    obtain ⟨progress, execution, ended⟩ := reached
    obtain ⟨outcome, ended⟩ := Option.isSome_iff_exists.mp ended
    have either :=
      (((report_whole_or_none singly (some false) commandsAroundVendor).1 _ _ execution).1 _ ended).1
    rcases either with ⟨_, ⟨number, taken⟩, _⟩ | ⟨whole, _⟩
    · simp at taken
    · exact ⟨progress, execution, ended.trans (congrArg some whole)⟩

end NamingAudit.Evaluator
