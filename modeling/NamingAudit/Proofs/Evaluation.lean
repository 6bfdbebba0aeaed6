import NamingAudit.Catalogue
import NamingAudit.Evaluator
import NamingAudit.Proofs.Registry

/-! Batches make no difference. Cutting the facts into parts, evaluating each part and merging the
reports gives what one pass over all facts gives, sorted and without repetitions. The pass takes the
facts in their order and, for each, the enabled rules for its kind in the order of registration. -/

namespace NamingAudit
open Std

theorem parts_flatten {α : Type u} (size : Nat) (items : List α) :
    (parts size items).flatten = items := by
  fun_induction parts size items with
  | case1 => rfl
  | case2 first rest ih => simp [ih]

theorem mapM_eq_ok {α : Type u} {β ε : Type v} {step : α → Except ε β} {result : α → β}
    {items : List α} (succeeds : ∀ item ∈ items, step item = .ok (result item)) :
    items.mapM step = .ok (items.map result) := by
  induction items with
  | nil => rfl
  | cons head rest ih =>
    rw [List.mapM_cons, succeeds head (by simp),
      ih fun item member => succeeds item (by simp [member])]
    rfl

namespace Report

theorem empty_extend (report : Report) : empty.extend report = report := by
  simp [empty, extend]

theorem extend_assoc (first second third : Report) :
    (first.extend second).extend third = first.extend (second.extend third) := by
  simp [extend, Nat.add_assoc]

theorem finalize_isDistinctSort (report : Report) :
    Order.IsDistinctSort compare report.diagnostics report.finalize.diagnostics :=
  Order.dropRepeats_sort_isDistinctSort
    (fun first second => (Diagnostic.compare_eq_iff first second).symm) report.diagnostics

end Report

namespace Evaluator

def isUnmatched (patterns : List Glob.Pattern) (fact : Fact) : Bool :=
  !patterns.any fun pattern => pattern.admits fact.location.file.text

def visible (patterns : List Glob.Pattern) (facts : List Fact) : List Fact :=
  facts.filter (isUnmatched patterns)

@[simp] theorem visible_append (patterns : List Glob.Pattern) (first second : List Fact) :
    visible patterns (first ++ second) = visible patterns first ++ visible patterns second :=
  List.filter_append ..

theorem visible_visible (patterns : List Glob.Pattern) (facts : List Fact) :
    visible patterns (visible patterns facts) = visible patterns facts := by
  simp [visible]

theorem mem_visible {patterns : List Glob.Pattern} {facts : List Fact} {fact : Fact} :
    fact ∈ visible patterns facts ↔ fact ∈ facts ∧ isUnmatched patterns fact = true :=
  List.mem_filter

/-- What one pass over the facts finds, before it is put in order. -/
def gathered (evaluator : Evaluator) (facts : List Fact) : Report :=
  ⟨(visible evaluator.exclude facts).flatMap evaluator.findings,
    (visible evaluator.exclude facts).length⟩

theorem gathered_append (evaluator : Evaluator) (first second : List Fact) :
    evaluator.gathered (first ++ second) =
      (evaluator.gathered first).extend (evaluator.gathered second) := by
  simp [gathered, Report.extend]

theorem evaluateFact_eq (evaluator : Evaluator) (report : Report) (fact : Fact) :
    evaluator.evaluateFact report fact = report.extend (evaluator.gathered [fact]) := by
  have unmatched : isUnmatched evaluator.exclude fact = !evaluator.isExcluded fact := rfl
  cases excluded : evaluator.isExcluded fact <;>
    simp [evaluateFact, gathered, visible, Report.extend, unmatched, excluded]

theorem evaluateBatch_eq_gathered (evaluator : Evaluator) (batch : List Fact) :
    evaluator.evaluateBatch batch = evaluator.gathered batch := by
  -- What was reported before stays in front of what the facts add.
  have after (facts : List Fact) (report : Report) :
      facts.foldl evaluator.evaluateFact report = report.extend (evaluator.gathered facts) := by
    induction facts generalizing report with
    | nil => simp [gathered, visible, Report.extend]
    | cons fact rest ih =>
      rw [List.foldl_cons, ih, evaluateFact_eq, Report.extend_assoc, ← gathered_append,
        List.singleton_append]
  rw [evaluateBatch, after, Report.empty_extend]

theorem foldl_extend_gathered (evaluator : Evaluator) (batches : List (List Fact)) :
    (batches.map evaluator.gathered).foldl Report.extend .empty =
      evaluator.gathered batches.flatten := by
  have after (batches : List (List Fact)) (report : Report) :
      (batches.map evaluator.gathered).foldl Report.extend report =
        report.extend (evaluator.gathered batches.flatten) := by
    induction batches generalizing report with
    | nil => simp [gathered, visible, Report.extend]
    | cons batch rest ih =>
      rw [List.map_cons, List.foldl_cons, ih, Report.extend_assoc, ← gathered_append,
        List.flatten_cons]
  rw [after, Report.empty_extend]

theorem run_of_not_raised (evaluator : Evaluator) (facts : List Fact) :
    evaluator.run (fun _ => false) facts = .ok (evaluator.gathered facts).finalize := by
  let batches := (parts evaluator.batchSize facts).zipIdx
  have reports : batches.mapM (fun entry =>
      (.ok (evaluator.evaluateBatch entry.1) : Except EvaluationError Report)) =
        .ok (batches.map fun entry => evaluator.gathered entry.1) :=
    mapM_eq_ok fun entry _ => congrArg Except.ok (evaluator.evaluateBatch_eq_gathered entry.1)
  have unnumbered : batches.map (fun entry => evaluator.gathered entry.1) =
      (parts evaluator.batchSize facts).map evaluator.gathered := by
    rw [← Function.comp_def, ← List.map_map, List.zipIdx_map_fst]
  change (batches.mapM fun entry =>
    (.ok (evaluator.evaluateBatch entry.1) : Except EvaluationError Report)) >>= _ = _
  rw [reports]
  change Except.ok (Report.finalize _) = _
  rw [unnumbered, foldl_extend_gathered, parts_flatten]

/-- An evaluation is one pass over the facts, whatever the size of a batch. -/
theorem evaluate_eq (evaluator : Evaluator) (facts : List Fact) :
    evaluator.evaluate facts = (evaluator.gathered facts).finalize := by
  rw [evaluate, run_of_not_raised]

theorem findings_eq (evaluator : Evaluator) (fact : Fact) :
    evaluator.findings fact =
      (evaluator.registry.entries.filter fun entry =>
        entry.enabled && entry.rule.appliesTo == fact.kind).filterMap
          fun entry => evaluateRule entry fact := by
  rw [findings, Registry.rulesFor_eq]

/-- What a plain loop over the facts and, inside it, over all registered rules comes across. -/
def sequentialFindings (registry : Registry) (patterns : List Glob.Pattern) (facts : List Fact) :
    List Diagnostic :=
  (visible patterns facts).flatMap fun fact =>
    (registry.entries.filter fun entry =>
      entry.enabled && entry.rule.appliesTo == fact.kind).filterMap
        fun entry => evaluateRule entry fact

/-- Whatever pool and batch size are asked for, an evaluator whose patterns compile is built, and it
reports what the plain loop comes across: stably sorted, and without those diagnostics that are the
same as the one before. It counts the facts that no pattern matches. -/
theorem evaluate_eq_sequential (registry : Registry)
    (workers batchSize : Option Nat) {exclude : List String} {patterns : List Glob.Pattern}
    (compiled : exclude.mapM Glob.Pattern.compile = .ok patterns) (facts : List Fact) :
    ∃ evaluator, EvaluatorRequest.build ⟨registry, workers, batchSize, exclude⟩ = .ok evaluator ∧
      (∃ sorted,
        (∀ other, Order.IsStableSort compare (sequentialFindings registry patterns facts) other ↔
          other = sorted) ∧
        (evaluator.evaluate facts).diagnostics =
          sorted.destutter fun first second => first.same second = false) ∧
      (evaluator.evaluate facts).factsChecked = (visible patterns facts).length := by
  let evaluator : Evaluator := ⟨registry, workers.filter (0 < ·),
    (batchSize.filter (0 < ·)).getD EngineSettings.standardBatchSize, patterns⟩
  have built : EvaluatorRequest.build ⟨registry, workers, batchSize, exclude⟩ = .ok evaluator := by
    simp [EvaluatorRequest.build, compiled, Except.mapError, bind, Except.bind, pure, Except.pure,
      evaluator]
  have found : (evaluator.gathered facts).diagnostics =
      sequentialFindings registry patterns facts :=
    List.flatMap_congr fun fact _ => evaluator.findings_eq fact
  refine ⟨evaluator, built, ⟨_, fun _ => Order.isStableSort_iff, ?_⟩, ?_⟩
  · rw [evaluate_eq, ← Order.dropRepeats_eq_destutter, ← found]
    rfl
  · rw [evaluate_eq]
    rfl

def vendorPatterns : List Glob.Pattern :=
  [⟨[.char 'v', .char 'e', .char 'n', .char 'd', .char 'o', .char 'r', .char '/', .directories]⟩]

def commandsAroundVendor : List Fact :=
  [⟨⟨⟨"vendor/a.php"⟩, 1, 1⟩, .command (.mk ⟨"Vendor"⟩)⟩, ⟨⟨⟨"b.php"⟩, 2, 1⟩, .command (.mk ⟨"WarmCache"⟩)⟩,
    ⟨⟨⟨"b.php"⟩, 2, 1⟩, .command (.mk ⟨"WarmCache"⟩)⟩]

def singly : Evaluator := ⟨.registering Catalogue.commandRules, some 2, 1, vendorPatterns⟩

theorem evaluate_commandsAroundVendor :
    ∃ evaluator,
      EvaluatorRequest.build
        ⟨.registering Catalogue.commandRules, some 2, some 0, ["vendor/**"]⟩ = .ok evaluator ∧
      (evaluator.evaluate commandsAroundVendor).diagnostics.map Diagnostic.display =
        ["b.php:2:1: warning [CL070] Command names must be kebab-case: expected `warm-cache`"] ∧
      (evaluator.evaluate commandsAroundVendor).factsChecked = 2 := by
  have compiled : ["vendor/**"].mapM Glob.Pattern.compile = .ok vendorPatterns := rfl
  obtain ⟨evaluator, built, ⟨sorted, isSorted, reported⟩, counted⟩ :=
    evaluate_eq_sequential (.registering Catalogue.commandRules) (some 2) (some 0)
      compiled commandsAroundVendor
  let entry : RegisteredRule := ⟨Catalogue.commandRules[0], true, .warning, 0⟩
  let repeated := Evaluator.violationAt entry ⟨⟨"b.php"⟩, 2, 1⟩
    (.replacing "Command names must be kebab-case: expected `warm-cache`" "warm-cache")
  have found : sequentialFindings (.registering Catalogue.commandRules) vendorPatterns
      commandsAroundVendor = [repeated, repeated] := by decide +kernel
  have stable : Order.IsStableSort compare [repeated, repeated] [repeated, repeated] :=
    ⟨.refl _, by decide +kernel, fun _ => rfl⟩
  have settled : sorted = [repeated, repeated] := ((isSorted _).mp (found ▸ stable)).symm
  refine ⟨evaluator, built, ?_, counted.trans (by decide +kernel)⟩
  rw [reported, settled]
  decide +kernel

end Evaluator

end NamingAudit
