import NamingAudit.Proofs.Evaluation

/-! Rules do not interfere. A diagnostic carries the id of its rule, so one rule's part of a report is
made from its own outcomes alone: other rules can neither drop nor reorder nor merge it, whether they
pass, complain, fail or panic. -/

namespace NamingAudit

namespace Report

theorem ruleId_eq_of_compare {first second : Diagnostic} (tie : compare first second = .eq) :
    first.ruleId = second.ruleId := by
  have same := (Diagnostic.compare_eq_iff first second).mp tie
  simp only [Diagnostic.same, Bool.and_eq_true, beq_iff_eq] at same
  tauto

theorem byRule_finalize (report : Report) (ruleId : String) :
    report.finalize.byRule ruleId =
      (finalize ⟨report.byRule ruleId, report.factsChecked⟩).diagnostics := by
  have respects (first second : Diagnostic) (tie : compare first second = .eq) :
      (first.ruleId == ruleId) = (second.ruleId == ruleId) := by rw [ruleId_eq_of_compare tie]
  have whole := report.finalize_isDistinctSort.filter respects
  exact whole.unique (finalize_isDistinctSort ⟨report.byRule ruleId, report.factsChecked⟩)

end Report

namespace Evaluator

theorem ruleId_of_evaluateRule {entry : RegisteredRule} {fact : Fact} {diagnostic : Diagnostic}
    (found : evaluateRule entry fact = some diagnostic) : diagnostic.ruleId = entry.rule.id := by
  unfold evaluateRule at found
  split at found
  · contradiction
  all_goals
    cases found
    rfl

def share (entry : Option RegisteredRule) (fact : Fact) : List Diagnostic :=
  (entry.toList.filter fun entry => entry.enabled && entry.rule.appliesTo == fact.kind).filterMap
    fun entry => evaluateRule entry fact

theorem findings_filter_ruleId (evaluator : Evaluator) (fact : Fact) (ruleId : String) :
    (evaluator.findings fact).filter (fun diagnostic => diagnostic.ruleId == ruleId) =
      share (evaluator.registry.get? ruleId) fact := by
  have own (entry : RegisteredRule) :
      (evaluateRule entry fact).filter (fun diagnostic => diagnostic.ruleId == ruleId) =
        if entry.rule.id == ruleId then evaluateRule entry fact else none := by
    cases found : evaluateRule entry fact with
    | none => simp
    | some diagnostic => simp [Option.filter_some, ruleId_of_evaluateRule found]
  rw [evaluator.findings_eq, share, ← Registry.filter_id, List.filter_filterMap]
  simp only [own]
  rw [← List.filterMap_filter, List.filter_comm]

theorem byRule_gathered (evaluator : Evaluator) (facts : List Fact) (ruleId : String) :
    (evaluator.gathered facts).byRule ruleId =
      (visible evaluator.exclude facts).flatMap (share (evaluator.registry.get? ruleId)) := by
  rw [gathered, Report.byRule, List.filter_flatMap]
  exact List.flatMap_congr fun fact _ => evaluator.findings_filter_ruleId fact ruleId

/-- Two evaluators with the same patterns and the same entry for a rule report the same of that rule,
in the same order, and count the same facts, whatever their other rules are and do. -/
theorem byRule_evaluateProject_eq {first second : Evaluator}
    (sameExclude : first.exclude = second.exclude) {ruleId : String}
    (sameEntry : first.registry.get? ruleId = second.registry.get? ruleId) (facts : List Fact) :
    (first.evaluateProject facts).byRule ruleId = (second.evaluateProject facts).byRule ruleId ∧
      (first.evaluateProject facts).factsChecked =
        (second.evaluateProject facts).factsChecked := by
  have sameCount (facts : List Fact) :
      (first.gathered facts).factsChecked = (second.gathered facts).factsChecked := by
    rw [gathered, gathered, sameExclude]
  have sameShare (facts : List Fact) :
      (first.gathered facts).byRule ruleId = (second.gathered facts).byRule ruleId := by
    rw [byRule_gathered first, byRule_gathered second, sameExclude, sameEntry]
  simp only [evaluateProject, evaluate_eq, Report.byRule_finalize, sameShare]
  exact ⟨by rw [sameCount], sameCount _⟩

def panicking : Rule where
  id := "panicking"
  code := "CL901"
  description := "Breaks down"
  appliesTo := .command
  defaultSeverity := .error
  check _ := .panicked (some "out of ideas")

theorem byRule_evaluateProject_beside_panicking :
    let healthy : Evaluator := ⟨.registering Catalogue.commandRules, none, 1, vendorPatterns⟩
    let ailing : Evaluator :=
      ⟨((Registry.registering (Catalogue.commandRules ++ [panicking])).perform
        (.disable "validation-rule-snake-case")).1, some 4, 100, vendorPatterns⟩
    (healthy.evaluateProject commandsAroundVendor).byRule "command-name-kebab-case" =
        (ailing.evaluateProject commandsAroundVendor).byRule "command-name-kebab-case" ∧
      (healthy.evaluateProject commandsAroundVendor).factsChecked =
        (ailing.evaluateProject commandsAroundVendor).factsChecked := by
  intro healthy ailing
  have sameEntry : healthy.registry.get? "command-name-kebab-case" =
      ailing.registry.get? "command-name-kebab-case" := rfl
  have sameExclude : healthy.exclude = ailing.exclude := rfl
  exact byRule_evaluateProject_eq sameExclude sameEntry
    commandsAroundVendor

end Evaluator

end NamingAudit
