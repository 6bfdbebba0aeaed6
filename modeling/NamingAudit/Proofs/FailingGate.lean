import NamingAudit.Proofs.FactOrder

/-! The failing gate. A check fails when its report has a diagnostic that is grave enough, and of those
that tie all are equally grave. So a check that passes goes on passing when rules are disabled, when
severities are lowered and when the threshold is raised. A rule that breaks down is beyond all severities,
but then it does so whatever severity it has. -/

namespace NamingAudit
open Std

namespace Severity

theorem atLeast_refl (severity : Severity) : severity.atLeast severity = true :=
  decide_eq_true (Nat.le_refl _)

theorem atLeast_trans {highest middle least : Severity} (upper : highest.atLeast middle = true)
    (lower : middle.atLeast least = true) : highest.atLeast least = true :=
  decide_eq_true (Nat.le_trans (of_decide_eq_true lower) (of_decide_eq_true upper))

end Severity

structure RegisteredRule.NoStricter (later former : RegisteredRule) : Prop where
  rule : later.rule = former.rule
  enabled : later.enabled = true → former.enabled = true
  severity : later.enabled = true → former.severity.atLeast later.severity = true

namespace RegisteredRule.NoStricter

theorem refl (entry : RegisteredRule) : entry.NoStricter entry :=
  ⟨rfl, id, fun _ => entry.severity.atLeast_refl⟩

theorem trans {latest later former : RegisteredRule} (next : latest.NoStricter later)
    (first : later.NoStricter former) : latest.NoStricter former where
  rule := next.rule.trans first.rule
  enabled on := first.enabled (next.enabled on)
  severity on := Severity.atLeast_trans (first.severity (next.enabled on)) (next.severity on)

variable {entry former : RegisteredRule} (noStricter : entry.NoStricter former)
include noStricter

theorem disabled : ({ entry with enabled := false } : RegisteredRule).NoStricter former where
  rule := noStricter.rule
  enabled on := Bool.noConfusion on
  severity on := Bool.noConfusion on

theorem regraded {severity : Severity} (lower : former.severity.atLeast severity = true) :
    ({ entry with severity := severity } : RegisteredRule).NoStricter former where
  rule := noStricter.rule
  enabled := noStricter.enabled
  severity _ := lower

theorem overlay {settings : RuleSettings} (disables : settings.enabled ≠ some true)
    (lower : ∀ severity, settings.severity = some severity →
      former.severity.atLeast severity = true) :
    (Registry.overlay settings entry).NoStricter former := by
  have graded : ({ entry with severity := settings.severity.getD entry.severity } :
      RegisteredRule).NoStricter former := by
    cases given : settings.severity with
    | none => exact noStricter
    | some severity => exact noStricter.regraded (lower severity given)
  simp only [Registry.overlay]
  match switched : settings.enabled with
  | none => exact graded
  | some false => exact graded.disabled
  | some true => contradiction

theorem onRule {id : String} {change : StateChange}
    (lenient : former.rule.id = id → (change entry).NoStricter former) :
    (change.onRule id entry).NoStricter former := by
  rw [StateChange.onRule_apply]
  split
  case isTrue named => exact lenient (noStricter.rule ▸ named)
  case isFalse => exact noStricter

end RegisteredRule.NoStricter

namespace Registry

def NoStricter (later former : Registry) : Prop :=
  List.Forall₂ RegisteredRule.NoStricter later.entries former.entries

theorem NoStricter.refl (registry : Registry) : registry.NoStricter registry :=
  List.forall₂_same.mpr fun entry _ => .refl entry

theorem NoStricter.trans {latest later former : Registry} (next : latest.NoStricter later)
    (first : later.NoStricter former) : latest.NoStricter former := by
  obtain ⟨nextLength, nextRelated⟩ := List.forall₂_iff_get.mp next
  obtain ⟨firstLength, firstRelated⟩ := List.forall₂_iff_get.mp first
  refine List.forall₂_iff_get.mpr ⟨nextLength.trans firstLength, fun position bound other => ?_⟩
  have between : position < later.entries.length := nextLength ▸ bound
  exact (nextRelated position bound between).trans (firstRelated position between other)

theorem NoStricter.onRule {later former : Registry} (noStricter : later.NoStricter former)
    {id : String} {change : StateChange}
    (lenient : ∀ entry, ∀ base ∈ former.entries, base.rule.id = id → entry.NoStricter base →
      (change entry).NoStricter base) :
    (later.mapEntries (change.onRule id)).NoStricter former := by
  rw [NoStricter, List.forall₂_iff_zip] at noStricter
  rw [NoStricter, Registry.mapEntries, List.forall₂_map_left_iff, List.forall₂_iff_zip]
  refine ⟨noStricter.1, fun {entry base} paired => ?_⟩
  have alike := noStricter.2 paired
  exact alike.onRule fun named => lenient entry base (List.of_mem_zip paired).2 named alike

theorem noStricter_update {registry : Registry} {id : String} {change : StateChange}
    (lenient : ∀ entry, ∀ base ∈ registry.entries, base.rule.id = id → entry.NoStricter base →
      (change entry).NoStricter base) :
    (registry.keeping (registry.update id change)).1.NoStricter registry := by
  rw [update_eq]
  split
  · exact (NoStricter.refl registry).onRule lenient
  · exact .refl registry

theorem noStricter_applyEntries {registry former : Registry}
    (noStricter : registry.NoStricter former)
    {settings : List (String × RuleSettings)}
    (disables : ∀ setting ∈ settings, setting.2.enabled ≠ some true)
    (lower : ∀ setting ∈ settings, ∀ severity, setting.2.severity = some severity →
      ∀ entry ∈ former.entries, entry.rule.id = setting.1 →
        entry.severity.atLeast severity = true) :
    (registry.applyEntries settings).1.NoStricter former := by
  induction settings generalizing registry with
  | nil => exact noStricter
  | cons setting rest ih =>
    rw [Registry.applyEntries, update_eq]
    by_cases known : setting.1 ∈ registry.ids
    · rw [if_pos known]
      have applied : (registry.mapEntries ((overlay setting.2).onRule setting.1)).NoStricter former :=
        noStricter.onRule fun entry base member named alike =>
          alike.overlay (disables setting (by simp)) fun severity given =>
            lower setting (by simp) severity given base member named
      exact ih applied (fun other later => disables other (by simp [later]))
        fun other later => lower other (by simp [later])
    · rw [if_neg known]
      exact noStricter

inductive Lenient (registry : Registry) : Operation → Prop where
  | disable (id : String) : Lenient registry (.disable id)
  | setSeverity {id : String} {severity : Severity}
      (lower : ∀ entry ∈ registry.entries, entry.rule.id = id →
        entry.severity.atLeast severity = true) :
      Lenient registry (.setSeverity id severity)
  | applySettings {settings : Settings}
      (disables : ∀ setting ∈ settings.rules.entries, setting.2.enabled ≠ some true)
      (lower : ∀ setting ∈ settings.rules.entries, ∀ severity, setting.2.severity = some severity →
        ∀ entry ∈ registry.entries, entry.rule.id = setting.1 →
          entry.severity.atLeast severity = true) :
      Lenient registry (.applySettings settings)

theorem Lenient.noStricter {registry : Registry} {operation : Operation}
    (lenient : Lenient registry operation) :
    (registry.perform operation).1.NoStricter registry := by
  cases lenient with
  | disable id => exact noStricter_update fun _ _ _ _ alike => alike.disabled
  | setSeverity lower =>
    exact noStricter_update fun _ base member named alike =>
      alike.regraded (lower base member named)
  | applySettings disables lower =>
    exact noStricter_applyEntries (.refl registry) disables lower

/-- A registry after operations each of which was lenient when it was performed. -/
inductive Relaxed (former : Registry) : Registry → Prop where
  | unchanged : Relaxed former former
  | perform {registry : Registry} {operation : Operation} (before : Relaxed former registry)
      (lenient : Lenient registry operation) : Relaxed former (registry.perform operation).1

theorem Relaxed.noStricter {former later : Registry} (relaxed : Relaxed former later) :
    later.NoStricter former := by
  induction relaxed with
  | unchanged => exact .refl former
  | perform _ lenient ih => exact lenient.noStricter.trans ih

end Registry

theorem Report.hasAt_finalize (report : Report) (threshold : Severity) :
    report.finalize.hasAt threshold = report.hasAt threshold := by
  rw [Bool.eq_iff_iff, hasAt, hasAt, List.any_eq_true, List.any_eq_true]
  constructor
  · rintro ⟨diagnostic, kept, grave⟩
    exact ⟨diagnostic, report.finalize_isDistinctSort.mem kept, grave⟩
  · rintro ⟨diagnostic, member, grave⟩
    obtain ⟨kept, present, tie⟩ := report.finalize_isDistinctSort.exists_tie member
    have same := (Diagnostic.compare_eq_iff diagnostic kept).mp tie
    simp only [Diagnostic.same, Bool.and_eq_true, beq_iff_eq] at same
    obtain ⟨⟨⟨⟨⟨_, severity⟩, _⟩, _⟩, _⟩, _⟩ := same
    exact ⟨kept, present, severity ▸ grave⟩

namespace Evaluator

/-- A check fails over a single finding that is grave enough, wherever it comes from. -/
theorem hasAt_evaluate_iff {evaluator : Evaluator} (facts : List Fact) (threshold : Severity) :
    (evaluator.evaluate facts).hasAt threshold = true ↔
      ∃ fact ∈ visible evaluator.exclude facts, ∃ entry ∈ evaluator.registry.entries,
        entry.enabled = true ∧ entry.rule.appliesTo = fact.kind ∧
          ∃ diagnostic, evaluateRule entry fact = some diagnostic ∧
            diagnostic.severity.atLeast threshold = true := by
  rw [evaluate_eq, Report.hasAt_finalize, Report.hasAt, List.any_eq_true]
  simp only [gathered, List.mem_flatMap, evaluator.findings_eq, List.mem_filterMap,
    List.mem_filter, Bool.and_eq_true, beq_iff_eq]
  constructor
  · rintro ⟨diagnostic, ⟨fact, seen, entry, ⟨member, enabled, applies⟩, found⟩, grave⟩
    exact ⟨fact, seen, entry, member, enabled, applies, diagnostic, found, grave⟩
  · rintro ⟨fact, seen, entry, member, enabled, applies, diagnostic, found, grave⟩
    exact ⟨diagnostic, ⟨fact, seen, entry, ⟨member, enabled, applies⟩, found⟩, grave⟩

theorem evaluateRule_of_noStricter {later former : RegisteredRule} (sameRule : later.rule = former.rule)
    (severity : former.severity.atLeast later.severity = true) {fact : Fact} {diagnostic : Diagnostic}
    (found : evaluateRule later fact = some diagnostic) :
    ∃ other, evaluateRule former fact = some other ∧
      other.severity.atLeast diagnostic.severity = true := by
  unfold evaluateRule at found ⊢
  rw [sameRule] at found
  cases checked : former.rule.check fact with
  | verdict verdict =>
    cases verdict with
    | pass =>
      rw [checked] at found
      contradiction
    | violation finding =>
      rw [checked] at found
      cases found
      exact ⟨_, rfl, severity⟩
  | _ =>
    -- A breakdown is graded without a look at the severity of the rule.
    rw [checked] at found
    cases found
    exact ⟨_, rfl, Severity.atLeast_refl _⟩

theorem hasAt_of_noStricter {former later : Evaluator} (sameExclude : later.exclude = former.exclude)
    (noStricter : later.registry.NoStricter former.registry) {threshold raised : Severity}
    (noLower : raised.atLeast threshold = true) {facts : List Fact}
    (fails : (later.evaluate facts).hasAt raised = true) :
    (former.evaluate facts).hasAt threshold = true := by
  obtain ⟨fact, seen, entry, member, enabled, applies, diagnostic, found, grave⟩ :=
    (hasAt_evaluate_iff facts raised).mp fails
  obtain ⟨base, present, alike⟩ := Order.exists_of_forall₂ noStricter member
  obtain ⟨other, otherFound, graver⟩ :=
    evaluateRule_of_noStricter alike.rule (alike.severity enabled) found
  have graveEnough : other.severity.atLeast threshold = true :=
    Severity.atLeast_trans graver (Severity.atLeast_trans grave noLower)
  exact (hasAt_evaluate_iff facts threshold).mpr ⟨fact, sameExclude ▸ seen, base, present,
    alike.enabled enabled, alike.rule ▸ applies, other, otherFound, graveEnough⟩

/-- A check that passes goes on passing with the same patterns under a threshold that is no lower and a
registry that has the same rules in the same order, each of them disabled, or enabled before with a
severity no lower. Such a registry is what becomes of one by disabling rules and lowering severities, one
by one or through settings. Threads and the size of a batch make no difference. -/
theorem gate_monotone (former : Evaluator) (facts : List Fact)
    {threshold raised : Severity} (noLower : raised.atLeast threshold = true)
    (passes : (former.evaluateProject facts).hasAt threshold = false) :
    (∀ later : Evaluator, later.exclude = former.exclude →
      later.registry.NoStricter former.registry →
        (later.evaluateProject facts).hasAt raised = false) ∧
      ∀ registry, former.registry.Relaxed registry →
        registry.NoStricter former.registry ∧
          ({ former with registry := registry }.evaluateProject facts).hasAt raised = false := by
  have passesLater (later : Evaluator) (sameExclude : later.exclude = former.exclude)
      (noStricter : later.registry.NoStricter former.registry) :
      (later.evaluateProject facts).hasAt raised = false := by
    rw [← Bool.not_eq_true] at passes ⊢
    exact mt (hasAt_of_noStricter sameExclude noStricter noLower) passes
  refine ⟨passesLater, fun registry relaxed => ?_⟩
  have noStricter := relaxed.noStricter
  exact ⟨noStricter, passesLater { former with registry := registry } rfl noStricter⟩

def relaxedCommands : Registry :=
  ((singly.registry.perform (.setSeverity "command-name-kebab-case" .info)).1.perform
    (.disable "validation-rule-snake-case")).1

theorem gate_relaxedCommands :
    (singly.evaluateProject commandsAroundVendor).hasAt .warning = true ∧
      (singly.evaluateProject commandsAroundVendor).hasAt .error = false ∧
      ((Evaluator.mk relaxedCommands none 100 vendorPatterns).evaluateProject
        commandsAroundVendor).hasAt .internal = false := by
  have report : singly.evaluateProject commandsAroundVendor =
      (singly.gathered (commandsAroundVendor ++ Composite.join commandsAroundVendor)).finalize :=
    singly.evaluate_eq _
  have fails : (singly.evaluateProject commandsAroundVendor).hasAt .warning = true := by
    rw [report, Report.hasAt_finalize]
    decide +kernel
  have passes : (singly.evaluateProject commandsAroundVendor).hasAt .error = false := by
    rw [report, Report.hasAt_finalize]
    decide +kernel
  have lenient : singly.registry.Relaxed relaxedCommands := by
    refine .perform (.perform .unchanged (.setSeverity ?_)) (.disable _)
    decide +kernel
  have noLower : Severity.internal.atLeast .error = true := rfl
  have later := gate_monotone singly commandsAroundVendor noLower passes
  obtain ⟨noStricter, _⟩ := later.2 relaxedCommands lenient
  exact ⟨fails, passes, later.1 ⟨relaxedCommands, none, 100, vendorPatterns⟩ rfl noStricter⟩

end Evaluator

end NamingAudit
