import NamingAudit.Proofs.BuiltInChecks
import NamingAudit.Proofs.FileRenames
import NamingAudit.Proofs.ReportOrder

/-! Spellings of a path. Facts that differ in nothing else are the same, and rules that read payloads only
find the same about them, which a report then brings into one order and frees of repetitions. The text of
a path counts in one place: the patterns of excluded files are matched with it, so a file can be excluded
under one spelling and checked under another. -/

namespace NamingAudit
open Std

namespace Rule

def ReadsPayload (rule : Rule) : Prop :=
  ∀ first second : Fact, first.payload = second.payload → rule.check first = rule.check second

theorem SelectsOwnKind.readsPayload {rule : Rule} (selects : rule.SelectsOwnKind) :
    rule.ReadsPayload := by
  obtain ⟨_, _, _, made, _⟩ := selects
  intro first second samePayload
  rw [made, checkOf, checkOf, Fact.kind, Fact.kind, samePayload]

end Rule

theorem Registry.mem_of_mem_rulesFor {registry : Registry} {kind : FactKind}
    {entry : RegisteredRule} (applied : entry ∈ registry.rulesFor kind) :
    entry ∈ registry.entries := by
  obtain ⟨position, _, found⟩ := List.mem_filterMap.mp (List.mem_filter.mp applied).1
  exact List.mem_of_getElem? found

namespace Report

structure Same (first second : Report) : Prop where
  diagnostics :
    List.Forall₂ (fun one other => one.same other = true) first.diagnostics second.diagnostics
  factsChecked : first.factsChecked = second.factsChecked

/-- Reports come out the same when the same diagnostics went into them, in any order and number. -/
theorem finalize_same_iff {first second : Report} :
    first.finalize.Same second.finalize ↔
      (∀ one ∈ first.diagnostics, ∃ other ∈ second.diagnostics, one.same other = true) ∧
        (∀ other ∈ second.diagnostics, ∃ one ∈ first.diagnostics, one.same other = true) ∧
        first.factsChecked = second.factsChecked := by
  constructor
  · intro same
    have members := agree_finalize_iff.mp same.diagnostics
    exact ⟨members.left, members.right, same.factsChecked⟩
  · rintro ⟨left, right, factsChecked⟩
    exact ⟨agree_finalize_iff.mpr ⟨left, right⟩, factsChecked⟩

end Report

namespace Evaluator

def ReadsPayloads (evaluator : Evaluator) : Prop :=
  ∀ entry ∈ evaluator.registry.entries, entry.rule.ReadsPayload

theorem readsPayloads_of_build {preset : Preset} {settings : Settings} {evaluator : Evaluator}
    (built : Registry.build preset settings = .ok evaluator.registry) : evaluator.ReadsPayloads :=
  fun _ member =>
    (Catalogue.selectsOwnKind_of_mem (Registry.builtIn_of_mem built member)).readsPayload

theorem placeOf_same {first second : Fact} (same : first.location.same second.location = true)
    (scope : Scope) : (placeOf first scope).same (placeOf second scope) = true := by
  cases scope with
  | fact => exact same
  | file => exact Location.same_iff.mpr ⟨(Location.same_iff.mp same).1, rfl, rfl⟩

theorem violationAt_same {first second : Location} (same : first.same second = true)
    (entry : RegisteredRule) (finding : Finding) :
    (violationAt entry first finding).same (violationAt entry second finding) = true := by
  cases fix : finding.fix <;>
    simp [violationAt, Diagnostic.same, same, fix, sameOption, Suggestion.same, Replacement.same]

theorem evaluateRule_same {entry : RegisteredRule} (reads : entry.rule.ReadsPayload)
    {first second : Fact} (same : first.same second = true) {diagnostic : Diagnostic}
    (found : evaluateRule entry first = some diagnostic) :
    ∃ other, evaluateRule entry second = some other ∧ diagnostic.same other = true := by
  obtain ⟨location, payload⟩ := Fact.same_iff.mp same
  rw [evaluateRule, reads first second payload] at found
  rw [evaluateRule]
  cases checked : entry.rule.check second with
  | verdict verdict =>
    cases verdict with
    | pass =>
      rw [checked] at found
      contradiction
    | violation finding =>
      rw [checked] at found
      cases found
      exact ⟨_, rfl, violationAt_same (placeOf_same location finding.scope) entry finding⟩
  | _ =>
    rw [checked] at found
    cases found
    exact ⟨_, rfl, by simp [failure, Diagnostic.same, location, sameOption]⟩

def Covered (first second : List Fact) : Prop :=
  ∀ fact ∈ first, ∃ other ∈ second, fact.same other = true

theorem exists_same_of_covered {evaluator : Evaluator} (reads : evaluator.ReadsPayloads)
    {first second : List Fact}
    (covered : Covered (visible evaluator.exclude first) (visible evaluator.exclude second))
    {diagnostic : Diagnostic} (member : diagnostic ∈ (evaluator.gathered first).diagnostics) :
    ∃ other ∈ (evaluator.gathered second).diagnostics, diagnostic.same other = true := by
  obtain ⟨fact, seen, found⟩ := List.mem_flatMap.mp member
  obtain ⟨entry, applied, made⟩ := List.mem_filterMap.mp found
  obtain ⟨partner, partnerSeen, same⟩ := covered fact seen
  have listed : entry ∈ evaluator.registry.entries := Registry.mem_of_mem_rulesFor applied
  obtain ⟨other, otherMade, alike⟩ := evaluateRule_same (reads entry listed) same made
  have kind : fact.kind = partner.kind := congrArg Fact.Payload.kind (Fact.same_iff.mp same).2
  rw [kind] at applied
  exact ⟨other, List.mem_flatMap.mpr ⟨partner, partnerSeen,
    List.mem_filterMap.mpr ⟨entry, applied, otherMade⟩⟩, alike⟩

structure SameVisible (patterns : List Glob.Pattern) (first second : List Fact) : Prop where
  covered : Covered (visible patterns first) (visible patterns second)
  coveredBack : Covered (visible patterns second) (visible patterns first)
  asMany : (visible patterns first).length = (visible patterns second).length

/-- No rules that read payloads tell the lists apart by their reports. -/
def SameReports (patterns : List Glob.Pattern) (first second : List Fact) : Prop :=
  ∀ evaluator : Evaluator, evaluator.exclude = patterns → evaluator.ReadsPayloads →
    (evaluator.evaluate first).Same (evaluator.evaluate second)

theorem SameVisible.sameReports {patterns : List Glob.Pattern} {first second : List Fact}
    (alike : SameVisible patterns first second) : SameReports patterns first second := by
  rintro evaluator rfl reads
  rw [evaluate_eq, evaluate_eq, Report.finalize_same_iff]
  refine ⟨fun one => exists_same_of_covered reads alike.covered, fun other member => ?_, alike.asMany⟩
  obtain ⟨one, present, same⟩ := exists_same_of_covered reads alike.coveredBack member
  exact ⟨one, present, Diagnostic.same_comm same⟩

def payloadProbe (payload : Fact.Payload) : Rule where
  id := "payload-probe"
  code := "CL902"
  description := "Reports what facts say"
  appliesTo := payload.kind
  defaultSeverity := .error
  check fact := .verdict (if fact.payload = payload then .violation (.plain "found") else .pass)

def probing (patterns : List Glob.Pattern) (payload : Fact.Payload) : Evaluator :=
  ⟨.registering [payloadProbe payload], none, 1, patterns⟩

def probed (payload : Fact.Payload) (location : Location) : Diagnostic :=
  violationAt ⟨payloadProbe payload, true, .error, 0⟩ location (.plain "found")

theorem findings_probing {patterns : List Glob.Pattern} {payload : Fact.Payload} (fact : Fact) :
    (probing patterns payload).findings fact =
      if fact.payload = payload then [probed payload fact.location] else [] := by
  have entries : (probing patterns payload).registry.entries =
      [⟨payloadProbe payload, true, .error, 0⟩] := rfl
  rw [findings_eq, entries]
  by_cases same : fact.payload = payload
  · subst same
    simp [payloadProbe, evaluateRule, probed, Fact.kind, placeOf, Finding.plain]
  · simp [payloadProbe, evaluateRule, same]

theorem mem_gathered_probing {patterns : List Glob.Pattern} {payload : Fact.Payload}
    {facts : List Fact} {diagnostic : Diagnostic} :
    diagnostic ∈ ((probing patterns payload).gathered facts).diagnostics ↔
      ∃ fact ∈ visible patterns facts, fact.payload = payload ∧
        diagnostic = probed payload fact.location := by
  simp only [gathered, List.mem_flatMap, findings_probing, List.mem_ite_nil_right, List.mem_singleton]
  rfl

theorem readsPayloads_probing (patterns : List Glob.Pattern) (payload : Fact.Payload) :
    (probing patterns payload).ReadsPayloads := by
  intro entry member first second samePayload
  cases List.mem_singleton.mp member
  change Outcome.verdict _ = .verdict _
  rw [samePayload]

theorem covered_of_probing {patterns : List Glob.Pattern} {first second : List Fact}
    (reported : ∀ payload, ∀ one ∈ ((probing patterns payload).gathered first).diagnostics,
      ∃ other ∈ ((probing patterns payload).gathered second).diagnostics, one.same other = true) :
    Covered (visible patterns first) (visible patterns second) := by
  intro fact seen
  obtain ⟨other, member, same⟩ := reported fact.payload (probed fact.payload fact.location)
    (mem_gathered_probing.mpr ⟨fact, seen, rfl, rfl⟩)
  obtain ⟨partner, partnerSeen, payload, rfl⟩ := mem_gathered_probing.mp member
  have locations : fact.location.same partner.location = true := by
    simp only [Diagnostic.same, Bool.and_eq_true] at same
    exact same.1.1.1.2
  exact ⟨partner, partnerSeen, Fact.same_iff.mpr ⟨locations, payload.symm⟩⟩

theorem SameReports.sameVisible {patterns : List Glob.Pattern} {first second : List Fact}
    (same : SameReports patterns first second) : SameVisible patterns first second := by
  have reports (payload : Fact.Payload) := by
    have alike := same (probing patterns payload) rfl (readsPayloads_probing patterns payload)
    rw [evaluate_eq, evaluate_eq, Report.finalize_same_iff] at alike
    exact alike
  have back (payload : Fact.Payload) (one : Diagnostic)
      (member : one ∈ ((probing patterns payload).gathered second).diagnostics) :
      ∃ other ∈ ((probing patterns payload).gathered first).diagnostics, one.same other = true := by
    obtain ⟨other, present, same⟩ := (reports payload).2.1 one member
    exact ⟨other, present, Diagnostic.same_comm same⟩
  refine ⟨covered_of_probing fun payload => (reports payload).1, covered_of_probing back, ?_⟩
  exact (reports (.command (.mk ⟨"SyncAll"⟩))).2.2

theorem sameVisible_of_forall₂ {patterns : List Glob.Pattern} {first second : List Fact}
    (spelled : List.Forall₂ (fun one other => one.same other = true ∧
      isUnmatched patterns one = isUnmatched patterns other) first second) :
    SameVisible patterns first second := by
  have step : List.Forall₂ (fun one other => one.same other = true ∧
      isUnmatched patterns one = isUnmatched patterns other) (visible patterns first)
      (visible patterns second) :=
    List.rel_filter (fun _ _ alike => Bool.eq_iff_iff.mp alike.2) spelled
  constructor
  case covered =>
    intro fact seen
    obtain ⟨other, present, same, _⟩ := Order.exists_of_forall₂ step seen
    exact ⟨other, present, same⟩
  case coveredBack =>
    intro fact seen
    obtain ⟨other, present, same, _⟩ := Order.exists_of_forall₂ step.flip seen
    exact ⟨other, present, Fact.same_comm same⟩
  case asMany => exact step.length_eq

/-- Whether rules that read payloads only can tell two lists of facts apart depends on which facts the
patterns leave to be checked: they cannot exactly if these are the same facts on both sides, to the
spelling of paths, and as many. It is so for two lists of the same facts in the same order if each fact is
matched under both spellings of its path or under none. -/
theorem sameReports_iff (patterns : List Glob.Pattern) (first second : List Fact) :
    (List.Forall₂ (fun one other => one.same other = true ∧
        isUnmatched patterns one = isUnmatched patterns other) first second →
      SameReports patterns first second) ∧
      (SameReports patterns first second ↔ SameVisible patterns first second) :=
  ⟨fun spelled => (sameVisible_of_forall₂ spelled).sameReports, SameReports.sameVisible,
    SameVisible.sameReports⟩

def commandIn (file : String) : Fact := ⟨⟨⟨file⟩, 3, 1⟩, .command (.mk ⟨"SyncAll"⟩)⟩

/-- A command of a vendor and one of the project, with their paths spelled in two ways. -/
theorem sameReports_doubledSlashes : ∃ registry : Registry,
    Registry.build .recommended .standard = .ok registry ∧
      (evaluate ⟨registry, some 2, 1, vendorPatterns⟩
        [commandIn "vendor/Sync.php", commandIn "app/Sync.php"]).Same
      (evaluate ⟨registry, some 2, 1, vendorPatterns⟩
        [commandIn "vendor//Sync.php", commandIn "app/./Sync.php"]) := by
  obtain ⟨registry, built, _⟩ := exists_standard .recommended
  let evaluator : Evaluator := ⟨registry, some 2, 1, vendorPatterns⟩
  have reads : evaluator.ReadsPayloads := readsPayloads_of_build built
  have spelled : List.Forall₂ (fun one other => one.same other = true ∧
      isUnmatched vendorPatterns one = isUnmatched vendorPatterns other)
      [commandIn "vendor/Sync.php", commandIn "app/Sync.php"]
      [commandIn "vendor//Sync.php", commandIn "app/./Sync.php"] :=
    .cons (by decide +kernel) (.cons (by decide +kernel) .nil)
  have reports := (sameReports_iff vendorPatterns _ _).1 spelled
  exact ⟨registry, built, reports evaluator rfl reads⟩

def legacyPatterns : List Glob.Pattern :=
  [⟨[.char 'a', .char 'p', .char 'p', .char '/', .char 'L', .char 'e', .char 'g', .char 'a', .char 'c',
    .char 'y', .char '/', .anyRun]⟩]

/-- A pattern that excludes a file does not exclude it when a slash in its path is doubled, and so a
command in it is reported. -/
theorem legacyCommand_reported : ∃ registry : Registry,
    Registry.build .recommended .standard = .ok registry ∧
      ["app/Legacy/*"].mapM Glob.Pattern.compile = .ok legacyPatterns ∧
      (Evaluator.mk registry none 256 legacyPatterns).ReadsPayloads ∧
      List.Forall₂ (fun one other => one.same other = true)
        [commandIn "app/Legacy/Sync.php"] [commandIn "app//Legacy/Sync.php"] ∧
      (evaluate ⟨registry, none, 256, legacyPatterns⟩
        [commandIn "app/Legacy/Sync.php"]).diagnostics = [] ∧
      (evaluate ⟨registry, none, 256, legacyPatterns⟩
        [commandIn "app//Legacy/Sync.php"]).diagnostics.map Diagnostic.message =
          ["Command names must be kebab-case: expected `sync-all`"] ∧
      ¬ (evaluate ⟨registry, none, 256, legacyPatterns⟩ [commandIn "app/Legacy/Sync.php"]).Same
        (evaluate ⟨registry, none, 256, legacyPatterns⟩ [commandIn "app//Legacy/Sync.php"]) := by
  obtain ⟨registry, built, standard⟩ := exists_standardReport .recommended
  let evaluator : Evaluator := ⟨registry, none, 256, legacyPatterns⟩
  have report := (standard none 256 legacyPatterns).2
  have spelled : List.Forall₂ (fun one other => one.same other = true)
      [commandIn "app/Legacy/Sync.php"] [commandIn "app//Legacy/Sync.php"] :=
    .cons (by decide +kernel) .nil
  have silent : (evaluator.evaluate [commandIn "app/Legacy/Sync.php"]).diagnostics = [] := by
    rw [report]
    decide +kernel
  have reported : (evaluator.evaluate [commandIn "app//Legacy/Sync.php"]).diagnostics.map
      Diagnostic.message = ["Command names must be kebab-case: expected `sync-all`"] := by
    rw [report]
    decide +kernel
  refine ⟨registry, built, rfl, readsPayloads_of_build built, spelled, silent, reported, fun same => ?_⟩
  have nothing : (evaluator.evaluate [commandIn "app//Legacy/Sync.php"]).diagnostics = [] := by
    have paired := same.diagnostics
    rwa [silent, List.forall₂_nil_left_iff] at paired
  rw [nothing] at reported
  exact List.cons_ne_nil _ _ reported.symm

end Evaluator

end NamingAudit
