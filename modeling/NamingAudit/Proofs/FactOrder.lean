import NamingAudit.Proofs.Evaluation
import NamingAudit.Proofs.Join

/-! The order of facts makes no difference, and neither does their number. Diagnostics that tie differ
in the spelling of paths at most, so where every path is spelled in one way, the report holds one
diagnostic for each class of ties and depends on which diagnostics there are. -/

namespace NamingAudit

def SpelledOnce (facts : List Fact) : Prop :=
  ∀ one ∈ facts, ∀ other ∈ facts, one.location.file.same other.location.file = true →
    one.location.file = other.location.file

namespace SpelledOnce

theorem location {facts : List Fact} (spelledOnce : SpelledOnce facts) {one other : Fact}
    (onePresent : one ∈ facts) (otherPresent : other ∈ facts)
    (tie : compare one.location other.location = .eq) : one.location = other.location := by
  have same := Location.compare_eq_iff.mp tie
  have sameFile : one.location.file.same other.location.file = true := by
    simp only [Location.same, Bool.and_eq_true] at same
    exact same.1.1
  exact Location.eq_of_same same (spelledOnce one onePresent other otherPresent sameFile)

theorem append_join {facts : List Fact} (spelledOnce : SpelledOnce facts) :
    SpelledOnce (facts ++ Composite.join facts) := by
  have standing (fact : Fact) (member : fact ∈ facts ++ Composite.join facts) :
      ∃ origin ∈ facts, origin.location = fact.location := by
    rcases List.mem_append.mp member with given | joined
    · exact ⟨fact, given, rfl⟩
    · exact Composite.location_of_mem_join joined
  intro one oneMember other otherMember same
  obtain ⟨oneOrigin, onePresent, onePlace⟩ := standing one oneMember
  obtain ⟨otherOrigin, otherPresent, otherPlace⟩ := standing other otherMember
  rw [← onePlace, ← otherPlace] at same ⊢
  exact spelledOnce oneOrigin onePresent otherOrigin otherPresent same

end SpelledOnce

namespace Diagnostic

def Anchored (diagnostic : Diagnostic) : Prop :=
  ∀ replacement, diagnostic.replacement? = some replacement →
    replacement.location = diagnostic.location

theorem eq_of_same {first second : Diagnostic} (same : first.same second = true)
    (files : first.location.file = second.location.file) (firstAnchored : first.Anchored)
    (secondAnchored : second.Anchored) : first = second := by
  simp only [Diagnostic.same, Bool.and_eq_true, beq_iff_eq] at same
  obtain ⟨⟨⟨⟨⟨⟨ruleIds, codes⟩, severities⟩, locations⟩, messages⟩, suggestions⟩, priorities⟩ := same
  have places : first.location = second.location := Location.eq_of_same locations files
  have suggested : first.suggestion = second.suggestion := by
    refine eq_of_sameOption (fun one other oneGiven otherGiven alike => ?_) suggestions
    simp only [Suggestion.same, Bool.and_eq_true, beq_iff_eq] at alike
    have replaced : one.replacement = other.replacement := by
      refine eq_of_sameOption (fun old new oldGiven newGiven agree => ?_) alike.2
      simp only [Replacement.same, Bool.and_eq_true, beq_iff_eq] at agree
      have oldPlace := firstAnchored old (by simp [replacement?, oneGiven, oldGiven])
      have newPlace := secondAnchored new (by simp [replacement?, otherGiven, newGiven])
      cases old
      cases new
      simp_all
    cases one
    cases other
    simp_all
  cases first
  cases second
  simp_all

end Diagnostic

namespace Evaluator

theorem evaluateRule_place {entry : RegisteredRule} {fact : Fact} {diagnostic : Diagnostic}
    (found : evaluateRule entry fact = some diagnostic) :
    diagnostic.location.file = fact.location.file ∧ diagnostic.Anchored := by
  unfold evaluateRule at found
  split at found
  case h_1 => contradiction
  case h_2 finding violated =>
    cases found
    have file : (placeOf fact finding.scope).file = fact.location.file := by
      cases finding.scope <;> rfl
    refine ⟨file, fun replacement given => ?_⟩
    cases fix : finding.fix with
    | none => simp [violationAt, Diagnostic.replacement?, fix] at given
    | some text =>
      simp only [violationAt, Diagnostic.replacement?, fix, Option.map_some, Option.bind_some,
        Option.some.injEq] at given
      rw [← given]
      rfl
  all_goals
    cases found
    exact ⟨rfl, fun replacement given => by simp [failure, Diagnostic.replacement?] at given⟩

theorem mem_gathered {evaluator : Evaluator} {facts : List Fact} {diagnostic : Diagnostic} :
    diagnostic ∈ (evaluator.gathered facts).diagnostics ↔
      ∃ fact ∈ facts, isUnmatched evaluator.exclude fact = true ∧
        diagnostic ∈ evaluator.findings fact := by
  simp only [gathered, List.mem_flatMap, mem_visible, and_assoc]

theorem place_of_mem_gathered {evaluator : Evaluator} {facts : List Fact} {diagnostic : Diagnostic}
    (member : diagnostic ∈ (evaluator.gathered facts).diagnostics) :
    ∃ fact ∈ facts, diagnostic.location.file = fact.location.file ∧ diagnostic.Anchored := by
  obtain ⟨fact, present, _, inside⟩ := mem_gathered.mp member
  obtain ⟨entry, _, found⟩ := List.mem_filterMap.mp inside
  exact ⟨fact, present, evaluateRule_place found⟩

theorem evaluate_diagnostics_congr (evaluator : Evaluator) {first second : List Fact}
    (sameFacts : ∀ fact, fact ∈ first ↔ fact ∈ second) (spelledOnce : SpelledOnce first) :
    (evaluator.evaluate first).diagnostics = (evaluator.evaluate second).diagnostics := by
  have members (diagnostic : Diagnostic) :
      diagnostic ∈ (evaluator.gathered first).diagnostics ↔
        diagnostic ∈ (evaluator.gathered second).diagnostics := by
    simp only [mem_gathered, sameFacts]
  have faithful : ∀ one ∈ (evaluator.gathered first).diagnostics,
      ∀ other ∈ (evaluator.gathered first).diagnostics, compare one other = .eq → one = other := by
    intro one oneMember other otherMember tie
    obtain ⟨oneFact, onePresent, oneFile, oneAnchored⟩ := place_of_mem_gathered oneMember
    obtain ⟨otherFact, otherPresent, otherFile, otherAnchored⟩ := place_of_mem_gathered otherMember
    have same := (Diagnostic.compare_eq_iff one other).mp tie
    have sameFile : one.location.file.same other.location.file = true := by
      simp only [Diagnostic.same, Location.same, Bool.and_eq_true] at same
      exact same.1.1.1.2.1.1
    rw [oneFile, otherFile] at sameFile
    have files := spelledOnce oneFact onePresent otherFact otherPresent sameFile
    rw [← oneFile, ← otherFile] at files
    exact Diagnostic.eq_of_same same files oneAnchored otherAnchored
  rw [evaluate_eq, evaluate_eq]
  -- Both reports ascend strictly, so they are equal once they agree on every class of ties.
  apply Order.eq_of_find?_ties (Report.finalize_isDistinctSort _).ascending
    (Report.finalize_isDistinctSort _).ascending
  intro probe
  rw [(Report.finalize_isDistinctSort _).first, (Report.finalize_isDistinctSort _).first]
  exact Order.find?_ties_congr members faithful probe

/-- A project run over the same facts, in whatever order and however often each, reports the same, to
the spelling of every path. If only the order differs, it also checks as many facts. -/
theorem evaluateProject_of_sameFacts (evaluator : Evaluator) {first second : List Fact}
    (sameFacts : ∀ fact, fact ∈ first ↔ fact ∈ second) (spelledOnce : SpelledOnce first) :
    (evaluator.evaluateProject first).diagnostics =
        (evaluator.evaluateProject second).diagnostics ∧
      (first.Perm second → (evaluator.evaluateProject first).factsChecked =
        (evaluator.evaluateProject second).factsChecked) := by
  have joined : Composite.join first = Composite.join second :=
    Composite.join_congr sameFacts fun one onePresent other otherPresent tie =>
      spelledOnce.location onePresent otherPresent tie
  constructor
  · apply evaluator.evaluate_diagnostics_congr _ spelledOnce.append_join
    intro fact
    simp only [List.mem_append, sameFacts, joined]
  · intro permuted
    have checked : (visible evaluator.exclude (first ++ Composite.join first)).Perm
        (visible evaluator.exclude (second ++ Composite.join second)) := by
      rw [joined]
      exact (permuted.append_right _).filter _
    simp only [evaluateProject, evaluate_eq]
    exact checked.length_eq

def bothSidesOfPivot : List Fact :=
  [⟨⟨⟨"app/User.php"⟩, 12, 5⟩, .relation (.mk ⟨"User", "Role", .belongsToMany, "users_roles", none⟩)⟩,
    ⟨⟨⟨"app/Role.php"⟩, 9, 5⟩, .relation (.mk ⟨"Role", "User", .belongsToMany, "users_roles", none⟩)⟩,
    ⟨⟨⟨"schema.sql"⟩, 3, 1⟩, .column (.mk ⟨"users_roles", "user", some "users"⟩)⟩]

theorem evaluateProject_bothSidesOfPivot :
    let evaluator : Evaluator := ⟨.registering Catalogue.databaseRules, some 2, 1, []⟩
    (evaluator.evaluateProject bothSidesOfPivot).diagnostics =
        (evaluator.evaluateProject bothSidesOfPivot.reverse).diagnostics ∧
      (evaluator.evaluateProject bothSidesOfPivot).factsChecked =
        (evaluator.evaluateProject bothSidesOfPivot.reverse).factsChecked := by
  intro evaluator
  have spelledOnce : SpelledOnce bothSidesOfPivot := by
    unfold SpelledOnce
    decide +kernel
  have sameFacts (fact : Fact) : fact ∈ bothSidesOfPivot ↔ fact ∈ bothSidesOfPivot.reverse :=
    List.mem_reverse.symm
  have report := evaluateProject_of_sameFacts evaluator sameFacts spelledOnce
  exact ⟨report.1, report.2 (List.reverse_perm _).symm⟩

end Evaluator

end NamingAudit
