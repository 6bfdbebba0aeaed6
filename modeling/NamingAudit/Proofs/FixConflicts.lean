import NamingAudit.Proofs.IdentifierTexts

/-! What fixes conflict over. A plan knows an identifier by its place, and that is as good as the places
of the facts: two facts whose lines are not known stand at one place, and the fix for one supersedes the
fix for the other. Where places tell the facts apart, the fixes that conflict are about one text. -/

namespace NamingAudit
open Std

theorem FixPlan.Resolves.accepted_not_same {report : Report} {plan : FixPlan}
    (resolves : Resolves report.finalize.diagnostics plan) {fix : PlannedFix}
    (planned : fix ∈ plan.fixes) {loser : Diagnostic} (lost : loser ∈ fix.superseded) :
    ¬ fix.accepted.same loser = true := by
  have ascending := report.finalize_isDistinctSort.ascending.filter (contends fix.key)
  have apart : (report.finalize.diagnostics.filter (contends fix.key)).Pairwise
      fun one other => ¬ one.same other = true := by
    refine ascending.imp fun {one other} less same => ?_
    rw [(Diagnostic.compare_eq_iff one other).mpr same] at less
    contradiction
  have candidates := ((resolves.settled fix planned).perm.pairwise_iff
    fun {one other} unlike same => unlike (Diagnostic.same_comm same)).mpr apart
  exact (List.pairwise_cons.mp candidates).1 loser lost

/-- A fix that stands for all that would rewrite its identifier, by precedence, is in the plan. -/
theorem FixPlan.Resolves.mem_of_sorted {diagnostics : List Diagnostic} {plan : FixPlan}
    (resolves : Resolves diagnostics plan) {fix : PlannedFix}
    (sorted : Order.IsStableSort precedence (diagnostics.filter (contends fix.key)) fix.candidates) :
    fix ∈ plan.fixes := by
  have accepted := sorted.perm.mem_iff.mp List.mem_cons_self
  obtain ⟨reported, contended⟩ := List.mem_filter.mp accepted
  obtain ⟨other, planned, keys, _⟩ := resolves.exists_fix reported contended
  have settled := resolves.settled other planned
  rw [← contends_congr keys] at settled
  have same := (Order.isStableSort_iff.mp sorted).trans (Order.isStableSort_iff.mp settled).symm
  rwa [PlannedFix.eq_of_candidates same]

namespace Evaluator
open FixPlan

section Sources
variable (evaluator : Evaluator) (facts : List Fact)

def examined : List Fact := visible evaluator.exclude (facts ++ Composite.join facts)

def Arises (diagnostic : Diagnostic) (fact : Fact) : Prop :=
  fact ∈ evaluator.examined facts ∧ ∃ made ∈ evaluator.findings fact,
    made.same diagnostic = true

/-- Where a fix supersedes another, the facts behind them carry the same text for what both rewrite. -/
def ConflictsAgree : Prop :=
  ∀ fix ∈ (ofReport (evaluator.evaluateProject facts)).fixes, ∀ loser ∈ fix.superseded,
    ∀ one other, evaluator.Arises facts fix.accepted one → evaluator.Arises facts loser other →
      SameText fix.target one other

end Sources

theorem exists_arises {evaluator : Evaluator} {facts : List Fact} {diagnostic : Diagnostic}
    (reported : diagnostic ∈ (evaluator.evaluateProject facts).diagnostics) :
    ∃ fact, evaluator.Arises facts diagnostic fact := by
  have gathered := (evaluator.evaluate_isDistinctSort _).mem reported
  obtain ⟨fact, seen, found⟩ := List.mem_flatMap.mp gathered
  exact ⟨fact, seen, diagnostic, found, diagnostic.same_self⟩

theorem exists_rivals {evaluator : Evaluator} {facts : List Fact} {one other : Fact}
    (oneSeen : one ∈ evaluator.examined facts) (otherSeen : other ∈ evaluator.examined facts)
    {first second : Diagnostic} (firstFound : first ∈ evaluator.findings one)
    (secondFound : second ∈ evaluator.findings other) {key : FixKey}
    (firstContends : contends key first = true) (secondContends : contends key second = true) :
    ∃ fix ∈ (ofReport (evaluator.evaluateProject facts)).fixes, fix.target = key.target ∧
      (∃ candidate ∈ fix.candidates, first.same candidate = true) ∧
        ∃ candidate ∈ fix.candidates, second.same candidate = true := by
  obtain ⟨fix, planned, keys, candidate⟩ := exists_candidate oneSeen firstFound firstContends
  obtain ⟨rival, rivalPlanned, rivalKeys, candidate'⟩ :=
    exists_candidate otherSeen secondFound secondContends
  obtain rfl := (resolves_ofReport _).eq_of_key planned rivalPlanned
    (TransCmp.eq_trans (OrientedCmp.eq_symm keys) rivalKeys)
  exact ⟨fix, planned, (FixKey.compare_eq_iff.mp keys).2.symm, candidate, candidate'⟩

theorem conflictsAgree_iff_findings {evaluator : Evaluator} {facts : List Fact} :
    evaluator.ConflictsAgree facts ↔
      ∀ one ∈ evaluator.examined facts, ∀ other ∈ evaluator.examined facts,
        ∀ first ∈ evaluator.findings one, ∀ second ∈ evaluator.findings other, ∀ key,
          contends key first = true → contends key second = true → ¬ first.same second = true →
            SameText key.target one other := by
  have resolves := resolves_ofReport (evaluator.evaluateProject facts)
  constructor
  · intro agree one oneSeen other otherSeen first firstFound second secondFound key firstContends
      secondContends unlike
    obtain ⟨fix, planned, target, ⟨candidate, inside, alike⟩, candidate', inside', alike'⟩ :=
      exists_rivals oneSeen otherSeen firstFound secondFound firstContends secondContends
    have source : evaluator.Arises facts candidate one := ⟨oneSeen, first, firstFound, alike⟩
    have source' : evaluator.Arises facts candidate' other :=
      ⟨otherSeen, second, secondFound, alike'⟩
    rw [← target]
    rcases List.mem_cons.mp inside with rfl | lost <;>
      rcases List.mem_cons.mp inside' with rfl | lost'
    · exact absurd (Diagnostic.same_trans alike (Diagnostic.same_comm alike')) unlike
    · exact agree fix planned candidate' lost' one other source source'
    · exact (agree fix planned candidate lost other one source' source).symm
    · -- Both have lost to the same diagnostic, and that has come from some fact.
      obtain ⟨winner, won⟩ := exists_arises (resolves.of_mem planned List.mem_cons_self).1
      exact (agree fix planned candidate lost winner one won source).symm.trans
        (agree fix planned candidate' lost' winner other won source')
  · intro agree fix planned loser lost one other ⟨oneSeen, first, firstFound, alike⟩
      ⟨otherSeen, second, secondFound, alike'⟩
    have accepted := (resolves.of_mem planned List.mem_cons_self).2
    have superseded := (resolves.of_mem planned (List.mem_cons_of_mem _ lost)).2
    refine agree one oneSeen other otherSeen first firstFound second secondFound fix.key
      (contends_of_same (Diagnostic.same_comm alike) accepted)
      (contends_of_same (Diagnostic.same_comm alike') superseded) fun same => ?_
    rw [evaluateProject, evaluate_eq] at resolves planned
    exact resolves.accepted_not_same planned lost
      (Diagnostic.same_trans (Diagnostic.same_comm alike) (Diagnostic.same_trans same alike'))

end Evaluator

namespace Catalogue

theorem target_of_isComposite : ∀ shape ∈ shapes, shape.kind.isComposite = true →
    shape.target = .name := by decide

theorem target_of_scope : ∀ shape ∈ shapes, shape.scope = .file → shape.target = .fileName := by
  decide

end Catalogue

/-- Facts that their places tell apart: what stands at one place says one thing, only a configuration
entry or a view stands for a file as a whole, and those in one file name it alike. -/
structure Distinguishable (facts : List Fact) : Prop where
  apart : ∀ one ∈ facts, ∀ other ∈ facts, one.location.same other.location = true →
    one.payload = other.payload
  lines : ∀ fact ∈ facts, Catalogue.renamingScope fact.kind = .fact → fact.location.line ≠ 0
  files : ∀ one ∈ facts, ∀ other ∈ facts, Catalogue.renamingScope one.kind = .file →
    Catalogue.renamingScope other.kind = .file →
      one.location.file.same other.location.file = true →
        one.payload.identifierText? .fileName = other.payload.identifierText? .fileName

section Origins
variable {preset : Preset} {settings : Settings} {registry : Registry}
  (built : Registry.build preset settings = .ok registry) {facts : List Fact}
include built

theorem Registry.exists_origin {fact : Fact} (member : fact ∈ facts ++ Composite.join facts)
    {target : FixTarget} {scope : Scope} (rewrites : registry.Rewrites fact target scope) :
    ∃ origin ∈ facts, origin.location = fact.location ∧
      origin.payload.identifierText? target = fact.payload.identifierText? target := by
  rcases List.mem_append.mp member with given | joined
  · exact ⟨fact, given, rfl, rfl⟩
  · obtain ⟨shape, listed, kind, rfl, _⟩ := Registry.exists_shape_of_rewrites built rewrites
    have composite := Composite.isComposite_of_mem_join joined
    rw [← kind] at composite
    rw [Catalogue.target_of_isComposite shape listed composite]
    exact Composite.origin_of_mem_join joined

theorem Registry.given_of_file {fact : Fact} (member : fact ∈ facts ++ Composite.join facts)
    {scope : Scope} (rewrites : registry.Rewrites fact .fileName scope) :
    fact ∈ facts ∧ Catalogue.renamingScope fact.kind = scope := by
  obtain ⟨rfl, primary⟩ := Registry.scope_of_rewrites built rewrites
  refine ⟨(List.mem_append.mp member).resolve_right fun joined => ?_, rfl⟩
  rw [Composite.isComposite_of_mem_join joined] at primary
  contradiction

theorem Registry.target_of_file {fact : Fact} {target : FixTarget}
    (rewrites : registry.Rewrites fact target .file) : target = .fileName := by
  obtain ⟨shape, listed, _, rfl, scope⟩ := Registry.exists_shape_of_rewrites built rewrites
  exact Catalogue.target_of_scope shape listed scope

theorem Distinguishable.line_ne_zero (distinguishable : Distinguishable facts) {fact : Fact}
    (member : fact ∈ facts ++ Composite.join facts)
    (rewrites : registry.Rewrites fact .fileName .fact) : fact.location.line ≠ 0 := by
  obtain ⟨given, scope⟩ := Registry.given_of_file built member rewrites
  exact distinguishable.lines fact given scope

theorem Distinguishable.identifierText?_eq (distinguishable : Distinguishable facts)
    {one other : Fact} (oneMember : one ∈ facts ++ Composite.join facts)
    (otherMember : other ∈ facts ++ Composite.join facts) {target : FixTarget}
    {oneScope otherScope : Scope} (oneRewrites : registry.Rewrites one target oneScope)
    (otherRewrites : registry.Rewrites other target otherScope)
    (places : (Evaluator.placeOf one oneScope).same (Evaluator.placeOf other otherScope) = true) :
    one.payload.identifierText? target = other.payload.identifierText? target := by
  obtain ⟨files, lines, _⟩ := Location.same_iff.mp places
  cases oneScope with
  | fact =>
    cases otherScope with
    | fact =>
      obtain ⟨origin, present, place, text⟩ := Registry.exists_origin built oneMember oneRewrites
      obtain ⟨origin', present', place', text'⟩ :=
        Registry.exists_origin built otherMember otherRewrites
      have together : origin.location.same origin'.location = true := by
        rw [place, place']
        exact places
      rw [← text, ← text', distinguishable.apart origin present origin' present' together]
    | file =>
      obtain rfl := Registry.target_of_file built otherRewrites
      exact absurd lines (distinguishable.line_ne_zero built oneMember oneRewrites)
  | file =>
    obtain rfl := Registry.target_of_file built oneRewrites
    cases otherScope with
    | fact => exact absurd lines.symm (distinguishable.line_ne_zero built otherMember otherRewrites)
    | file =>
      obtain ⟨oneGiven, oneScope⟩ := Registry.given_of_file built oneMember oneRewrites
      obtain ⟨otherGiven, otherScope⟩ := Registry.given_of_file built otherMember otherRewrites
      exact distinguishable.files one oneGiven other otherGiven oneScope otherScope
        (SourcePath.same_iff.mpr files)

end Origins

namespace Evaluator
open FixPlan

theorem rewrites_of_found {evaluator : Evaluator} {fact : Fact} {diagnostic : Diagnostic}
    (found : diagnostic ∈ evaluator.findings fact) {key : FixKey}
    (contended : contends key diagnostic = true) :
    ∃ scope, evaluator.registry.Rewrites fact key.target scope ∧
      key.location.same (placeOf fact scope) = true := by
  obtain ⟨entry, applied, made⟩ := List.mem_filterMap.mp found
  obtain ⟨target, scope, rewritten, tie⟩ := exists_contending_iff.mp ⟨diagnostic, made, contended⟩
  obtain ⟨place, sameTarget⟩ := FixKey.compare_eq_iff.mp tie
  rw [sameTarget]
  exact ⟨scope, ⟨entry, applied, rewritten⟩, place⟩

theorem conflictsAgree_of_distinguishable {evaluator : Evaluator} {preset : Preset}
    {settings : Settings} (built : Registry.build preset settings = .ok evaluator.registry)
    {facts : List Fact} (distinguishable : Distinguishable facts) :
    evaluator.ConflictsAgree facts := by
  refine conflictsAgree_iff_findings.mpr ?_
  intro one oneSeen other otherSeen first firstFound second secondFound key firstContends
    secondContends _
  obtain ⟨scope, rewrites, place⟩ := rewrites_of_found firstFound firstContends
  obtain ⟨scope', rewrites', place'⟩ := rewrites_of_found secondFound secondContends
  have places : (placeOf one scope).same (placeOf other scope') = true := by
    rw [← Location.compare_eq_iff] at place place' ⊢
    exact TransCmp.eq_trans (OrientedCmp.eq_symm place) place'
  have equal := distinguishable.identifierText?_eq built (mem_visible.mp oneSeen).1
    (mem_visible.mp otherSeen).1 rewrites rewrites' places
  obtain ⟨text, carried⟩ := Registry.exists_text_of_rewrites built rewrites
  exact ⟨text, carried, equal ▸ carried⟩

/-- With the built-in rules, under any preset and settings, fixes that conflict are about one text exactly
when every two checked facts about which there are unlike findings at one place, under one target, carry
the same text for it. This is so if places tell the facts apart: each place says one thing, facts other
than configuration entries and views have a line, and these name the file that they are in alike. -/
theorem conflictsAgree_iff (evaluator : Evaluator) {preset : Preset} {settings : Settings}
    (built : Registry.build preset settings = .ok evaluator.registry) (facts : List Fact) :
    (evaluator.ConflictsAgree facts ↔
      ∀ one ∈ evaluator.examined facts, ∀ other ∈ evaluator.examined facts,
        ∀ first ∈ evaluator.findings one, ∀ second ∈ evaluator.findings other, ∀ key,
          contends key first = true → contends key second = true → ¬ first.same second = true →
            SameText key.target one other) ∧
      (Distinguishable facts → evaluator.ConflictsAgree facts) :=
  ⟨conflictsAgree_iff_findings, conflictsAgree_of_distinguishable built⟩

/-- Two commands in one file, and a route with an underscore and a slash at its start. -/
def placedFacts : List Fact :=
  [⟨⟨⟨"app/Console/Kernel.php"⟩, 12, 5⟩, .command (.mk ⟨"PruneLogs"⟩)⟩,
    ⟨⟨⟨"app/Console/Kernel.php"⟩, 19, 5⟩, .command (.mk ⟨"SendMail"⟩)⟩,
    ⟨⟨⟨"routes/web.php"⟩, 4, 1⟩, .route (.mk ⟨"/user_posts", .get, none, []⟩)⟩]

theorem conflictsAgree_placedFacts : ∃ registry : Registry,
    Registry.build .recommended .standard = .ok registry ∧
      (∃ fix ∈ (ofReport (evaluateProject ⟨registry, none, 64, []⟩ placedFacts)).fixes,
        fix.superseded ≠ []) ∧
      ConflictsAgree ⟨registry, none, 64, []⟩ placedFacts := by
  obtain ⟨registry, built, standard⟩ := exists_standardReport .recommended
  have distinguishable : Distinguishable placedFacts :=
    ⟨by decide +kernel, by decide +kernel, by decide +kernel⟩
  refine ⟨registry, built, ?_, (conflictsAgree_iff _ built placedFacts).2 distinguishable⟩
  let evaluator : Evaluator := ⟨registry, none, 64, []⟩
  have seen : placedFacts[2] ∈ evaluator.examined placedFacts :=
    mem_visible.mpr ⟨List.mem_append_left _ (List.getElem_mem _), rfl⟩
  let key : FixKey := ⟨placedFacts[2].location, .path⟩
  have rivals : ∃ first ∈ standardFindings .recommended placedFacts[2],
      ∃ second ∈ standardFindings .recommended placedFacts[2], contends key first = true ∧
        contends key second = true ∧ ¬ first.same second = true := by decide +kernel
  rw [← (standard none 64 []).1] at rivals
  obtain ⟨first, found, second, found', contended, contended', unlike⟩ := rivals
  obtain ⟨fix, planned, _, ⟨candidate, inside, alike⟩, candidate', inside', alike'⟩ :=
    exists_rivals seen seen found found' contended contended'
  refine ⟨fix, planned, fun alone => ?_⟩
  rw [PlannedFix.candidates, alone, List.mem_singleton] at inside inside'
  rw [inside] at alike
  rw [inside'] at alike'
  exact unlike (Diagnostic.same_trans alike (Diagnostic.same_comm alike'))

def unplacedCommands : List Fact :=
  [⟨⟨⟨"app/Console/Kernel.php"⟩, 0, 0⟩, .command (.mk ⟨"PruneLogs"⟩)⟩,
    ⟨⟨⟨"app/Console/Kernel.php"⟩, 0, 0⟩, .command (.mk ⟨"SendMail"⟩)⟩]

def unplacedDiagnostic (text : String) : Diagnostic :=
  violationAt ⟨Catalogue.commandRules[0], true, .warning, 20⟩ ⟨⟨"app/Console/Kernel.php"⟩, 0, 0⟩
    (.replacing ("Command names must be kebab-case: expected `" ++ text ++ "`") text)

def unplacedFix : PlannedFix :=
  ⟨unplacedDiagnostic "prune-logs", [unplacedDiagnostic "send-mail"]⟩

theorem unplacedFix_planned {evaluator : Evaluator} (unfiltered : evaluator.exclude = [])
    (findings : evaluator.findings = standardFindings .recommended) :
    unplacedFix ∈ (ofReport (evaluator.evaluateProject unplacedCommands)).fixes := by
  have distinct :=
    evaluator.evaluate_isDistinctSort (unplacedCommands ++ Composite.join unplacedCommands)
  have gathered : (visible [] (unplacedCommands ++ Composite.join unplacedCommands)).flatMap
      (standardFindings .recommended) = unplacedFix.candidates := by decide +kernel
  rw [Evaluator.gathered, unfiltered, findings, gathered] at distinct
  have reported : (evaluator.evaluateProject unplacedCommands).diagnostics =
      unplacedFix.candidates := distinct.unique ⟨by decide +kernel, fun _ => rfl⟩
  have contending : unplacedFix.candidates.filter (contends unplacedFix.key) =
      unplacedFix.candidates := by decide +kernel
  apply (resolves_ofReport _).mem_of_sorted
  rw [reported, contending]
  exact ⟨.refl _, by decide +kernel, fun _ => rfl⟩

/-- The fix for one of the commands supersedes the fix for the other. -/
theorem superseded_unplacedCommands : ∃ registry : Registry,
    Registry.build .recommended .standard = .ok registry ∧
      ∃ fix ∈ (ofReport (evaluateProject ⟨registry, none, 64, []⟩ unplacedCommands)).fixes,
        ∃ loser ∈ fix.superseded, fix.newText = "prune-logs" ∧ loser.fixText? = some "send-mail" ∧
          ∀ one other, Arises ⟨registry, none, 64, []⟩ unplacedCommands fix.accepted one →
            Arises ⟨registry, none, 64, []⟩ unplacedCommands loser other →
              ¬ SameText fix.target one other := by
  obtain ⟨registry, built, standard⟩ := exists_standardReport .recommended
  obtain ⟨findings, _⟩ := standard none 64 []
  have seen : visible [] (unplacedCommands ++ Composite.join unplacedCommands) =
      unplacedCommands := by decide +kernel
  have apart : ∀ one ∈ unplacedCommands, ∀ other ∈ unplacedCommands,
      ∀ made ∈ standardFindings .recommended one, made.same unplacedFix.accepted = true →
        ∀ made' ∈ standardFindings .recommended other,
          made'.same (unplacedDiagnostic "send-mail") = true →
            one.payload.identifierText? .name ≠ other.payload.identifierText? .name := by
    decide +kernel
  refine ⟨registry, built, unplacedFix, unplacedFix_planned rfl findings,
    unplacedDiagnostic "send-mail", List.mem_cons_self, rfl, rfl, ?_⟩
  rintro one other ⟨oneSeen, made, found, same⟩ ⟨otherSeen, made', found', same'⟩
    ⟨text, oneText, otherText⟩
  rw [examined, seen] at oneSeen otherSeen
  rw [findings] at found found'
  exact apart one oneSeen other otherSeen made found same made' found' same'
    (oneText.trans otherText.symm)

end Evaluator

end NamingAudit
