import NamingAudit.Proofs.BuiltRegistry
import NamingAudit.Proofs.Evaluation
import NamingAudit.Proofs.FixPlan
import NamingAudit.Proofs.FixTargets
import NamingAudit.Proofs.Join

/-! How often a fix plan renames a file. The plan has one fix for an identifier, which is known by its
place. The file of a configuration entry or a view is the same place for all facts in it. The file of
a class or a migration is known by the line and column of the fact, so that two of them in one file
are two identifiers, and each may give the file a name of its own. -/

namespace NamingAudit
open Std

theorem Diagnostic.sameReplacement {first second : Diagnostic} (same : first.same second = true) :
    sameOption Replacement.same first.replacement? second.replacement? = true := by
  simp only [Diagnostic.same, Bool.and_eq_true] at same
  have suggestions := same.1.2
  rw [replacement?, replacement?]
  cases one : first.suggestion <;> cases other : second.suggestion <;> rw [one, other] at suggestions
  case none.none => rfl
  case some.some suggestion suggestion' =>
    have both : suggestion.same suggestion' = true := suggestions
    simp only [Suggestion.same, Bool.and_eq_true] at both
    exact both.2
  all_goals contradiction

theorem FixKey.sameFile_congr {first second first' second' : FixKey}
    (one : compare first first' = .eq) (other : compare second second' = .eq) :
    first.location.file.same second.location.file =
      first'.location.file.same second'.location.file := by
  have oneFile := (Location.same_iff.mp (FixKey.compare_eq_iff.mp one).1).1
  have otherFile := (Location.same_iff.mp (FixKey.compare_eq_iff.mp other).1).1
  rw [SourcePath.same, SourcePath.same, oneFile, otherFile]

namespace FixPlan

theorem contends_of_same {key : FixKey} {first second : Diagnostic}
    (same : first.same second = true) (contended : contends key first = true) :
    contends key second = true := by
  obtain ⟨replacement, given, tie⟩ := contends_iff.mp contended
  have both := Diagnostic.sameReplacement same
  rw [given] at both
  cases kept : second.replacement? with
  | none =>
    rw [kept] at both
    contradiction
  | some other =>
    rw [kept] at both
    have alike : replacement.same other = true := both
    simp only [Replacement.same, Bool.and_eq_true, beq_iff_eq] at alike
    have keys : compare replacement.key other.key = .eq := FixKey.compare_eq_iff.mpr alike.1
    exact contends_iff.mpr ⟨other, kept, TransCmp.eq_trans tie keys⟩

def NamesFilesOnce (plan : FixPlan) : Prop :=
  ∀ first ∈ plan.fixes, ∀ second ∈ plan.fixes,
    first.target = .fileName → second.target = .fileName →
      first.location.file.same second.location.file = true → first = second

end FixPlan

def Outcome.rewrites (target : FixTarget) (scope : Scope) : Outcome → Bool
  | .verdict (.violation finding) =>
    finding.fix.isSome && finding.target == target && finding.scope == scope
  | _ => false

theorem Outcome.rewrites_iff {target : FixTarget} {scope : Scope} {outcome : Outcome} :
    outcome.rewrites target scope = true ↔
      ∃ message text, outcome = .verdict (.violation ⟨message, some text, target, scope⟩) := by
  constructor
  · intro holds
    unfold rewrites at holds
    split at holds
    case h_1 finding =>
      obtain ⟨message, fix, found, reported⟩ := finding
      simp only [Bool.and_eq_true, beq_iff_eq, Option.isSome_iff_exists] at holds
      obtain ⟨⟨⟨text, rfl⟩, rfl⟩, rfl⟩ := holds
      exact ⟨message, text, rfl⟩
    case h_2 => contradiction
  · rintro ⟨message, text, rfl⟩
    simp [rewrites]

/-- An enabled rule finds that an identifier of the fact should be replaced. -/
def Registry.Rewrites (registry : Registry) (fact : Fact) (target : FixTarget) (scope : Scope) :
    Prop :=
  ∃ entry ∈ registry.rulesFor fact.kind, (entry.rule.check fact).rewrites target scope = true

namespace Evaluator
open FixPlan

def keyOf (fact : Fact) (target : FixTarget) (scope : Scope) : FixKey :=
  ⟨placeOf fact scope, target⟩

theorem exists_contending_iff {entry : RegisteredRule} {fact : Fact} {key : FixKey} :
    (∃ diagnostic, evaluateRule entry fact = some diagnostic ∧ contends key diagnostic = true) ↔
      ∃ target scope, (entry.rule.check fact).rewrites target scope = true ∧
        compare key (keyOf fact target scope) = .eq := by
  constructor
  · rintro ⟨diagnostic, found, contended⟩
    obtain ⟨replacement, given, tie⟩ := contends_iff.mp contended
    unfold evaluateRule at found
    split at found
    case h_1 => contradiction
    case h_2 finding violated =>
      cases found
      obtain ⟨message, fix, target, scope⟩ := finding
      cases fix with
      | none => contradiction
      | some text =>
        cases given
        exact ⟨target, scope, Outcome.rewrites_iff.mpr ⟨message, text, violated⟩, tie⟩
    all_goals
      cases found
      contradiction
  · rintro ⟨target, scope, rewritten, tie⟩
    obtain ⟨message, text, violated⟩ := Outcome.rewrites_iff.mp rewritten
    refine ⟨_, by rw [evaluateRule, violated], ?_⟩
    exact contends_iff.mpr ⟨_, rfl, tie⟩

theorem evaluate_isDistinctSort (evaluator : Evaluator) (checked : List Fact) :
    Order.IsDistinctSort compare (evaluator.gathered checked).diagnostics
      (evaluator.evaluate checked).diagnostics := by
  rw [evaluate_eq]
  exact Report.finalize_isDistinctSort _

theorem exists_candidate {evaluator : Evaluator} {checked : List Fact} {fact : Fact}
    (seen : fact ∈ visible evaluator.exclude checked) {diagnostic : Diagnostic}
    (found : diagnostic ∈ evaluator.findings fact) {key : FixKey}
    (contended : contends key diagnostic = true) :
    ∃ fix ∈ (ofReport (evaluator.evaluate checked)).fixes, compare key fix.key = .eq ∧
      ∃ candidate ∈ fix.candidates, diagnostic.same candidate = true := by
  have gathered : diagnostic ∈ (evaluator.gathered checked).diagnostics :=
    List.mem_flatMap.mpr ⟨fact, seen, found⟩
  obtain ⟨reported, member, tie⟩ := (evaluator.evaluate_isDistinctSort checked).exists_tie gathered
  have same := (Diagnostic.compare_eq_iff diagnostic reported).mp tie
  obtain ⟨fix, planned, keys, inside⟩ :=
    (resolves_ofReport _).exists_fix member (contends_of_same same contended)
  exact ⟨fix, planned, keys, reported, inside, same⟩

/-- The plan has a fix for an identifier exactly when an enabled rule would rewrite it. -/
theorem exists_fix_iff (evaluator : Evaluator) (facts : List Fact) (key : FixKey) :
    (∃ fix ∈ (ofReport (evaluator.evaluate facts)).fixes, compare key fix.key = .eq) ↔
      ∃ fact ∈ visible evaluator.exclude facts, ∃ target scope,
        evaluator.registry.Rewrites fact target scope ∧
          compare key (keyOf fact target scope) = .eq := by
  have resolves := resolves_ofReport (evaluator.evaluate facts)
  constructor
  · rintro ⟨fix, member, same⟩
    obtain ⟨reported, contended⟩ := resolves.of_mem member List.mem_cons_self
    rw [← contends_congr same] at contended
    obtain ⟨fact, present, inside⟩ :=
      List.mem_flatMap.mp ((evaluator.evaluate_isDistinctSort facts).mem reported)
    obtain ⟨entry, applied, found⟩ := List.mem_filterMap.mp inside
    obtain ⟨target, scope, rewritten, tie⟩ := exists_contending_iff.mp ⟨_, found, contended⟩
    exact ⟨fact, present, target, scope, ⟨entry, applied, rewritten⟩, tie⟩
  · rintro ⟨fact, present, target, scope, ⟨entry, applied, rewritten⟩, tie⟩
    obtain ⟨diagnostic, made, contended⟩ :=
      exists_contending_iff.mpr ⟨target, scope, rewritten, tie⟩
    have found : diagnostic ∈ evaluator.findings fact :=
      List.mem_filterMap.mpr ⟨entry, applied, made⟩
    obtain ⟨fix, planned, same, _⟩ := exists_candidate present found contended
    exact ⟨fix, planned, same⟩

theorem keyOf_file (fact : Fact) (target : FixTarget) (scope : Scope) :
    (keyOf fact target scope).location.file = fact.location.file := by
  cases scope <;> rfl

section Places
variable (evaluator : Evaluator) {facts : List Fact}

theorem fix_of_rewrites {fact : Fact} (seen : fact ∈ visible evaluator.exclude facts)
    {target : FixTarget} {scope : Scope} (rewrites : evaluator.registry.Rewrites fact target scope) :
    ∃ fix ∈ (ofReport (evaluator.evaluate facts)).fixes,
      compare (keyOf fact target scope) fix.key = .eq :=
  (evaluator.exists_fix_iff facts _).mpr
    ⟨fact, seen, target, scope, rewrites, ReflCmp.compare_self⟩

theorem rewrites_of_fix {fix : PlannedFix}
    (planned : fix ∈ (ofReport (evaluator.evaluate facts)).fixes) :
    ∃ fact ∈ visible evaluator.exclude facts, ∃ scope,
      evaluator.registry.Rewrites fact fix.target scope ∧
        compare fix.key (keyOf fact fix.target scope) = .eq := by
  obtain ⟨fact, seen, target, scope, rewrites, tie⟩ :=
    (evaluator.exists_fix_iff facts fix.key).mp ⟨fix, planned, ReflCmp.compare_self⟩
  have same : fix.target = target := (FixKey.compare_eq_iff.mp tie).2
  rw [← same] at rewrites tie
  exact ⟨fact, seen, scope, rewrites, tie⟩

theorem namesFilesOnce_iff_places (facts : List Fact) :
    NamesFilesOnce (ofReport (evaluator.evaluate facts)) ↔
      ∀ one ∈ visible evaluator.exclude facts, ∀ other ∈ visible evaluator.exclude facts,
        ∀ oneScope otherScope, evaluator.registry.Rewrites one .fileName oneScope →
          evaluator.registry.Rewrites other .fileName otherScope →
            one.location.file.same other.location.file = true →
              (placeOf one oneScope).same (placeOf other otherScope) = true := by
  constructor
  · intro once one oneSeen other otherSeen oneScope otherScope oneRewritten otherRewritten files
    obtain ⟨first, firstPlanned, firstTie⟩ := evaluator.fix_of_rewrites oneSeen oneRewritten
    obtain ⟨second, secondPlanned, secondTie⟩ := evaluator.fix_of_rewrites otherSeen otherRewritten
    have firstTarget : first.target = .fileName := (FixKey.compare_eq_iff.mp firstTie).2.symm
    have secondTarget : second.target = .fileName := (FixKey.compare_eq_iff.mp secondTie).2.symm
    have sameFile : first.key.location.file.same second.key.location.file = true := by
      rwa [← FixKey.sameFile_congr firstTie secondTie, keyOf_file, keyOf_file]
    obtain rfl :=
      once first firstPlanned second secondPlanned firstTarget secondTarget sameFile
    have tie := TransCmp.eq_trans firstTie (OrientedCmp.eq_symm secondTie)
    exact (FixKey.compare_eq_iff.mp tie).1
  · intro apart first firstPlanned second secondPlanned firstTarget secondTarget files
    obtain ⟨one, oneSeen, oneScope, oneRewritten, oneTie⟩ := evaluator.rewrites_of_fix firstPlanned
    obtain ⟨other, otherSeen, otherScope, otherRewritten, otherTie⟩ :=
      evaluator.rewrites_of_fix secondPlanned
    rw [firstTarget] at oneRewritten oneTie
    rw [secondTarget] at otherRewritten otherTie
    have sameFile : one.location.file.same other.location.file = true := by
      rw [← keyOf_file one .fileName oneScope, ← keyOf_file other .fileName otherScope,
        ← FixKey.sameFile_congr oneTie otherTie]
      exact files
    have samePlace := apart one oneSeen other otherSeen oneScope otherScope oneRewritten
      otherRewritten sameFile
    have same : compare (keyOf one .fileName oneScope) (keyOf other .fileName otherScope) = .eq :=
      FixKey.compare_eq_iff.mpr ⟨samePlace, rfl⟩
    have tie := TransCmp.eq_trans oneTie (TransCmp.eq_trans same (OrientedCmp.eq_symm otherTie))
    exact (resolves_ofReport _).eq_of_key firstPlanned secondPlanned tie

end Places

end Evaluator

namespace Catalogue

def renamingScope : FactKind → Scope
  | .configEntry => .file
  | .view => .file
  | _ => .fact

theorem scope_of_fileName : ∀ shape ∈ shapes, shape.target = .fileName →
    shape.scope = renamingScope shape.kind ∧ shape.kind.isComposite = false := by
  decide

end Catalogue

theorem Registry.exists_shape_of_rewrites {preset : Preset} {settings : Settings}
    {registry : Registry} (built : build preset settings = .ok registry) {fact : Fact}
    {target : FixTarget} {scope : Scope} (rewrites : registry.Rewrites fact target scope) :
    ∃ shape ∈ Catalogue.shapes,
      shape.kind = fact.kind ∧ shape.target = target ∧ shape.scope = scope := by
  obtain ⟨entry, applied, rewritten⟩ := rewrites
  obtain ⟨message, text, violated⟩ := Outcome.rewrites_iff.mp rewritten
  rw [rulesFor_eq] at applied
  obtain ⟨member, accepts⟩ := List.mem_filter.mp applied
  simp only [Bool.and_eq_true, beq_iff_eq] at accepts
  have builtIn : entry.rule ∈ Catalogue.rules (.ofSettings settings) :=
    rules_of_build built ▸ List.mem_map_of_mem member
  obtain ⟨shape, listed, shaped⟩ := Catalogue.exists_shape builtIn
  obtain ⟨sameTarget, sameScope⟩ := (shaped.fixes fact _ violated).eq_of_fix rfl
  exact ⟨shape, listed, shaped.kind.symm.trans accepts.2, sameTarget.symm, sameScope.symm⟩

theorem Registry.scope_of_rewrites {preset : Preset} {settings : Settings} {registry : Registry}
    (built : build preset settings = .ok registry) {fact : Fact} {scope : Scope}
    (rewrites : registry.Rewrites fact .fileName scope) :
    scope = Catalogue.renamingScope fact.kind ∧ fact.kind.isComposite = false := by
  obtain ⟨shape, listed, kind, target, rfl⟩ := exists_shape_of_rewrites built rewrites
  rw [← kind]
  exact Catalogue.scope_of_fileName shape listed target

def Registry.IsMisnamed (registry : Registry) (fact : Fact) : Prop :=
  ∃ scope, registry.Rewrites fact .fileName scope

namespace Evaluator
open FixPlan

def renamingPlace (fact : Fact) : Location := placeOf fact (Catalogue.renamingScope fact.kind)

/-- With the built-in rules, under any preset and settings, no file is given two names exactly when no
two misnamed facts in one file report it at different places. A configuration entry and a view report
it for the file as a whole, a class and a migration at their own line and column. -/
theorem namesFilesOnce_iff (evaluator : Evaluator) {preset : Preset} {settings : Settings}
    (built : Registry.build preset settings = .ok evaluator.registry) (facts : List Fact) :
    NamesFilesOnce (ofReport (evaluator.evaluateProject facts)) ↔
      ∀ first ∈ visible evaluator.exclude facts, ∀ second ∈ visible evaluator.exclude facts,
        evaluator.registry.IsMisnamed first → evaluator.registry.IsMisnamed second →
          first.location.file.same second.location.file = true →
            (renamingPlace first).same (renamingPlace second) = true := by
  rw [evaluateProject, namesFilesOnce_iff_places, visible_append]
  constructor
  · rintro apart first firstVisible second secondVisible ⟨firstScope, firstRewritten⟩
      ⟨secondScope, secondRewritten⟩ files
    have places := apart first (List.mem_append_left _ firstVisible) second
      (List.mem_append_left _ secondVisible) firstScope secondScope firstRewritten secondRewritten
      files
    rwa [(Registry.scope_of_rewrites built firstRewritten).1,
      (Registry.scope_of_rewrites built secondRewritten).1] at places
  · intro apart one oneVisible other otherVisible oneScope otherScope oneRewritten otherRewritten
      files
    -- No rule for composites renames a file.
    have given (fact : Fact) (scope : Scope)
        (member : fact ∈ visible evaluator.exclude facts ++
          visible evaluator.exclude (Composite.join facts))
        (rewritten : evaluator.registry.Rewrites fact .fileName scope) :
        fact ∈ visible evaluator.exclude facts := by
      refine (List.mem_append.mp member).resolve_right fun joined => ?_
      have composite := Composite.isComposite_of_mem_join (mem_visible.mp joined).1
      rw [(Registry.scope_of_rewrites built rewritten).2] at composite
      contradiction
    have places := apart one (given one oneScope oneVisible oneRewritten) other
      (given other otherScope otherVisible otherRewritten) ⟨oneScope, oneRewritten⟩
      ⟨otherScope, otherRewritten⟩ files
    rwa [(Registry.scope_of_rewrites built oneRewritten).1,
      (Registry.scope_of_rewrites built otherRewritten).1]

theorem exists_standard (preset : Preset) : ∃ registry : Registry,
    Registry.build preset .standard = .ok registry ∧ ∀ kind, registry.rulesFor kind =
      ((Catalogue.rules .standard).mapIdx (Registry.configured preset .standard)).filter fun entry =>
        entry.enabled && entry.rule.appliesTo == kind := by
  obtain ⟨registry, entries, built⟩ := Registry.build_eq preset .standard
  refine ⟨registry, built, fun kind => ?_⟩
  rw [Registry.rulesFor_eq, entries]
  rfl

def standardFindings (preset : Preset) (fact : Fact) : List Diagnostic :=
  (((Catalogue.rules .standard).mapIdx (Registry.configured preset .standard)).filter fun entry =>
    entry.enabled && entry.rule.appliesTo == fact.kind).filterMap
      fun entry => evaluateRule entry fact

def standardReport (preset : Preset) (exclude : List Glob.Pattern) (facts : List Fact) : Report :=
  let checked := visible exclude facts
  Report.finalize ⟨checked.flatMap (standardFindings preset), checked.length⟩

theorem exists_standardReport (preset : Preset) : ∃ registry : Registry,
    Registry.build preset .standard = .ok registry ∧ ∀ workers batchSize exclude,
      (Evaluator.mk registry workers batchSize exclude).findings = standardFindings preset ∧
        ∀ facts, (Evaluator.mk registry workers batchSize exclude).evaluate facts =
          standardReport preset exclude facts := by
  obtain ⟨registry, built, rulesFor⟩ := exists_standard preset
  refine ⟨registry, built, fun workers batchSize exclude => ?_⟩
  have found : (Evaluator.mk registry workers batchSize exclude).findings =
      standardFindings preset := by
    funext fact
    rw [findings, rulesFor]
    rfl
  refine ⟨found, fun facts => ?_⟩
  rw [evaluate_eq, gathered, found]
  rfl

def twoConfigEntries : List Fact :=
  [⟨⟨⟨"config/Mail_Services.php"⟩, 3, 5⟩, .configEntry (.mk ⟨"config/Mail_Services.php", "driver"⟩)⟩,
    ⟨⟨⟨"config/Mail_Services.php"⟩, 9, 5⟩, .configEntry (.mk ⟨"config/Mail_Services.php", "from.name"⟩)⟩]

theorem namesFilesOnce_twoConfigEntries : ∃ registry : Registry,
    Registry.build .recommended .standard = .ok registry ∧
      (∀ fact ∈ twoConfigEntries, registry.IsMisnamed fact) ∧
      NamesFilesOnce (ofReport (evaluateProject ⟨registry, none, 64, []⟩ twoConfigEntries)) := by
  obtain ⟨registry, built, rulesFor⟩ := exists_standard .recommended
  refine ⟨registry, built, ?_, ?_⟩
  · have renamed : ∀ fact ∈ twoConfigEntries, registry.Rewrites fact .fileName .file := by
      simp only [Registry.Rewrites, rulesFor]
      decide +kernel
    exact fun fact member => ⟨.file, renamed fact member⟩
  · refine (namesFilesOnce_iff ⟨registry, none, 64, []⟩ built twoConfigEntries).mpr ?_
    have together : ∀ first ∈ twoConfigEntries, ∀ second ∈ twoConfigEntries,
        (renamingPlace first).same (renamingPlace second) = true := by decide +kernel
    intro first firstVisible second secondVisible _ _ _
    exact together first (mem_visible.mp firstVisible).1 second (mem_visible.mp secondVisible).1

def twoClasses : List Fact :=
  [⟨⟨⟨"app/Models/Users.php"⟩, 3, 7⟩, .classDecl (.mk ⟨"User", .model, some "Users.php"⟩)⟩,
    ⟨⟨⟨"app/Models/Users.php"⟩, 20, 7⟩, .classDecl (.mk ⟨"Post", .model, some "Users.php"⟩)⟩]

/-- Two classes in one file that is named after neither give it a name each. -/
theorem renamesTwice_twoClasses : ∃ registry : Registry,
    Registry.build .recommended .standard = .ok registry ∧
      ¬ NamesFilesOnce (ofReport (evaluateProject ⟨registry, none, 64, []⟩ twoClasses)) := by
  obtain ⟨registry, built, rulesFor⟩ := exists_standard .recommended
  let evaluator : Evaluator := ⟨registry, none, 64, []⟩
  have renamed : ∀ fact ∈ twoClasses, registry.Rewrites fact .fileName .fact := by
    simp only [Registry.Rewrites, rulesFor]
    decide +kernel
  have present : ∀ fact ∈ twoClasses,
      fact ∈ visible evaluator.exclude (twoClasses ++ Composite.join twoClasses) :=
    fun fact member => mem_visible.mpr ⟨List.mem_append_left _ member, rfl⟩
  refine ⟨registry, built, fun once => ?_⟩
  have places := (namesFilesOnce_iff_places evaluator _).mp once
  have together := places twoClasses[0] (present _ (by decide)) twoClasses[1] (present _ (by decide))
    .fact .fact (renamed _ (by decide)) (renamed _ (by decide)) (by decide +kernel)
  revert together
  decide +kernel

end Evaluator

end NamingAudit
