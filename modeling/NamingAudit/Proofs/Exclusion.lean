import NamingAudit.Proofs.FactOrder

/-! What excluded files do to a project run. Their facts are not checked, but the join comes first and
reads them with all others: a table that a vendor declares can name the model behind a foreign key of
the project. The composites that they change, or hide by standing at a lesser place, are all that they
change. -/

namespace NamingAudit
open Std

namespace Evaluator

def Unaffected (patterns : List Glob.Pattern) (facts : List Fact) : Prop :=
  ∀ (registry : Registry) workers batchSize,
    (Evaluator.mk registry workers batchSize patterns).evaluateProject facts =
      (Evaluator.mk registry workers batchSize patterns).evaluateProject (visible patterns facts)

def SameComposites (patterns : List Glob.Pattern) (facts : List Fact) : Prop :=
  visible patterns (Composite.join facts) =
    visible patterns (Composite.join (visible patterns facts))

theorem unaffected_of_sameComposites {patterns : List Glob.Pattern} {facts : List Fact}
    (same : SameComposites patterns facts) : Unaffected patterns facts := by
  intro registry workers batchSize
  simp only [evaluateProject, evaluate_eq, gathered, visible_append, visible_visible]
  rw [same]

def probe (target : Fact) : Rule where
  id := "probe"
  code := "CL900"
  description := "Reports one fact"
  appliesTo := target.kind
  defaultSeverity := .error
  check fact := .verdict (if fact = target then .violation (.plain "found") else .pass)

theorem findings_probe {evaluator : Evaluator} {target : Fact}
    (probing : evaluator.registry = .registering [probe target]) (fact : Fact) :
    evaluator.findings fact = [] ↔ fact ≠ target := by
  have entries : evaluator.registry.entries = [⟨probe target, true, .error, 0⟩] := by
    rw [probing]
    rfl
  rw [evaluator.findings_eq, entries]
  by_cases same : fact = target
  · subst same
    simp [probe, evaluateRule]
  · simp [probe, evaluateRule, same]

theorem evaluateProject_probe (evaluator : Evaluator) {target : Fact}
    (probing : evaluator.registry = .registering [probe target]) (facts : List Fact) :
    (evaluator.evaluateProject facts).diagnostics = [] ↔
      target ∉ visible evaluator.exclude (facts ++ Composite.join facts) := by
  rw [evaluateProject, evaluate_eq, (Report.finalize_isDistinctSort _).eq_nil_iff, gathered,
    List.flatMap_eq_nil_iff]
  simp only [findings_probe probing]
  constructor
  · intro silent member
    exact silent target member rfl
  · rintro absent fact member rfl
    exact absent member

theorem sameComposites_of_unaffected {patterns : List Glob.Pattern} {facts : List Fact}
    (unaffected : Unaffected patterns facts)
    (primary : ∀ fact ∈ facts, fact.kind.isComposite = false) : SameComposites patterns facts := by
  have joined {target : Fact} (isComposite : target.kind.isComposite = true)
      (given : List Fact) (included : ∀ fact ∈ given, fact ∈ facts) :
      target ∈ visible patterns (given ++ Composite.join given) ↔
        target ∈ visible patterns (Composite.join given) := by
    have other : target ∉ visible patterns given := by
      intro member
      have present := included target (mem_visible.mp member).1
      rw [primary target present] at isComposite
      contradiction
    rw [visible_append, List.mem_append, or_iff_right other]
  apply Order.eq_of_mem_iff ((Composite.join_ascending facts).filter _)
    ((Composite.join_ascending (visible patterns facts)).filter _)
  intro target
  by_cases isComposite : target.kind.isComposite = true
  · -- A probe for the composite is silent in both runs or in neither.
    let evaluator : Evaluator := ⟨.registering [probe target], none, 1, patterns⟩
    have reports : evaluator.evaluateProject facts =
        evaluator.evaluateProject (visible patterns facts) :=
      unaffected _ none 1
    have whole := evaluator.evaluateProject_probe rfl facts
    have part := evaluator.evaluateProject_probe rfl (visible patterns facts)
    rw [reports, part, not_iff_not, joined isComposite facts fun _ => id,
      joined isComposite (visible patterns facts) fun _ member => (mem_visible.mp member).1]
      at whole
    exact whole.symm
  · have absent (given : List Fact) : target ∉ (Composite.join given).filter (isUnmatched patterns) :=
      fun member => isComposite (Composite.isComposite_of_mem_join (List.mem_filter.mp member).1)
    simp only [absent]

theorem sameComposites_of_unread {patterns : List Glob.Pattern} {facts : List Fact}
    (unread : ∀ fact ∈ facts, isUnmatched patterns fact = false →
      Composite.reads fact.payload = false) : SameComposites patterns facts := by
  have joined : Composite.join (visible patterns facts) = Composite.join facts :=
    Composite.join_filter unread
  rw [SameComposites, joined]

/-- Excluded facts reach a report through the join and in no other way. A project run comes out the
same without them if the same composites are joined in the files that are checked and, unless there
are composites among the facts themselves, only then. Excluded facts that the join does not read
change no composite. -/
theorem exclusion_acts_through_join (patterns : List Glob.Pattern) (facts : List Fact) :
    (SameComposites patterns facts → Unaffected patterns facts) ∧
      ((∀ fact ∈ facts, fact.kind.isComposite = false) → Unaffected patterns facts →
        SameComposites patterns facts) ∧
      ((∀ fact ∈ facts, isUnmatched patterns fact = false →
        Composite.reads fact.payload = false) → SameComposites patterns facts) :=
  ⟨unaffected_of_sameComposites, fun primary unaffected =>
    sameComposites_of_unaffected unaffected primary, sameComposites_of_unread⟩

def columnBesideVendorCommand : List Fact :=
  [⟨⟨⟨"vendor/acl/Sync.php"⟩, 8, 1⟩, .command (.mk ⟨"SyncRoles"⟩)⟩,
    ⟨⟨⟨"database/schema.sql"⟩, 4, 3⟩, .column (.mk ⟨"users", "role_id", some "roles"⟩)⟩]

theorem unaffected_by_vendorCommand :
    SameComposites vendorPatterns columnBesideVendorCommand ∧
      Unaffected vendorPatterns columnBesideVendorCommand := by
  obtain ⟨sufficient, necessary, unread⟩ :=
    exclusion_acts_through_join vendorPatterns columnBesideVendorCommand
  have unaffected := sufficient (unread (by decide +kernel))
  exact ⟨necessary (by decide +kernel) unaffected, unaffected⟩

def columnOfVendorTable : List Fact :=
  [⟨⟨⟨"vendor/acl/schema.sql"⟩, 1, 1⟩, .table (.mk ⟨"roles", some "AclRole", false⟩)⟩,
    ⟨⟨⟨"database/schema.sql"⟩, 4, 3⟩, .column (.mk ⟨"users", "role_id", some "roles"⟩)⟩]

/-- The table of the vendor is excluded, and yet the column is blamed for it. -/
theorem affected_by_vendorTable :
    let evaluator : Evaluator := ⟨.registering Catalogue.databaseRules, none, 1, vendorPatterns⟩
    ["vendor/**"].mapM Glob.Pattern.compile = .ok vendorPatterns ∧
      (evaluator.evaluateProject columnOfVendorTable).diagnostics.map Diagnostic.display =
        ["database/schema.sql:4:3: error [CL034] Foreign key `users.role_id` must be named after " ++
          "model `AclRole`: expected `acl_role_id`"] ∧
      (evaluator.evaluateProject (visible vendorPatterns columnOfVendorTable)).diagnostics = [] ∧
      ¬ Unaffected vendorPatterns columnOfVendorTable := by
  intro evaluator
  have blamed : (evaluator.evaluateProject columnOfVendorTable).diagnostics.map Diagnostic.display =
      ["database/schema.sql:4:3: error [CL034] Foreign key `users.role_id` must be named after " ++
        "model `AclRole`: expected `acl_role_id`"] := by
    let complaint := violationAt ⟨Catalogue.databaseRules[4], true, .error, 4⟩
      ⟨⟨"database/schema.sql"⟩, 4, 3⟩
      (.replacing ("Foreign key `users.role_id` must be named after model `AclRole`: expected " ++
        "`acl_role_id`") "acl_role_id")
    have found : (evaluator.gathered
        (columnOfVendorTable ++ Composite.join columnOfVendorTable)).diagnostics = [complaint] := by
      decide +kernel
    have alone : Order.sort compare [complaint] = [complaint] := List.mergeSort_singleton _
    rw [evaluateProject, evaluate_eq, Report.finalize, Report.sorted, found, alone]
    decide +kernel
  have silent : (evaluator.evaluateProject (visible vendorPatterns columnOfVendorTable)).diagnostics =
      [] := by
    rw [evaluateProject, evaluate_eq, (Report.finalize_isDistinctSort _).eq_nil_iff]
    decide +kernel
  refine ⟨rfl, blamed, silent, fun unaffected => ?_⟩
  have reports := unaffected (.registering Catalogue.databaseRules) none 1
  rw [reports, silent] at blamed
  contradiction

end Evaluator

end NamingAudit
