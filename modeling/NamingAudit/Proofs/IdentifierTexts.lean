import NamingAudit.Proofs.BuiltInChecks
import NamingAudit.Proofs.Contributions
import NamingAudit.Proofs.FileRenames

/-! What facts carry of that which is rewritten. A built-in rule only rewrites identifiers that the fact
has a text for, and a composite has the text of a fact that it was joined from. -/

namespace NamingAudit

/-- The text of the identifier that a target names. A relation declares a pivot table or a foreign key. -/
def Fact.Payload.identifierText? : Payload → FixTarget → Option String
  | .classDecl decl, .name => some decl.name
  | .classDecl decl, .fileName => decl.fileName
  | .method decl, .name => some decl.name
  | .route decl, .name => decl.name
  | .route decl, .path => some decl.path
  | .configEntry entry, .fileName => some entry.file
  | .configEntry entry, .key => some entry.key
  | .migration file, .fileName => some file.name
  | .view file, .fileName => some file.path
  | .table decl, .name => some decl.name
  | .column decl, .name => some decl.name
  | .relation decl, .name =>
    match decl.relation with
    | .belongsToMany => decl.table
    | .belongsTo => decl.foreignKey
    | _ => none
  | .command decl, .name => some decl.name
  | .validationRule rule, .name => some rule.identifier
  | .pivotTable pivot, .name => some pivot.table
  | .foreignKey key, .name => some key.column
  | _, _ => none

namespace Rule

def PassesWithout (rule : Rule) (target : FixTarget) : Prop :=
  ∀ fact : Fact, fact.kind = rule.appliesTo → fact.payload.identifierText? target = none →
    rule.check fact = .verdict .pass

theorem passesWithout_checkOf {α : Type} {id code description : String} {kind : FactKind}
    {severity : Severity} {select : Fact.Payload → Option α} {judge : α → Verdict}
    {target : FixTarget}
    (passes : ∀ payload : Fact.Payload, payload.kind = kind →
      payload.identifierText? target = none →
        ∃ part, select payload = some part ∧ judge part = .pass) :
    PassesWithout ⟨id, code, description, kind, severity, checkOf kind select judge⟩ target := by
  intro fact sameKind lacking
  obtain ⟨part, selected, judged⟩ := passes fact.payload sameKind lacking
  change checkOf kind select judge fact = _
  rw [checkOf, selected]
  exact congrArg Outcome.verdict judged

end Rule

namespace Rules

theorem classFileName_of_none {decl : ClassDecl} (unnamed : decl.fileName = none) :
    classFileName decl = .pass := by
  rw [classFileName, unnamed]

theorem routeNameCamelCase_of_none {decl : RouteDecl} (unnamed : decl.name = none) :
    routeNameCamelCase decl = .pass := by
  rw [routeNameCamelCase, unnamed]

end Rules

namespace Catalogue

/-- The file of a class and the name of a route may be missing. Facts have all else that is rewritten. -/
theorem rules_passWithout (options : RuleOptions) :
    List.Forall₂ (fun rule shape => rule.PassesWithout shape.target) (rules options) shapes := by
  simp only [rules, shapes, classRules, methodRules, routeRules, databaseRules, fileRules,
    commandRules, classShapes, methodShapes, routeShapes, databaseShapes, fileShapes, commandShapes,
    List.cons_append, List.nil_append, List.forall₂_cons, List.Forall₂.nil, and_true]
  refine ⟨?_, ?_, ?_, ?_, ?_, ?_, ?_, ?_, ?_, ?_, ?_, ?_, ?_, ?_, ?_, ?_, ?_, ?_, ?_, ?_, ?_, ?_⟩
  all_goals
    refine Rule.passesWithout_checkOf fun payload sameKind lacking => ?_
    cases payload <;> first
      | contradiction
      | exact ⟨_, rfl, Rules.classFileName_of_none lacking⟩
      | exact ⟨_, rfl, Rules.routeNameCamelCase_of_none lacking⟩

theorem exists_text_of_rewrites {options : RuleOptions} {rule : Rule} (member : rule ∈ rules options)
    {fact : Fact} (sameKind : fact.kind = rule.appliesTo) {target : FixTarget} {scope : Scope}
    (rewrites : (rule.check fact).rewrites target scope = true) :
    ∃ text, fact.payload.identifierText? target = some text := by
  obtain ⟨position, bound, rfl⟩ := List.getElem_of_mem member
  obtain ⟨sameLength, shaped⟩ := List.forall₂_iff_get.mp (rules_shaped options)
  have shape := shaped position bound (sameLength ▸ bound)
  have passes := (List.forall₂_iff_get.mp (rules_passWithout options)).2 position bound
    (sameLength ▸ bound)
  obtain ⟨message, fix, violated⟩ := Outcome.rewrites_iff.mp rewrites
  have sameTarget : target = _ := ((shape.fixes fact _ violated).eq_of_fix rfl).1
  cases carried : fact.payload.identifierText? target with
  | some text => exact ⟨text, rfl⟩
  | none =>
    have passed := passes fact sameKind (sameTarget ▸ carried)
    rw [List.get_eq_getElem, violated] at passed
    cases passed

end Catalogue

theorem Registry.exists_text_of_rewrites {preset : Preset} {settings : Settings}
    {registry : Registry} (built : build preset settings = .ok registry) {fact : Fact}
    {target : FixTarget} {scope : Scope} (rewrites : registry.Rewrites fact target scope) :
    ∃ text, fact.payload.identifierText? target = some text := by
  obtain ⟨entry, applied, rewritten⟩ := rewrites
  obtain ⟨member, _, kind⟩ := mem_rulesFor_iff.mp applied
  exact Catalogue.exists_text_of_rewrites (builtIn_of_mem built member) kind.symm rewritten

def SameText (target : FixTarget) (first second : Fact) : Prop :=
  ∃ text, first.payload.identifierText? target = some text ∧
    second.payload.identifierText? target = some text

namespace SameText
variable {target : FixTarget} {first second third : Fact}

theorem symm (same : SameText target first second) : SameText target second first :=
  same.imp fun _ both => both.symm

theorem trans (one : SameText target first second) (other : SameText target second third) :
    SameText target first third := by
  obtain ⟨text, firstText, secondText⟩ := one
  obtain ⟨_, again, thirdText⟩ := other
  rw [secondText] at again
  cases again
  exact ⟨text, firstText, thirdText⟩

end SameText

namespace Composite

theorem GivesPivot.identifierText? {payload : Fact.Payload} {pivot : PivotTable}
    (gives : GivesPivot payload pivot) : payload.identifierText? .name = some pivot.table := by
  cases gives with
  | relation toMany named => simp [Fact.Payload.identifierText?, toMany, named]

theorem GivesKey.identifierText? {index : ModelIndex} {payload : Fact.Payload} {key : ForeignKeyRef}
    (gives : GivesKey index payload key) : payload.identifierText? .name = some key.column := by
  cases gives with
  | column => rfl
  | relation toOne keyed => simp [Fact.Payload.identifierText?, toOne, keyed]

theorem origin_of_mem_join {facts : List Fact} {composite : Fact} (member : composite ∈ join facts) :
    ∃ origin ∈ facts, origin.location = composite.location ∧
      origin.payload.identifierText? .name = composite.payload.identifierText? .name := by
  rw [join_eq, List.mem_append, mem_pivotFacts_iff, mem_keyFacts_iff] at member
  rcases member with ⟨names, place, found, pivot, parts, rfl⟩ | ⟨names, place, found, key, parts, rfl⟩
  · have least := pivots_isLeast facts names
    rw [found, ← parts] at least
    obtain ⟨origin, present, gives, placed⟩ := least.1
    exact ⟨origin, present, placed, gives.identifierText?⟩
  · have least := foreignKeys_isLeast facts names
    rw [found, ← parts] at least
    obtain ⟨origin, present, gives, placed⟩ := least.1
    exact ⟨origin, present, placed, gives.identifierText?⟩

end Composite

end NamingAudit
