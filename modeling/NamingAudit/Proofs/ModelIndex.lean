import NamingAudit.Proofs.Comparison
import NamingAudit.Proofs.SortedMap

/-! Models and tables that belong together. The index holds, for each table, the least model that is
declared for it or, by convention, stands for it, and for each model the least table declared for it.
So it depends on what the facts say and neither on their places nor on their order or number. -/

namespace NamingAudit.Composite
open Std

theorem lesser_eq_least : lesser = SortedMap.least compare := by
  funext old new
  have less : compare new old = .lt ↔ new < old := compareOfLessAndEq_eq_lt
  simp [lesser, SortedMap.least, less]

namespace ModelIndex

def declared? (fact : Fact) : Option (String × String) :=
  match fact.payload with
  | .table decl => decl.model.map fun model => (decl.name, model)
  | _ => none

def conventional? (declared : SortedMap String String) (fact : Fact) : Option (String × String) :=
  match fact.payload with
  | .classDecl decl =>
    if decl.role == .model && !declared.contains decl.name then
      some (Identifier.pluralSnake decl.name, decl.name)
    else none
  | _ => none

def declaredTables (facts : List Fact) : SortedMap String String :=
  SortedMap.collect lesser ((facts.filterMap declared?).map Prod.swap)

theorem addTable_eq (index : ModelIndex) (fact : Fact) :
    index.addTable fact =
      match declared? fact with
      | some pair => index.declare pair.1 pair.2
      | none => index := by
  obtain ⟨location, payload⟩ := fact
  cases payload with
  | table decl => cases found : decl.model <;> simp [addTable, declared?, found]
  | _ => rfl

theorem addClass_eq (index : ModelIndex) (fact : Fact) :
    index.addClass fact =
      match conventional? index.tableOfModel fact with
      | some pair =>
        { index with modelOfTable := index.modelOfTable.insertWith lesser pair.1 pair.2 }
      | none => index := by
  obtain ⟨location, payload⟩ := fact
  cases payload with
  | classDecl decl =>
    simp only [addClass, conventional?]
    split <;> rfl
  | _ => rfl

theorem foldl_addTable (facts : List Fact) :
    facts.foldl addTable empty =
      ⟨SortedMap.collect lesser (facts.filterMap declared?), declaredTables facts⟩ := by
  induction facts using List.reverseRecOn with
  | nil => rfl
  | append_singleton facts fact ih =>
    rw [List.foldl_concat, ih, addTable_eq]
    cases found : declared? fact with
    | none => simp [found, declaredTables]
    | some pair => simp [found, declare, declaredTables, SortedMap.collect_concat]

theorem foldl_addClass (index : ModelIndex) (facts : List Fact) :
    facts.foldl addClass index =
      { index with
        modelOfTable := (facts.filterMap (conventional? index.tableOfModel)).foldl
          (fun map pair => map.insertWith lesser pair.1 pair.2) index.modelOfTable } := by
  -- A class never changes the tables of models, so every class is judged by those at the start.
  induction facts generalizing index with
  | nil => rfl
  | cons fact rest ih =>
    rw [List.foldl_cons, ih, addClass_eq]
    cases found : conventional? index.tableOfModel fact <;> simp [found]

theorem ofFacts_eq (facts : List Fact) :
    ofFacts facts =
      ⟨SortedMap.collect lesser (facts.filterMap declared? ++
        facts.filterMap (conventional? (declaredTables facts))), declaredTables facts⟩ := by
  rw [ofFacts, foldl_addTable, foldl_addClass, SortedMap.collect, SortedMap.collect,
    List.foldl_append]

def Declared (facts : List Fact) (table model : String) : Prop :=
  ∃ fact ∈ facts, ∃ decl, fact.payload = .table decl ∧ decl.name = table ∧ decl.model = some model

def Conventional (facts : List Fact) (table model : String) : Prop :=
  (∃ fact ∈ facts, ∃ decl, fact.payload = .classDecl decl ∧ decl.role = .model ∧
    decl.name = model) ∧
  (∀ other, ¬ Declared facts other model) ∧ Identifier.pluralSnake model = table

variable {facts : List Fact} {table model : String}

theorem mem_declared_iff : (table, model) ∈ facts.filterMap declared? ↔ Declared facts table model := by
  have declares (fact : Fact) : declared? fact = some (table, model) ↔
      ∃ decl, fact.payload = .table decl ∧ decl.name = table ∧ decl.model = some model := by
    obtain ⟨location, payload⟩ := fact
    cases payload with
    | table decl => simp [declared?, and_comm]
    | _ => simp [declared?]
  simp only [List.mem_filterMap, declares, Declared]

theorem mem_swapped_iff :
    (model, table) ∈ (facts.filterMap declared?).map Prod.swap ↔ Declared facts table model := by
  rw [← mem_declared_iff, List.mem_map]
  constructor
  · rintro ⟨⟨other, name⟩, given, swapped⟩
    cases swapped
    exact given
  · exact fun given => ⟨_, given, rfl⟩

theorem tableOfModel_isLeast (facts : List Fact) (model : String) :
    SortedMap.IsLeast compare (fun table => Declared facts table model)
      ((ofFacts facts).tableOfModel.get? model) := by
  have least := SortedMap.get?_collect_isLeast compare
    ((facts.filterMap declared?).map Prod.swap) model
  simp only [mem_swapped_iff, ← lesser_eq_least] at least
  rw [ofFacts_eq]
  exact least

theorem contains_declaredTables_eq_false_iff :
    (declaredTables facts).contains model = false ↔ ∀ table, ¬ Declared facts table model := by
  have least := tableOfModel_isLeast facts model
  rw [ofFacts_eq] at least
  change SortedMap.IsLeast _ _ ((declaredTables facts).get? model) at least
  rw [SortedMap.contains]
  cases found : (declaredTables facts).get? model with
  | none =>
    rw [found] at least
    exact ⟨fun _ => least, fun _ => rfl⟩
  | some table =>
    rw [found] at least
    simp only [Option.isSome_some, Bool.true_eq_false, false_iff, not_forall, not_not]
    exact ⟨table, least.1⟩

theorem mem_conventional_iff :
    (table, model) ∈ facts.filterMap (conventional? (declaredTables facts)) ↔
      Conventional facts table model := by
  have stands (fact : Fact) : conventional? (declaredTables facts) fact = some (table, model) ↔
      (∃ decl, fact.payload = .classDecl decl ∧ decl.role = .model ∧ decl.name = model) ∧
        (∀ other, ¬ Declared facts other model) ∧ Identifier.pluralSnake model = table := by
    rw [← contains_declaredTables_eq_false_iff]
    obtain ⟨location, payload⟩ := fact
    cases payload with
    | classDecl decl =>
      simp only [conventional?, Bool.and_eq_true, beq_iff_eq, Bool.not_eq_true',
        Option.ite_none_right_eq_some, Option.some.injEq, Prod.mk.injEq,
        Fact.Payload.classDecl.injEq, exists_eq_left']
      grind
    | _ => simp [conventional?]
  simp only [List.mem_filterMap, stands, Conventional]
  constructor
  · rintro ⟨fact, present, declares, undeclared, plural⟩
    exact ⟨⟨fact, present, declares⟩, undeclared, plural⟩
  · rintro ⟨⟨fact, present, declares⟩, undeclared, plural⟩
    exact ⟨fact, present, declares, undeclared, plural⟩

theorem modelOfTable_isLeast (facts : List Fact) (table : String) :
    SortedMap.IsLeast compare
      (fun model => Declared facts table model ∨ Conventional facts table model)
      ((ofFacts facts).modelOfTable.get? table) := by
  have least := SortedMap.get?_collect_isLeast compare (facts.filterMap declared? ++
    facts.filterMap (conventional? (declaredTables facts))) table
  simp only [List.mem_append, mem_declared_iff, mem_conventional_iff, ← lesser_eq_least] at least
  rw [ofFacts_eq]
  exact least

/-- The least model that is declared for the table or stands for it by convention, or else the singular
of its name. -/
def IsModelOf (facts : List Fact) (table model : String) : Prop :=
  ∃ found, SortedMap.IsLeast compare
      (fun model => Declared facts table model ∨ Conventional facts table model) found ∧
    model = found.getD (Identifier.singularPascal table)

def IsTableOf (facts : List Fact) (model table : String) : Prop :=
  ∃ found, SortedMap.IsLeast compare (fun table => Declared facts table model) found ∧
    table = found.getD (Identifier.pluralSnake model)

theorem isModelOf_modelFor (facts : List Fact) (table : String) :
    IsModelOf facts table ((ofFacts facts).modelFor table) :=
  ⟨_, modelOfTable_isLeast facts table, rfl⟩

theorem isTableOf_tableFor (facts : List Fact) (model : String) :
    IsTableOf facts model ((ofFacts facts).tableFor model) :=
  ⟨_, tableOfModel_isLeast facts model, rfl⟩

theorem modelFor_isLeast {facts : List Fact} {table model : String}
    (declared : Declared facts table model) :
    SortedMap.IsLeast compare (fun model => Declared facts table model ∨ Conventional facts table model)
      (some ((ofFacts facts).modelFor table)) := by
  have least := modelOfTable_isLeast facts table
  cases found : (ofFacts facts).modelOfTable.get? table with
  | none =>
    rw [found] at least
    exact absurd (Or.inl declared) (least model)
  | some winner =>
    rw [found] at least
    rwa [modelFor, found, Option.getD_some]

/-- The same but for places, order, number and composites. -/
def SameContent (first second : List Fact) : Prop :=
  ∀ payload : Fact.Payload, payload.kind.isComposite = false →
    ((∃ fact ∈ first, fact.payload = payload) ↔ ∃ fact ∈ second, fact.payload = payload)

namespace SameContent
variable {first second : List Fact} (same : SameContent first second)
include same

theorem symm : SameContent second first := fun payload primary => (same payload primary).symm

theorem exists_of {which : Fact.Payload → Prop}
    (primary : ∀ payload, which payload → payload.kind.isComposite = false)
    (given : ∃ fact ∈ first, which fact.payload) : ∃ fact ∈ second, which fact.payload := by
  obtain ⟨fact, present, holds⟩ := given
  obtain ⟨other, found, alike⟩ := (same _ (primary _ holds)).mp ⟨fact, present, rfl⟩
  exact ⟨other, found, alike ▸ holds⟩

theorem exists_iff (which : Fact.Payload → Prop)
    (primary : ∀ payload, which payload → payload.kind.isComposite = false) :
    (∃ fact ∈ first, which fact.payload) ↔ ∃ fact ∈ second, which fact.payload :=
  ⟨same.exists_of primary, same.symm.exists_of primary⟩

theorem declared_iff (table model : String) : Declared first table model ↔ Declared second table model :=
  same.exists_iff (fun payload => ∃ decl, payload = .table decl ∧ decl.name = table ∧
    decl.model = some model) (by rintro _ ⟨decl, rfl, _⟩; rfl)

theorem conventional_iff (table model : String) :
    Conventional first table model ↔ Conventional second table model := by
  have classes := same.exists_iff (fun payload => ∃ decl, payload = .classDecl decl ∧
    decl.role = .model ∧ decl.name = model) (by rintro _ ⟨decl, rfl, _⟩; rfl)
  simp only [Conventional, classes, same.declared_iff]

end SameContent

theorem ofFacts_congr {first second : List Fact} (sameContent : SameContent first second) :
    ofFacts first = ofFacts second := by
  have lawful (one other : String) (tie : compare one other = .eq) : one = other :=
    LawfulEqOrd.eq_of_compare tie
  have tables : (ofFacts first).tableOfModel = (ofFacts second).tableOfModel := by
    refine SortedMap.ext_get? fun model => ?_
    have left := tableOfModel_isLeast first model
    simp only [sameContent.declared_iff] at left
    exact left.unique (fun one other _ _ => lawful one other) (tableOfModel_isLeast second model)
  have models : (ofFacts first).modelOfTable = (ofFacts second).modelOfTable := by
    refine SortedMap.ext_get? fun table => ?_
    have left := modelOfTable_isLeast first table
    simp only [sameContent.declared_iff, sameContent.conventional_iff] at left
    exact left.unique (fun one other _ _ => lawful one other) (modelOfTable_isLeast second table)
  cases one : ofFacts first
  cases other : ofFacts second
  rw [one, other] at tables models
  simp_all

end ModelIndex

end NamingAudit.Composite
