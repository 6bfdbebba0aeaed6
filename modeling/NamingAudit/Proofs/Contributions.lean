import NamingAudit.Proofs.Join
import NamingAudit.Proofs.Names
import Mathlib.Data.Sym.Sym2

/-! What single facts give to the join, as a relation of its own: a relation between models gives a
pivot table or a foreign key, a column a foreign key. The maps of the join hold what is given at the
least place where it is given, and of what is given only foreign keys with an empty derived name are
unfit to be facts. -/

namespace NamingAudit
open Std

namespace Composite

/-- A many-to-many relation that names its pivot table gives it with its two models, the lesser
first. -/
inductive GivesPivot : Fact.Payload → PivotTable → Prop
  | relation {relation : Fact.Relation} {pivot : PivotTable}
      (toMany : relation.relation = .belongsToMany) (named : relation.table = some pivot.table)
      (ordered : pivot.firstModel ≤ pivot.secondModel)
      (models : s(relation.model, relation.related) = s(pivot.firstModel, pivot.secondModel)) :
      GivesPivot (.relation relation) pivot

/-- A column gives a foreign key to the model behind the table that it refers to, and a relation to
one owner gives its explicit key as a column of the table behind its own model. -/
inductive GivesKey (index : ModelIndex) : Fact.Payload → ForeignKeyRef → Prop
  | column {column : Fact.Column} {referenced : String}
      (refers : column.references = some referenced) :
      GivesKey index (.column column) ⟨column.table, column.name, index.modelFor referenced⟩
  | relation {relation : Fact.Relation} {key : String}
      (toOne : relation.relation = .belongsTo) (keyed : relation.foreignKey = some key) :
      GivesKey index (.relation relation)
        ⟨index.tableFor relation.model, key, relation.related⟩

theorem GivesPivot.primary {payload : Fact.Payload} {pivot : PivotTable}
    (gives : GivesPivot payload pivot) : payload.kind.isComposite = false := by
  cases gives
  rfl

theorem GivesKey.primary {index : ModelIndex} {payload : Fact.Payload} {key : ForeignKeyRef}
    (gives : GivesKey index payload key) : payload.kind.isComposite = false := by
  cases gives <;> rfl

theorem pivotNames?_eq_some_iff {relation : Fact.Relation} {names : Names} :
    pivotNames? relation = some names ↔ GivesPivot (.relation relation) names.toPivot := by
  obtain ⟨first, second, table⟩ := names
  have gives : GivesPivot (.relation relation) ⟨first, second, table⟩ ↔
      relation.relation = .belongsToMany ∧ relation.table = some table ∧ first ≤ second ∧
        s(relation.model, relation.related) = s(first, second) :=
    ⟨fun ⟨toMany, named, ordered, models⟩ => ⟨toMany, named, ordered, models⟩,
      fun ⟨toMany, named, ordered, models⟩ => .relation toMany named ordered models⟩
  rw [Names.toPivot, gives, Sym2.eq_iff, pivotNames?]
  by_cases toMany : relation.relation = .belongsToMany
  · simp only [toMany, beq_self_eq_true, if_true, true_and, Option.map_eq_some_iff]
    by_cases ordered : relation.model ≤ relation.related
    · simp only [ordered, if_true, Names.mk.injEq]
      constructor
      · rintro ⟨_, named, rfl, rfl, rfl⟩
        exact ⟨named, ordered, Or.inl ⟨rfl, rfl⟩⟩
      · rintro ⟨named, below, ⟨rfl, rfl⟩ | ⟨rfl, rfl⟩⟩
        · exact ⟨_, named, rfl, rfl, rfl⟩
        · have same := String.le_antisymm ordered below
          exact ⟨_, named, same, same.symm, rfl⟩
    · simp only [ordered, if_false, Names.mk.injEq]
      have reversed := (String.le_total relation.model relation.related).resolve_left ordered
      constructor
      · rintro ⟨_, named, rfl, rfl, rfl⟩
        exact ⟨named, reversed, Or.inr ⟨rfl, rfl⟩⟩
      · rintro ⟨named, below, ⟨rfl, rfl⟩ | ⟨rfl, rfl⟩⟩
        · exact absurd below ordered
        · exact ⟨_, named, rfl, rfl, rfl⟩
  · simp [toMany]

theorem foreignKeyNames?_eq_some_iff {index : ModelIndex} {payload : Fact.Payload}
    {names : Names} :
    foreignKeyNames? index payload = some names ↔ GivesKey index payload names.toKey := by
  obtain ⟨table, name, model⟩ := names
  change _ ↔ GivesKey index payload ⟨table, name, model⟩
  constructor
  · intro given
    cases payload with
    | relation relation =>
      simp only [foreignKeyNames?, Option.ite_none_right_eq_some, beq_iff_eq,
        Option.map_eq_some_iff, Names.mk.injEq] at given
      obtain ⟨toOne, _, keyed, rfl, rfl, rfl⟩ := given
      exact .relation toOne keyed
    | column column =>
      simp only [foreignKeyNames?, Option.map_eq_some_iff, Names.mk.injEq] at given
      obtain ⟨_, refers, rfl, rfl, rfl⟩ := given
      exact .column refers
    | _ => simp [foreignKeyNames?] at given
  · rintro (⟨refers⟩ | ⟨toOne, keyed⟩)
    · simp [foreignKeyNames?, refers]
    · simp [foreignKeyNames?, toOne, keyed]

theorem placed_eq_some_iff {given : Option Names} {names : Names} {location place : Location} :
    (given.map fun names => (names, location)) = some (names, place) ↔
      given = some names ∧ location = place := by
  cases given <;> simp

theorem pivotOf?_eq_some_iff (fact : Fact) (names : Names) (place : Location) :
    pivotOf? fact = some (names, place) ↔
      GivesPivot fact.payload names.toPivot ∧ fact.location = place := by
  obtain ⟨location, payload⟩ := fact
  cases payload with
  | relation relation => rw [pivotOf?, placed_eq_some_iff, pivotNames?_eq_some_iff]
  | _ =>
    simp only [pivotOf?, reduceCtorEq, false_iff]
    rintro ⟨⟨⟩, _⟩

theorem foreignKeyOf?_eq_some_iff (index : ModelIndex) (fact : Fact) (names : Names)
    (place : Location) :
    foreignKeyOf? index fact = some (names, place) ↔
      GivesKey index fact.payload names.toKey ∧ fact.location = place := by
  rw [foreignKeyOf?, placed_eq_some_iff, foreignKeyNames?_eq_some_iff]

def Places (facts : List Fact) (gives : Fact.Payload → Prop) (place : Location) : Prop :=
  ∃ fact ∈ facts, gives fact.payload ∧ fact.location = place

theorem collected_isLeast {pick : Fact → Option (Names × Location)}
    {gives : Names → Fact.Payload → Prop}
    (picks : ∀ fact names place, pick fact = some (names, place) ↔
      gives names fact.payload ∧ fact.location = place) (facts : List Fact) (names : Names) :
    SortedMap.IsLeast compare (Places facts (gives names))
      ((SortedMap.collect earlier (facts.filterMap pick)).get? names) := by
  have least := SortedMap.get?_collect_isLeast compare (facts.filterMap pick) names
  simp only [List.mem_filterMap, picks] at least
  exact least

theorem pivots_isLeast (facts : List Fact) (names : Names) :
    SortedMap.IsLeast compare (Places facts fun payload => GivesPivot payload names.toPivot)
      ((pivots facts).get? names) := by
  let gives (names : Names) (payload : Fact.Payload) := GivesPivot payload names.toPivot
  have picks (fact : Fact) (names : Names) (place : Location) :
      pivotOf? fact = some (names, place) ↔ gives names fact.payload ∧ fact.location = place :=
    pivotOf?_eq_some_iff fact names place
  exact collected_isLeast picks facts names

theorem foreignKeys_isLeast (facts : List Fact) (names : Names) :
    SortedMap.IsLeast compare
      (Places facts fun payload => GivesKey (.ofFacts facts) payload names.toKey)
      ((foreignKeys facts).get? names) := by
  let gives (names : Names) (payload : Fact.Payload) :=
    GivesKey (.ofFacts facts) payload names.toKey
  have picks (fact : Fact) (names : Names) (place : Location) :
      foreignKeyOf? (.ofFacts facts) fact = some (names, place) ↔
        gives names fact.payload ∧ fact.location = place :=
    foreignKeyOf?_eq_some_iff _ fact names place
  exact collected_isLeast picks facts names

theorem exists_get?_iff {map : SortedMap Names Location} {names : Names} {facts : List Fact}
    {gives : Fact.Payload → Prop}
    (least : SortedMap.IsLeast compare (Places facts gives) (map.get? names)) :
    (∃ place, map.get? names = some place) ↔ ∃ fact ∈ facts, gives fact.payload := by
  constructor
  · rintro ⟨place, found⟩
    rw [found] at least
    obtain ⟨fact, present, given, _⟩ := least.1
    exact ⟨fact, present, given⟩
  · rintro ⟨fact, present, given⟩
    cases found : map.get? names with
    | some place => exact ⟨place, rfl⟩
    | none =>
      rw [found] at least
      exact absurd ⟨fact, present, given, rfl⟩ (least fact.location)

section Names
variable {facts : List Fact}

theorem isIdentifier_of_declared {table model : String}
    (declared : ModelIndex.Declared facts table model) :
    IsIdentifier table ∧ IsIdentifier model := by
  obtain ⟨_, _, decl, _, rfl, named⟩ := declared
  exact ⟨decl.named, decl.modelNamed model named⟩

theorem isIdentifier_of_conventional {table model : String}
    (conventional : ModelIndex.Conventional facts table model) : IsIdentifier model := by
  obtain ⟨⟨_, _, decl, _, _, rfl⟩, _⟩ := conventional
  exact decl.named

theorem hasBlank_modelFor (table : String) :
    Text.hasBlank ((ModelIndex.ofFacts facts).modelFor table) = false := by
  have least := ModelIndex.modelOfTable_isLeast facts table
  rw [ModelIndex.modelFor]
  cases found : (ModelIndex.ofFacts facts).modelOfTable.get? table with
  | none => exact Identifier.hasBlank_singularPascal table
  | some model =>
    rw [found] at least
    rcases least.1 with declared | conventional
    · exact (isIdentifier_of_declared declared).2.2
    · exact (isIdentifier_of_conventional conventional).2

theorem hasBlank_tableFor (model : String) :
    Text.hasBlank ((ModelIndex.ofFacts facts).tableFor model) = false := by
  have least := ModelIndex.tableOfModel_isLeast facts model
  rw [ModelIndex.tableFor]
  cases found : (ModelIndex.ofFacts facts).tableOfModel.get? model with
  | none => exact Identifier.hasBlank_pluralSnake model
  | some table =>
    rw [found] at least
    exact (isIdentifier_of_declared least.1).1.2

/-- Only a derived name can be unfit for a foreign key, and then it is empty. -/
theorem GivesKey.isValid_iff {payload : Fact.Payload} {names : Names}
    (gives : GivesKey (.ofFacts facts) payload names.toKey) :
    names.IsValid ↔ names.first ≠ "" ∧ names.third ≠ "" := by
  obtain ⟨table, name, model⟩ := names
  change GivesKey (.ofFacts facts) payload ⟨table, name, model⟩ at gives
  have parts : Text.hasBlank table = false ∧ IsIdentifier name ∧ Text.hasBlank model = false := by
    cases gives with
    | @column column _ refers => exact ⟨column.inTable.2, column.named, hasBlank_modelFor _⟩
    | @relation relation _ toOne keyed =>
      exact ⟨hasBlank_tableFor _, relation.keyNamed _ keyed, relation.relatedNamed.2⟩
  obtain ⟨tableBlankless, validName, modelBlankless⟩ := parts
  constructor
  · rintro ⟨validTable, _, validModel⟩
    exact ⟨validTable.1, validModel.1⟩
  · rintro ⟨tableNamed, modelNamed⟩
    exact ⟨⟨tableNamed, tableBlankless⟩, validName, modelNamed, modelBlankless⟩

end Names

theorem GivesPivot.isValid {payload : Fact.Payload} {names : Names}
    (gives : GivesPivot payload names.toPivot) : names.IsValid := by
  obtain ⟨first, second, table⟩ := names
  change GivesPivot payload ⟨first, second, table⟩ at gives
  cases gives with
  | @relation relation _ _ named _ models =>
    have validTable := relation.tableNamed _ named
    rcases Sym2.eq_iff.mp models with ⟨rfl, rfl⟩ | ⟨rfl, rfl⟩
    · exact ⟨relation.modelNamed, relation.relatedNamed, validTable⟩
    · exact ⟨relation.relatedNamed, relation.modelNamed, validTable⟩

end Composite

end NamingAudit
