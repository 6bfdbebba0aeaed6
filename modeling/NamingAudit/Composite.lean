import NamingAudit.Fact
import NamingAudit.Identifier
import NamingAudit.SortedMap

/-! The join of related facts into composite facts: pivot tables with both models, and foreign keys
with the model that they refer to. It looks at all facts of a project at once, so that rules do not
have to. Each composite stands at the least place among the facts that contribute to it, and the
result is sorted by names. -/

namespace NamingAudit.Composite

def lesser (old new : String) : String := if new < old then new else old

def earlier (old new : Location) : Location := if compare new old == .lt then new else old

structure ModelIndex where
  modelOfTable : SortedMap String String
  tableOfModel : SortedMap String String

namespace ModelIndex

def empty : ModelIndex := ⟨.empty, .empty⟩

def declare (table model : String) (index : ModelIndex) : ModelIndex :=
  { modelOfTable := index.modelOfTable.insertWith lesser table model
    tableOfModel := index.tableOfModel.insertWith lesser model table }

def addTable (index : ModelIndex) (fact : Fact) : ModelIndex :=
  match fact.payload with
  | .table decl =>
    match decl.model with
    | some model => index.declare decl.name model
    | none => index
  | _ => index

/-- A model class stands for its conventional table, unless a table was declared for it. -/
def addClass (index : ModelIndex) (fact : Fact) : ModelIndex :=
  match fact.payload with
  | .classDecl decl =>
    if decl.role == .model && !index.tableOfModel.contains decl.name then
      { index with
        modelOfTable :=
          index.modelOfTable.insertWith lesser (Identifier.pluralSnake decl.name) decl.name }
    else index
  | _ => index

def ofFacts (facts : List Fact) : ModelIndex :=
  facts.foldl addClass (facts.foldl addTable empty)

def modelFor (index : ModelIndex) (table : String) : String :=
  (index.modelOfTable.get? table).getD (Identifier.singularPascal table)

def tableFor (index : ModelIndex) (model : String) : String :=
  (index.tableOfModel.get? model).getD (Identifier.pluralSnake model)

end ModelIndex

structure Names where
  first : String
  second : String
  third : String
deriving DecidableEq, Repr

instance : Ord Names where
  compare := compareLex (compareOn Names.first)
    (compareLex (compareOn Names.second) (compareOn Names.third))

instance : Std.TransOrd Names :=
  inferInstanceAs (Std.TransCmp (compareLex (compareOn Names.first)
    (compareLex (compareOn Names.second) (compareOn Names.third))))

/-- Both models of a relation, the lesser first, and the pivot table that it names. -/
def pivotNames? (relation : Fact.Relation) : Option Names :=
  if relation.relation == .belongsToMany then
    relation.table.map fun table =>
      if relation.model ≤ relation.related then ⟨relation.model, relation.related, table⟩
      else ⟨relation.related, relation.model, table⟩
  else none

def pivotOf? (fact : Fact) : Option (Names × Location) :=
  match fact.payload with
  | .relation relation => (pivotNames? relation).map fun names => (names, fact.location)
  | _ => none

/-- Table, column and referenced model, from an explicit key of a relation to one owner or from a
column that refers to a table. -/
def foreignKeyNames? (index : ModelIndex) : Fact.Payload → Option Names
  | .relation relation =>
    if relation.relation == .belongsTo then
      relation.foreignKey.map fun column =>
        ⟨index.tableFor relation.model, column, relation.related⟩
    else none
  | .column column =>
    column.references.map fun table => ⟨column.table, column.name, index.modelFor table⟩
  | _ => none

def foreignKeyOf? (index : ModelIndex) (fact : Fact) : Option (Names × Location) :=
  (foreignKeyNames? index fact.payload).map fun names => (names, fact.location)

def pivotFact? (entry : Names × Location) : Option Fact :=
  match PivotTable.checked entry.1.first entry.1.second entry.1.third with
  | .ok pivot => some ⟨entry.2, .pivotTable pivot⟩
  | .error _ => none

def foreignKeyFact? (entry : Names × Location) : Option Fact :=
  match ForeignKeyRef.checked entry.1.first entry.1.second entry.1.third with
  | .ok key => some ⟨entry.2, .foreignKey key⟩
  | .error _ => none

/-- The pivot tables, then the foreign keys. Names that no fact could carry are left out. -/
def join (facts : List Fact) : List Fact :=
  let index := ModelIndex.ofFacts facts
  let pivots := SortedMap.collect earlier (facts.filterMap pivotOf?)
  let foreignKeys := SortedMap.collect earlier (facts.filterMap (foreignKeyOf? index))
  pivots.entries.filterMap pivotFact? ++ foreignKeys.entries.filterMap foreignKeyFact?

end NamingAudit.Composite
