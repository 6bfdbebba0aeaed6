import NamingAudit.Fact.Vocabulary

/-! What a fact says, one structure for each kind: the parts that rules judge and, on top of them, what
a fact guarantees of its parts. A name is neither empty nor broken by white space, and a path or file is
not blank. The constructors check the parts in a fixed order and name the first that is at fault. -/

namespace NamingAudit

inductive FactFault where
  | blank (field : String)
  | brokenByBlank (field value : String)
  | unknownVerb (verb : String)
  | pivotOutsideManyToMany
deriving DecidableEq, Repr

structure FactError where
  kind : FactKind
  fault : FactFault
deriving DecidableEq, Repr

namespace FactFault

def reason : FactFault → String
  | blank field => field ++ " is empty"
  | brokenByBlank field value => field ++ " `" ++ value ++ "` contains whitespace"
  | unknownVerb verb => "unknown http verb `" ++ verb ++ "`"
  | pivotOutsideManyToMany => "only belongs-to-many relations declare a pivot table"

end FactFault

namespace FactError

def message (error : FactError) : String :=
  "invalid " ++ error.kind.tag ++ " fact: " ++ error.fault.reason

end FactError

/-- Some character is no white space. -/
def IsPrinted (value : String) : Prop := Text.isAllBlank value = false

def IsIdentifier (value : String) : Prop := value ≠ "" ∧ Text.hasBlank value = false

instance (value : String) : Decidable (IsPrinted value) := inferInstanceAs (Decidable (_ = _))

instance (value : String) : Decidable (IsIdentifier value) := inferInstanceAs (Decidable (_ ∧ _))

namespace Fact

def nonBlank (kind : FactKind) (field value : String) : Except FactError (PLift (IsPrinted value)) :=
  if blank : Text.isAllBlank value then .error ⟨kind, .blank field⟩
  else .ok ⟨eq_false_of_ne_true blank⟩

def identifier (kind : FactKind) (field value : String) :
    Except FactError (PLift (IsIdentifier value)) :=
  if blank : Text.isAllBlank value then .error ⟨kind, .blank field⟩
  else if broken : Text.hasBlank value then .error ⟨kind, .brokenByBlank field value⟩
  else .ok ⟨fun empty => blank (empty ▸ rfl), eq_false_of_ne_true broken⟩

variable {valid : String → Prop}

def optional (check : ∀ value, Except FactError (PLift (valid value))) :
    ∀ given : Option String, Except FactError (PLift (∀ value ∈ given, valid value))
  | none => .ok ⟨nofun⟩
  | some value =>
    (check value).map fun checked => ⟨fun _ same => Option.some.inj same ▸ checked.down⟩

def each (check : ∀ value, Except FactError (PLift (valid value))) :
    ∀ values : List String, Except FactError (PLift (∀ value ∈ values, valid value))
  | [] => .ok ⟨nofun⟩
  | value :: rest => do
    let first ← check value
    let others ← each check rest
    return ⟨List.forall_mem_cons.mpr ⟨first.down, others.down⟩⟩

end Fact

structure ClassDecl where
  name : String
  role : ClassRole
  fileName : Option String
deriving DecidableEq, Repr

structure MethodDecl where
  name : String
  ownerRole : ClassRole
  /-- The verbs routed to the method, as a set. -/
  verbs : List HttpVerb
deriving DecidableEq, Repr

structure RouteDecl where
  path : String
  verb : HttpVerb
  name : Option String
  parameters : List String
deriving DecidableEq, Repr

structure ConfigEntry where
  file : String
  key : String
deriving DecidableEq, Repr

structure MigrationFile where
  name : String
  timestamp : Option String
deriving DecidableEq, Repr

structure ViewFile where
  path : String
deriving DecidableEq, Repr

structure TableDecl where
  name : String
  model : Option String
  isPivot : Bool
deriving DecidableEq, Repr

structure ColumnDecl where
  table : String
  name : String
  references : Option String
deriving DecidableEq, Repr

structure RelationDecl where
  model : String
  related : String
  relation : RelationKind
  table : Option String
  foreignKey : Option String
deriving DecidableEq, Repr

structure CommandDecl where
  name : String
deriving DecidableEq, Repr

structure ValidationRule where
  identifier : String
deriving DecidableEq, Repr

structure PivotTable where
  firstModel : String
  secondModel : String
  table : String
deriving DecidableEq, Repr

@[ext]
structure ForeignKeyRef where
  table : String
  column : String
  referencedModel : String
deriving DecidableEq, Repr

namespace Fact

structure Class extends ClassDecl where
  named : IsIdentifier name := by decide +kernel
  inFile : ∀ file ∈ fileName, IsPrinted file := by decide +kernel
deriving DecidableEq, Repr

structure Method extends MethodDecl where
  named : IsIdentifier name := by decide +kernel
  isSet : HttpVerb.setOf verbs = verbs := by decide +kernel
deriving DecidableEq, Repr

structure Route extends RouteDecl where
  printed : IsPrinted path := by decide +kernel
  named : ∀ value ∈ name, IsIdentifier value := by decide +kernel
  parametersNamed : ∀ parameter ∈ parameters, IsIdentifier parameter := by decide +kernel
deriving DecidableEq, Repr

structure Config extends ConfigEntry where
  inFile : IsPrinted file := by decide +kernel
  named : IsIdentifier key := by decide +kernel
deriving DecidableEq, Repr

structure Migration extends MigrationFile where
  named : IsIdentifier name := by decide +kernel
  stamped : ∀ stamp ∈ timestamp, IsIdentifier stamp := by decide +kernel
deriving DecidableEq, Repr

structure View extends ViewFile where
  printed : IsPrinted path := by decide +kernel
deriving DecidableEq, Repr

structure Table extends TableDecl where
  named : IsIdentifier name := by decide +kernel
  modelNamed : ∀ value ∈ model, IsIdentifier value := by decide +kernel
deriving DecidableEq, Repr

structure Column extends ColumnDecl where
  inTable : IsIdentifier table := by decide +kernel
  named : IsIdentifier name := by decide +kernel
  referring : ∀ value ∈ references, IsIdentifier value := by decide +kernel
deriving DecidableEq, Repr

structure Relation extends RelationDecl where
  modelNamed : IsIdentifier model := by decide +kernel
  relatedNamed : IsIdentifier related := by decide +kernel
  tableNamed : ∀ value ∈ table, IsIdentifier value := by decide +kernel
  keyNamed : ∀ value ∈ foreignKey, IsIdentifier value := by decide +kernel
  manyToMany : table.isSome = true → relation = .belongsToMany := by decide +kernel
deriving DecidableEq, Repr

structure Command extends CommandDecl where
  named : IsIdentifier name := by decide +kernel
deriving DecidableEq, Repr

structure Validation extends ValidationRule where
  named : IsIdentifier identifier := by decide +kernel
deriving DecidableEq, Repr

structure Pivot extends PivotTable where
  firstNamed : IsIdentifier firstModel := by decide +kernel
  secondNamed : IsIdentifier secondModel := by decide +kernel
  tableNamed : IsIdentifier table := by decide +kernel
deriving DecidableEq, Repr

structure Key extends ForeignKeyRef where
  inTable : IsIdentifier table := by decide +kernel
  named : IsIdentifier column := by decide +kernel
  referring : IsIdentifier referencedModel := by decide +kernel
deriving DecidableEq, Repr

end Fact

namespace ClassDecl

def checked (name : String) (role : ClassRole) (fileName : Option String) :
    Except FactError Fact.Class := do
  let named ← Fact.identifier .classDecl "name" name
  let inFile ← Fact.optional (Fact.nonBlank .classDecl "file_name") fileName
  return ⟨⟨name, role, fileName⟩, named.down, inFile.down⟩

end ClassDecl

namespace MethodDecl

def checked (name : String) (ownerRole : ClassRole) (verbs : List HttpVerb) :
    Except FactError Fact.Method := do
  let named ← Fact.identifier .method "name" name
  return ⟨⟨name, ownerRole, HttpVerb.setOf verbs⟩, named.down, HttpVerb.setOf_setOf verbs⟩

end MethodDecl

namespace RouteDecl

def checked (path verb : String) (name : Option String) (parameters : List String) :
    Except FactError Fact.Route := do
  let _ ← Fact.nonBlank .route "http verb" verb
  match HttpVerb.parse? verb with
  | none => .error ⟨.route, .unknownVerb verb⟩
  | some verb =>
    let parametersNamed ← Fact.each (Fact.identifier .route "parameter name") parameters
    let printed ← Fact.nonBlank .route "path" path
    let named ← Fact.optional (Fact.identifier .route "name") name
    return ⟨⟨path, verb, name, parameters⟩, printed.down, named.down, parametersNamed.down⟩

end RouteDecl

namespace ConfigEntry

def checked (file key : String) : Except FactError Fact.Config := do
  let inFile ← Fact.nonBlank .configEntry "file" file
  let named ← Fact.identifier .configEntry "key" key
  return ⟨⟨file, key⟩, inFile.down, named.down⟩

end ConfigEntry

namespace MigrationFile

def checked (name : String) (timestamp : Option String) : Except FactError Fact.Migration := do
  let named ← Fact.identifier .migration "name" name
  let stamped ← Fact.optional (Fact.identifier .migration "timestamp") timestamp
  return ⟨⟨name, timestamp⟩, named.down, stamped.down⟩

end MigrationFile

namespace ViewFile

def checked (path : String) : Except FactError Fact.View := do
  let printed ← Fact.nonBlank .view "path" path
  return ⟨⟨path⟩, printed.down⟩

end ViewFile

namespace TableDecl

def checked (name : String) (model : Option String) (isPivot : Bool) :
    Except FactError Fact.Table := do
  let named ← Fact.identifier .table "name" name
  let modelNamed ← Fact.optional (Fact.identifier .table "model") model
  return ⟨⟨name, model, isPivot⟩, named.down, modelNamed.down⟩

end TableDecl

namespace ColumnDecl

def checked (table name : String) (references : Option String) :
    Except FactError Fact.Column := do
  let inTable ← Fact.identifier .column "table" table
  let named ← Fact.identifier .column "name" name
  let referring ← Fact.optional (Fact.identifier .column "references") references
  return ⟨⟨table, name, references⟩, inTable.down, named.down, referring.down⟩

end ColumnDecl

namespace RelationDecl

def checked (model related : String) (relation : RelationKind) (table foreignKey : Option String) :
    Except FactError Fact.Relation :=
  if misplaced : table.isSome && relation != .belongsToMany then
    .error ⟨.relation, .pivotOutsideManyToMany⟩
  else do
    let modelNamed ← Fact.identifier .relation "model" model
    let relatedNamed ← Fact.identifier .relation "related" related
    let tableNamed ← Fact.optional (Fact.identifier .relation "table") table
    let keyNamed ← Fact.optional (Fact.identifier .relation "foreign_key") foreignKey
    return {
      toRelationDecl := ⟨model, related, relation, table, foreignKey⟩
      modelNamed := modelNamed.down
      relatedNamed := relatedNamed.down
      tableNamed := tableNamed.down
      keyNamed := keyNamed.down
      manyToMany := fun named => by simpa [named] using misplaced }

end RelationDecl

namespace CommandDecl

def checked (name : String) : Except FactError Fact.Command := do
  let named ← Fact.identifier .command "name" name
  return ⟨⟨name⟩, named.down⟩

end CommandDecl

namespace ValidationRule

def checked (identifier : String) : Except FactError Fact.Validation := do
  let named ← Fact.identifier .validationRule "identifier" identifier
  return ⟨⟨identifier⟩, named.down⟩

end ValidationRule

namespace PivotTable

def checked (firstModel secondModel table : String) : Except FactError Fact.Pivot := do
  let firstNamed ← Fact.identifier .pivotTable "first_model" firstModel
  let secondNamed ← Fact.identifier .pivotTable "second_model" secondModel
  let tableNamed ← Fact.identifier .pivotTable "table" table
  return ⟨⟨firstModel, secondModel, table⟩, firstNamed.down, secondNamed.down, tableNamed.down⟩

end PivotTable

namespace ForeignKeyRef

def checked (table column referencedModel : String) : Except FactError Fact.Key := do
  let inTable ← Fact.identifier .foreignKey "table" table
  let named ← Fact.identifier .foreignKey "column" column
  let referring ← Fact.identifier .foreignKey "referenced_model" referencedModel
  return ⟨⟨table, column, referencedModel⟩, inTable.down, named.down, referring.down⟩

end ForeignKeyRef

end NamingAudit
