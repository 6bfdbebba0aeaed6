import NamingAudit.Fact
import NamingAudit.Json.Shape

/-! Fact records as a front end writes them: a JSON object with a place and a kind, whose parts have
the right types but are not yet checked for content. Composite kinds have no records. -/

namespace NamingAudit.Fact
open NamingAudit.Json

inductive RecordBody where
  | classDecl (name : String) (role : ClassRole) (fileName : Option String)
  | method (name : String) (ownerRole : ClassRole) (verbs : List String)
  | route (path verb : String) (name : Option String) (parameters : List String)
  | configEntry (key : String)
  | migration (name : String) (timestamp : Option String)
  | view (path : Option String)
  | table (name : String) (model : Option String) (isPivot : Bool)
  | column (table name : String) (references : Option String)
  | relation (model related : String) (relation : RelationKind) (table foreignKey : Option String)
  | command (name : String)
  | validationRule (identifier : String)
deriving DecidableEq, Repr

structure Record where
  file : String
  line : Nat
  column : Nat
  body : RecordBody
deriving DecidableEq, Repr

namespace RecordBody

abbrev Members := List (String × Value)

def asRole : Value → Shaped ClassRole :=
  Value.asVariant Value.asLaxUnit (ClassRole.all.map ClassRole.tag) ClassRole.ofTag?

def asRelation : Value → Shaped RelationKind :=
  Value.asVariant Value.asLaxUnit (RelationKind.all.map RelationKind.tag) RelationKind.ofTag?

def optionalText (members : Members) (key : String) : Shaped (Option String) := do
  return (← field? members key (Value.asOptional Value.asText)).join

def decode (members : Members) : FactKind → Shaped RecordBody
  | .classDecl => do
    let role ← field? members "class_kind" asRole
    let fileName ← optionalText members "file_name"
    let name ← field? members "name" Value.asText
    return .classDecl (← required "name" name) (← required "class_kind" role) fileName
  | .method => do
    let name ← field? members "name" Value.asText
    let role ← field? members "owner_kind" asRole
    let verbs ← field? members "verbs" Value.asTextList
    return .method (← required "name" name) (← required "owner_kind" role) (verbs.getD [])
  | .route => do
    let verb ← field? members "http_verb" Value.asText
    let name ← optionalText members "name"
    let parameters ← field? members "params" Value.asTextList
    let path ← field? members "path" Value.asText
    return .route (← required "path" path) (verb.getD "") name (parameters.getD [])
  | .configEntry => do
    let key ← field? members "key" Value.asText
    return .configEntry (← required "key" key)
  | .migration => do
    let name ← field? members "name" Value.asText
    let timestamp ← optionalText members "timestamp"
    return .migration (← required "name" name) timestamp
  | .view => do
    return .view (← optionalText members "path")
  | .table => do
    let model ← optionalText members "model"
    let name ← field? members "name" Value.asText
    let isPivot ← field? members "pivot" Value.asBool
    return .table (← required "name" name) model (isPivot.getD false)
  | .column => do
    let name ← field? members "name" Value.asText
    let references ← optionalText members "references"
    let table ← field? members "table" Value.asText
    return .column (← required "table" table) (← required "name" name) references
  | .relation => do
    let foreignKey ← optionalText members "foreign_key"
    let model ← field? members "model" Value.asText
    let related ← field? members "related" Value.asText
    let relation ← field? members "relation" asRelation
    let table ← optionalText members "table"
    return .relation (← required "model" model) (← required "related" related)
      (← required "relation" relation) table foreignKey
  | .command => do
    let name ← field? members "name" Value.asText
    return .command (← required "name" name)
  | .validationRule => do
    let identifier ← field? members "identifier" Value.asText
    return .validationRule (← required "identifier" identifier)
  | .pivotTable => .error (.unknownVariant FactKind.pivotTable.tag [])
  | .foreignKey => .error (.unknownVariant FactKind.foreignKey.tag [])

def recordedTags : List String := FactKind.recorded.map FactKind.tag

def kindOfTag? (tag : String) : Option FactKind :=
  FactKind.recorded.find? fun kind => kind.tag == tag

/-- A kind is given by its tag or by its position among the recorded kinds. -/
def asKind : Value → Shaped FactKind
  | .text tag => Value.asWord recordedTags kindOfTag? tag
  | .number (.natural index) =>
    match FactKind.recorded[index]? with
    | some kind => .ok kind
    | none =>
      .error (.wrongValue (.number (.natural index))
        ("variant index 0 <= i < " ++ FactKind.recorded.length.repr))
  | other => .error (.wrongType other "variant identifier")

end RecordBody

namespace Record

def decodeMembers (members : RecordBody.Members) : Shaped Record := do
  let column ← field? members "column" Value.asSize
  let file ← field? members "file" Value.asText
  let line ← field? members "line" Value.asSize
  let file ← required "file" file
  let kind ← required "kind" (← field? members "kind" RecordBody.asKind)
  return ⟨file, line.getD 0, column.getD 0, ← RecordBody.decode members kind⟩

def decode : Value → Shaped Record
  | .object members => decodeMembers members
  | other => .error (.wrongType other "struct FactRecordDto")

def location (record : Record) : Location := ⟨⟨record.file⟩, record.line, record.column⟩

def verbs (names : List String) : Except FactError (List HttpVerb) :=
  names.mapM fun name =>
    match HttpVerb.parse? name with
    | some verb => .ok verb
    | none => .error ⟨.method, .unknownVerb name⟩

/-- Checks the content. A config entry stands in the record's file, and so does a view unless it
names its own path. -/
def payload (record : Record) : Except FactError Payload :=
  match record.body with
  | .classDecl name role fileName => (ClassDecl.checked name role fileName).map .classDecl
  | .method name ownerRole names => do
    return .method (← MethodDecl.checked name ownerRole (← verbs names))
  | .route path verb name parameters => (RouteDecl.checked path verb name parameters).map .route
  | .configEntry key => (ConfigEntry.checked record.file key).map .configEntry
  | .migration name timestamp => (MigrationFile.checked name timestamp).map .migration
  | .view path => (ViewFile.checked (path.getD record.file)).map .view
  | .table name model isPivot => (TableDecl.checked name model isPivot).map .table
  | .column table name references => (ColumnDecl.checked table name references).map .column
  | .relation model related relation table foreignKey =>
    (RelationDecl.checked model related relation table foreignKey).map .relation
  | .command name => (CommandDecl.checked name).map .command
  | .validationRule identifier => (ValidationRule.checked identifier).map .validationRule

def toFact (record : Record) : Except FactError Fact := do
  return ⟨record.location, ← record.payload⟩

end Record

end NamingAudit.Fact
