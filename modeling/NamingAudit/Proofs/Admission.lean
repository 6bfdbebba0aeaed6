import NamingAudit.Fact.Batch

/-! Facts and their constructors. A check of a part succeeds exactly for a part that is as it should be,
so a constructor gives all facts that there are and gives them with the parts as they came. Whatever is
read from a document has passed the constructor of its kind. -/

namespace NamingAudit

theorem bind_ok {ε α β : Type} {first : Except ε α} {next : α → Except ε β} {result : β}
    (succeeded : first >>= next = .ok result) :
    ∃ value, first = .ok value ∧ next value = .ok result := by
  cases first with
  | error error => contradiction
  | ok value => exact ⟨value, rfl, succeeded⟩

theorem bind_of_ok {ε α β : Type} {first : Except ε α} {next : α → Except ε β} {value : α}
    {result : β} (one : first = .ok value) (other : next value = .ok result) :
    first >>= next = .ok result := by
  rw [one]
  exact other

theorem map_ok {ε α β : Type} {given : Except ε α} {change : α → β} {result : β}
    (succeeded : given.map change = .ok result) :
    ∃ value, given = .ok value ∧ change value = result := by
  cases given with
  | error error => contradiction
  | ok value => exact ⟨value, rfl, Except.ok.inj succeeded⟩

theorem mapError_ok {ε ε' α : Type} {given : Except ε α} {change : ε → ε'} {result : α}
    (succeeded : given.mapError change = .ok result) : given = .ok result := by
  cases given with
  | error error => contradiction
  | ok value => exact congrArg Except.ok (Except.ok.inj succeeded)

namespace Fact

section Checks
variable {kind : FactKind} {field value : String} {valid : String → Prop}
  {check : ∀ value, Except FactError (PLift (valid value))}

theorem nonBlank_of_isPrinted (printed : IsPrinted value) :
    nonBlank kind field value = .ok ⟨printed⟩ := dif_neg (Bool.eq_false_iff.mp printed)

theorem identifier_of_isIdentifier (named : IsIdentifier value) :
    identifier kind field value = .ok ⟨named⟩ := by
  -- The first check never fires: a name that is not empty has a character, and it is no white space.
  have printed : ¬ Text.isAllBlank value = true := by
    intro blank
    obtain ⟨c, member⟩ := List.exists_mem_of_ne_nil _ (mt String.toList_eq_nil_iff.mp named.1)
    have broken : Text.hasBlank value = true :=
      List.any_eq_true.mpr ⟨c, member, List.all_eq_true.mp blank c member⟩
    rw [named.2] at broken
    contradiction
  rw [identifier, dif_neg printed, dif_neg (Bool.eq_false_iff.mp named.2)]

theorem optional_of_valid (passes : ∀ value (holds : valid value), check value = .ok ⟨holds⟩)
    {given : Option String} (holds : ∀ value ∈ given, valid value) :
    optional check given = .ok ⟨holds⟩ := by
  cases given with
  | none => rfl
  | some value =>
    rw [optional, passes value (holds value rfl)]
    rfl

theorem each_of_valid (passes : ∀ value (holds : valid value), check value = .ok ⟨holds⟩)
    {values : List String} (holds : ∀ value ∈ values, valid value) :
    each check values = .ok ⟨holds⟩ := by
  induction values with
  | nil => rfl
  | cons value rest ih =>
    have later := (List.forall_mem_cons.mp holds).2
    exact bind_of_ok (passes value (holds value List.mem_cons_self)) (bind_of_ok (ih later) rfl)

end Checks

namespace Payload

/-- The constructor of its kind gives it, for some arguments. -/
def Admitted : Payload → Prop
  | classDecl decl => ∃ name role fileName, ClassDecl.checked name role fileName = .ok decl
  | method decl => ∃ name ownerRole verbs, MethodDecl.checked name ownerRole verbs = .ok decl
  | route decl => ∃ path verb name parameters,
      RouteDecl.checked path verb name parameters = .ok decl
  | configEntry entry => ∃ file key, ConfigEntry.checked file key = .ok entry
  | migration file => ∃ name timestamp, MigrationFile.checked name timestamp = .ok file
  | view file => ∃ path, ViewFile.checked path = .ok file
  | table decl => ∃ name model isPivot, TableDecl.checked name model isPivot = .ok decl
  | column decl => ∃ table name references, ColumnDecl.checked table name references = .ok decl
  | relation decl => ∃ model related relation table foreignKey,
      RelationDecl.checked model related relation table foreignKey = .ok decl
  | command decl => ∃ name, CommandDecl.checked name = .ok decl
  | validationRule rule => ∃ identifier, ValidationRule.checked identifier = .ok rule
  | pivotTable pivot => ∃ firstModel secondModel table,
      PivotTable.checked firstModel secondModel table = .ok pivot
  | foreignKey key => ∃ table column referencedModel,
      ForeignKeyRef.checked table column referencedModel = .ok key

end Payload

theorem toFact_ok {record : Record} {fact : Fact} (made : record.toFact = .ok fact) :
    fact.location = record.location ∧ record.payload = .ok fact.payload := by
  obtain ⟨payload, payloadOk, made⟩ := bind_ok made
  cases made
  exact ⟨rfl, payloadOk⟩

theorem exists_record_of_mem_ofRecordsFrom {index : Nat} {records : List Json.Value} {fact : Fact}
    (member : fact ∈ (Batch.ofRecordsFrom index records).facts) :
    ∃ record : Record, record.toFact = .ok fact := by
  induction records generalizing index with
  | nil => exact absurd member List.not_mem_nil
  | cons value rest ih =>
    rw [Batch.ofRecordsFrom] at member
    split at member
    case h_1 head accepted =>
      rcases List.mem_cons.mp member with rfl | later
      · obtain ⟨record, _, accepted⟩ := bind_ok accepted
        exact ⟨record, mapError_ok accepted⟩
      · exact ih later
    case h_2 => exact ih member

theorem exists_record_of_load {text : String} {batch : Batch} (loaded : load text = .ok batch) :
    ∀ fact ∈ batch.facts, ∃ record : Record, record.toFact = .ok fact := by
  obtain ⟨records, _, rfl⟩ := map_ok loaded
  exact fun _ => exists_record_of_mem_ofRecordsFrom

end Fact

theorem HttpVerb.parse?_name (verb : HttpVerb) : parse? verb.name = some verb := by
  cases verb <;> decide +kernel

theorem HttpVerb.isPrinted_name (verb : HttpVerb) : IsPrinted verb.name := by
  cases verb <;> decide +kernel

section Constructors
open Fact

theorem RouteDecl.checked_self (decl : Fact.Route) :
    checked decl.path decl.verb.name decl.name decl.parameters = .ok decl := by
  refine bind_of_ok (nonBlank_of_isPrinted decl.verb.isPrinted_name) ?_
  rw [HttpVerb.parse?_name]
  exact bind_of_ok (each_of_valid (fun _ => identifier_of_isIdentifier) decl.parametersNamed)
    (bind_of_ok (nonBlank_of_isPrinted decl.printed)
      (bind_of_ok (optional_of_valid (fun _ => identifier_of_isIdentifier) decl.named) rfl))

theorem RelationDecl.checked_self (decl : Fact.Relation) :
    checked decl.model decl.related decl.relation decl.table decl.foreignKey = .ok decl := by
  have placed : ¬ (decl.table.isSome && decl.relation != .belongsToMany) = true := by
    simpa using decl.manyToMany
  rw [checked, dif_neg placed]
  exact bind_of_ok (identifier_of_isIdentifier decl.modelNamed)
    (bind_of_ok (identifier_of_isIdentifier decl.relatedNamed)
      (bind_of_ok (optional_of_valid (fun _ => identifier_of_isIdentifier) decl.tableNamed)
        (bind_of_ok (optional_of_valid (fun _ => identifier_of_isIdentifier) decl.keyNamed) rfl)))

theorem PivotTable.checked_self (pivot : Fact.Pivot) :
    checked pivot.firstModel pivot.secondModel pivot.table = .ok pivot :=
  bind_of_ok (identifier_of_isIdentifier pivot.firstNamed)
    (bind_of_ok (identifier_of_isIdentifier pivot.secondNamed)
      (bind_of_ok (identifier_of_isIdentifier pivot.tableNamed) rfl))

theorem ForeignKeyRef.checked_self (key : Fact.Key) :
    checked key.table key.column key.referencedModel = .ok key :=
  bind_of_ok (identifier_of_isIdentifier key.inTable)
    (bind_of_ok (identifier_of_isIdentifier key.named)
      (bind_of_ok (identifier_of_isIdentifier key.referring) rfl))

theorem Fact.Method.eq_of_parts {one other : Fact.Method}
    (same : one.toMethodDecl = other.toMethodDecl) : one = other := by
  cases one
  cases other
  cases same
  rfl

/-- There are no facts but those that the constructors give. -/
theorem Fact.Payload.admitted (payload : Payload) : payload.Admitted := by
  cases payload with
  | classDecl decl =>
    exact ⟨decl.name, decl.role, decl.fileName, bind_of_ok (identifier_of_isIdentifier decl.named)
      (bind_of_ok (optional_of_valid (fun _ => nonBlank_of_isPrinted) decl.inFile) rfl)⟩
  | method decl =>
    obtain ⟨⟨name, ownerRole, verbs⟩, named, isSet⟩ := decl
    refine ⟨name, ownerRole, verbs,
      bind_of_ok (identifier_of_isIdentifier named) (congrArg Except.ok ?_)⟩
    exact Fact.Method.eq_of_parts (congrArg (MethodDecl.mk name ownerRole) isSet)
  | route decl => exact ⟨_, _, _, _, RouteDecl.checked_self decl⟩
  | configEntry entry =>
    exact ⟨entry.file, entry.key, bind_of_ok (nonBlank_of_isPrinted entry.inFile)
      (bind_of_ok (identifier_of_isIdentifier entry.named) rfl)⟩
  | migration file =>
    exact ⟨file.name, file.timestamp, bind_of_ok (identifier_of_isIdentifier file.named)
      (bind_of_ok (optional_of_valid (fun _ => identifier_of_isIdentifier) file.stamped) rfl)⟩
  | view file => exact ⟨file.path, bind_of_ok (nonBlank_of_isPrinted file.printed) rfl⟩
  | table decl =>
    exact ⟨decl.name, decl.model, decl.isPivot, bind_of_ok (identifier_of_isIdentifier decl.named)
      (bind_of_ok (optional_of_valid (fun _ => identifier_of_isIdentifier) decl.modelNamed) rfl)⟩
  | column decl =>
    exact ⟨decl.table, decl.name, decl.references,
      bind_of_ok (identifier_of_isIdentifier decl.inTable)
        (bind_of_ok (identifier_of_isIdentifier decl.named)
          (bind_of_ok (optional_of_valid (fun _ => identifier_of_isIdentifier) decl.referring) rfl))⟩
  | relation decl => exact ⟨_, _, _, _, _, RelationDecl.checked_self decl⟩
  | command decl =>
    exact ⟨decl.name, bind_of_ok (identifier_of_isIdentifier decl.named) rfl⟩
  | validationRule rule =>
    exact ⟨rule.identifier, bind_of_ok (identifier_of_isIdentifier rule.named) rfl⟩
  | pivotTable pivot => exact ⟨_, _, _, PivotTable.checked_self pivot⟩
  | foreignKey key => exact ⟨_, _, _, ForeignKeyRef.checked_self key⟩

theorem Fact.Pivot.eq_of_parts {one other : Fact.Pivot}
    (same : one.toPivotTable = other.toPivotTable) : one = other := by
  cases one
  cases other
  cases same
  rfl

theorem Fact.Key.eq_of_parts {one other : Fact.Key}
    (same : one.toForeignKeyRef = other.toForeignKeyRef) : one = other := by
  cases one
  cases other
  cases same
  rfl

theorem PivotTable.checked_eq_ok_iff {firstModel secondModel table : String} {pivot : Fact.Pivot} :
    checked firstModel secondModel table = .ok pivot ↔
      pivot.toPivotTable = ⟨firstModel, secondModel, table⟩ := by
  constructor
  · intro accepted
    obtain ⟨_, _, accepted⟩ := bind_ok accepted
    obtain ⟨_, _, accepted⟩ := bind_ok accepted
    obtain ⟨_, _, accepted⟩ := bind_ok accepted
    cases accepted
    rfl
  · intro parts
    have same := PivotTable.checked_self pivot
    rwa [parts] at same

theorem ForeignKeyRef.checked_eq_ok_iff {table column referencedModel : String} {key : Fact.Key} :
    checked table column referencedModel = .ok key ↔
      key.toForeignKeyRef = ⟨table, column, referencedModel⟩ := by
  constructor
  · intro accepted
    obtain ⟨_, _, accepted⟩ := bind_ok accepted
    obtain ⟨_, _, accepted⟩ := bind_ok accepted
    obtain ⟨_, _, accepted⟩ := bind_ok accepted
    cases accepted
    rfl
  · intro parts
    have same := ForeignKeyRef.checked_self key
    rwa [parts] at same

theorem RouteDecl.checked_eq_ok_iff {path other verb : String} {name : Option String}
    {decl moved : Fact.Route} (accepted : checked path verb name [] = .ok decl) :
    checked other verb name [] = .ok moved ↔
      moved.toRouteDecl = ⟨other, decl.verb, decl.name, []⟩ := by
  unfold checked at accepted ⊢
  obtain ⟨verbPrinted, verbOk, accepted⟩ := bind_ok accepted
  cases parsed : HttpVerb.parse? verb with
  | none =>
    rw [parsed] at accepted
    contradiction
  | some kept =>
    rw [parsed] at accepted
    obtain ⟨parametersNamed, none, accepted⟩ := bind_ok accepted
    obtain ⟨printed, _, accepted⟩ := bind_ok accepted
    obtain ⟨named, nameOk, accepted⟩ := bind_ok accepted
    cases accepted
    constructor
    · intro movedOk
      obtain ⟨_, _, movedOk⟩ := bind_ok movedOk
      obtain ⟨_, _, movedOk⟩ := bind_ok movedOk
      obtain ⟨_, _, movedOk⟩ := bind_ok movedOk
      obtain ⟨_, _, movedOk⟩ := bind_ok movedOk
      cases movedOk
      rfl
    · intro parts
      obtain ⟨_, movedPrinted, _, _⟩ := moved
      cases parts
      exact bind_of_ok verbOk (bind_of_ok none
        (bind_of_ok (nonBlank_of_isPrinted movedPrinted) (bind_of_ok nameOk rfl)))

end Constructors

end NamingAudit
