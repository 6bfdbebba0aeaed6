import Mathlib.Data.List.Permutation
import NamingAudit.Proofs.DocumentText

/-! Records are judged one by one. The facts of a batch and what it rejects share the positions of the
records out among them, and what becomes of a record depends on that record alone. -/

namespace NamingAudit.Fact
open NamingAudit.Json

section Places

variable {members : List (String × Value)} {key : String} {value : Value} {record : Record}

theorem asText_eq_ok_iff {text : String} : value.asText = .ok text ↔ value = .text text := by
  cases value <;> simp [Value.asText]

theorem asSize_eq_ok_iff {size : Nat} : value.asSize = .ok size ↔ value = .number (.natural size) := by
  cases value with
  | number number => cases number <;> simp [Value.asSize]
  | _ => simp [Value.asSize]

theorem field?_ok {α : Type} {convert : Value → Shaped α} {found : Option α}
    (read : field? members key convert = .ok found) :
    (members.lookup key = none ∧ found = none) ∨
      ∃ value kept, members.lookup key = some value ∧ convert value = .ok kept ∧ found = some kept := by
  unfold field? at read
  split at read
  · next absent =>
    cases read
    exact .inl ⟨absent, rfl⟩
  · next value present =>
    obtain ⟨kept, converted, same⟩ := map_ok read
    exact .inr ⟨value, kept, present, converted, same.symm⟩

theorem required_ok {α : Type} {given : Option α} {kept : α} (found : required key given = .ok kept) :
    given = some kept := by
  cases given with
  | none => contradiction
  | some value => exact congrArg some (Except.ok.inj found)

theorem natural?_of_field? {size : Option Nat}
    (read : field? members key Value.asSize = .ok size) :
    ((members.lookup key).bind Value.natural?).getD 0 = size.getD 0 := by
  rcases field?_ok read with ⟨absent, rfl⟩ | ⟨value, kept, present, converted, rfl⟩
  · rw [absent]
    rfl
  · rw [present, asSize_eq_ok_iff.mp converted]
    rfl

theorem locationOf?_object {file : String} (named : members.lookup "file" = some (.text file)) :
    locationOf? (.object members) =
      some ⟨⟨file⟩, ((members.lookup "line").bind Value.natural?).getD 0,
        ((members.lookup "column").bind Value.natural?).getD 0⟩ := by
  simp [locationOf?, Value.member?, named, Value.text?]

theorem locationOf?_of_decode (decoded : Record.decode value = .ok record) :
    locationOf? value = some record.location := by
  cases value with
  | object members =>
    obtain ⟨column, columnRead, decoded⟩ := bind_ok decoded
    obtain ⟨given, fileRead, decoded⟩ := bind_ok decoded
    obtain ⟨line, lineRead, decoded⟩ := bind_ok decoded
    obtain ⟨file, fileGiven, decoded⟩ := bind_ok decoded
    obtain ⟨_, _, decoded⟩ := bind_ok decoded
    obtain ⟨_, _, decoded⟩ := bind_ok decoded
    obtain ⟨body, _, decoded⟩ := bind_ok decoded
    cases decoded
    cases required_ok fileGiven
    rcases field?_ok fileRead with ⟨_, none⟩ | ⟨value, kept, present, converted, same⟩
    · contradiction
    · cases same
      rw [asText_eq_ok_iff.mp converted] at present
      rw [locationOf?_object present, natural?_of_field? lineRead, natural?_of_field? columnRead]
      rfl
  | _ => contradiction

theorem locationOf?_isSome_iff : (locationOf? value).isSome ↔
    ∃ members file, value = .object members ∧ members.lookup "file" = some (.text file) := by
  constructor
  · intro placed
    cases value with
    | object members =>
      cases named : members.lookup "file" with
      | none => simp [locationOf?, Value.member?, named] at placed
      | some file =>
        cases file with
        | text file => exact ⟨members, file, rfl, named⟩
        | _ => simp [locationOf?, Value.member?, named, Value.text?] at placed
    | _ => contradiction
  · rintro ⟨members, file, rfl, named⟩
    rw [locationOf?_object named]
    rfl

end Places

section Judgement

variable {value : Value} {record : Record} {fact : Fact}

theorem payload_kind {payload : Payload} (accepted : record.payload = .ok payload) :
    payload.kind.isComposite = false := by
  obtain ⟨file, line, column, body⟩ := record
  cases body
  case method =>
    obtain ⟨verbs, _, accepted⟩ := bind_ok accepted
    obtain ⟨decl, _, accepted⟩ := bind_ok accepted
    cases accepted
    rfl
  all_goals
    obtain ⟨decl, _, rfl⟩ := map_ok accepted
    rfl

theorem ofRecord_ok (accepted : ofRecord value = .ok fact) :
    ∃ record, Record.decode value = .ok record ∧ record.toFact = .ok fact := by
  obtain ⟨record, decoded, made⟩ := bind_ok accepted
  exact ⟨record, mapError_ok decoded, mapError_ok made⟩

theorem ofRecord_invalid {error : FactError}
    (refused : ofRecord value = .error (.invalid error)) :
    ∃ record, Record.decode value = .ok record ∧ record.toFact = .error error := by
  unfold ofRecord at refused
  cases decoded : Record.decode value with
  | error fault =>
    rw [decoded] at refused
    cases refused
  | ok record =>
    rw [decoded] at refused
    change record.toFact.mapError RecordError.invalid = _ at refused
    cases made : record.toFact with
    | ok fact =>
      rw [made] at refused
      cases refused
    | error fault =>
      rw [made] at refused
      cases refused
      exact ⟨record, rfl, made⟩

end Judgement

namespace Batch

def acceptedAt? (numbered : Value × Nat) : Option (Nat × Fact) :=
  (ofRecord numbered.1).toOption.map fun fact => (numbered.2, fact)

def rejectedAt? (numbered : Value × Nat) : Option Rejected :=
  match ofRecord numbered.1 with
  | .ok _ => none
  | .error error => some ⟨numbered.2, locationOf? numbered.1, error⟩

theorem acceptedAt?_of_ok {value : Value} {fact : Fact} (accepted : ofRecord value = .ok fact)
    (index : Nat) :
    acceptedAt? (value, index) = some (index, fact) ∧ rejectedAt? (value, index) = none := by
  simp [acceptedAt?, rejectedAt?, accepted, Except.toOption]

theorem rejectedAt?_of_error {value : Value} {error : RecordError}
    (refused : ofRecord value = .error error) (index : Nat) :
    acceptedAt? (value, index) = none ∧
      rejectedAt? (value, index) = some ⟨index, locationOf? value, error⟩ := by
  simp [acceptedAt?, rejectedAt?, refused, Except.toOption]

theorem ofRecordsFrom_eq (index : Nat) (records : List Value) :
    ofRecordsFrom index records =
      ⟨((records.zipIdx index).filterMap acceptedAt?).map Prod.snd,
        (records.zipIdx index).filterMap rejectedAt?⟩ := by
  induction records generalizing index with
  | nil => rfl
  | cons value rest ih =>
    rw [ofRecordsFrom, ih, List.zipIdx_cons, List.filterMap_cons, List.filterMap_cons]
    cases judged : ofRecord value with
    | ok fact =>
      obtain ⟨accepted, notRejected⟩ := acceptedAt?_of_ok judged index
      rw [accepted, notRejected]
      rfl
    | error error =>
      obtain ⟨notAccepted, rejected⟩ := rejectedAt?_of_error judged index
      rw [notAccepted, rejected]

theorem positions_perm (numbered : List (Value × Nat)) :
    ((numbered.filterMap acceptedAt?).map Prod.fst ++
      (numbered.filterMap rejectedAt?).map Rejected.index).Perm (numbered.map Prod.snd) := by
  induction numbered with
  | nil => exact .nil
  | cons first rest ih =>
    obtain ⟨value, index⟩ := first
    rw [List.filterMap_cons, List.filterMap_cons]
    cases judged : ofRecord value with
    | ok fact =>
      obtain ⟨accepted, notRejected⟩ := acceptedAt?_of_ok judged index
      rw [accepted, notRejected]
      exact ih.cons _
    | error error =>
      obtain ⟨notAccepted, rejected⟩ := rejectedAt?_of_error judged index
      rw [notAccepted, rejected]
      exact List.perm_middle.trans (ih.cons _)

theorem acceptedAt?_index (numbered : Value × Nat) (accepted : Nat × Fact)
    (found : acceptedAt? numbered = some accepted) : accepted.1 = numbered.2 := by
  obtain ⟨fact, _, rfl⟩ := Option.map_eq_some_iff.mp found
  rfl

theorem rejectedAt?_index (numbered : Value × Nat) (rejected : Rejected)
    (found : rejectedAt? numbered = some rejected) : rejected.index = numbered.2 := by
  unfold rejectedAt? at found
  split at found
  · contradiction
  · cases found
    rfl

theorem sublist_map_filterMap {α β γ : Type} {choose : α → Option β} {key : β → γ} {position : α → γ}
    (kept : ∀ given chosen, choose given = some chosen → key chosen = position given)
    (given : List α) : ((given.filterMap choose).map key).Sublist (given.map position) := by
  induction given with
  | nil => exact .slnil
  | cons first rest ih =>
    rw [List.filterMap_cons]
    cases chosen : choose first with
    | none => exact ih.cons _
    | some value =>
      rw [List.map_cons, List.map_cons, kept first value chosen]
      exact ih.cons_cons _

theorem positions_ascending (records : List Value) :
    (records.zipIdx.map Prod.snd).Pairwise (· < ·) := by
  rw [List.zipIdx_map_snd]
  exact List.pairwise_lt_range'

theorem mem_accepted {records : List Value} {index : Nat} {fact : Fact}
    (member : (index, fact) ∈ records.zipIdx.filterMap acceptedAt?) :
    ∃ value, records[index]? = some value ∧ ofRecord value = .ok fact := by
  obtain ⟨⟨value, position⟩, present, accepted⟩ := List.mem_filterMap.mp member
  have located := List.mem_zipIdx_iff_getElem?.mp present
  cases judged : ofRecord value with
  | ok found =>
    rw [(acceptedAt?_of_ok judged position).1] at accepted
    cases accepted
    exact ⟨value, located, judged⟩
  | error error =>
    rw [(rejectedAt?_of_error judged position).1] at accepted
    contradiction

theorem mem_rejected {records : List Value} {rejected : Rejected}
    (member : rejected ∈ records.zipIdx.filterMap rejectedAt?) :
    ∃ value, records[rejected.index]? = some value ∧ ofRecord value = .error rejected.error ∧
      rejected.location = locationOf? value := by
  obtain ⟨⟨value, position⟩, present, refused⟩ := List.mem_filterMap.mp member
  have located := List.mem_zipIdx_iff_getElem?.mp present
  cases judged : ofRecord value with
  | ok fact =>
    rw [(acceptedAt?_of_ok judged position).2] at refused
    contradiction
  | error error =>
    rw [(rejectedAt?_of_error judged position).2] at refused
    cases refused
    exact ⟨value, located, judged, rfl⟩

structure Accounts (records : List Value) (batch : Batch) : Prop where
  partition : ∃ numbered : List (Nat × Fact),
    numbered.map Prod.snd = batch.facts ∧
      (numbered.map Prod.fst).Pairwise (· < ·) ∧
        (numbered.map Prod.fst ++ batch.rejected.map Rejected.index).Perm (List.range records.length) ∧
          ∀ index fact, (index, fact) ∈ numbered → ∃ value, records[index]? = some value ∧
            ofRecord value = .ok fact ∧ locationOf? value = some fact.location
  ascending : (batch.rejected.map Rejected.index).Pairwise (· < ·)
  rejected : ∀ rejected ∈ batch.rejected, ∃ value, records[rejected.index]? = some value ∧
    ofRecord value = .error rejected.error
  /-- A record with unfit content is placed where a fact from it would stand, whatever the content. -/
  invalid : ∀ rejected ∈ batch.rejected, ∀ error, rejected.error = .invalid error →
    ∃ value record, records[rejected.index]? = some value ∧ Record.decode value = .ok record ∧
      record.toFact = .error error ∧ rejected.location = some record.location ∧
        ∀ body fact, { record with body := body : Record }.toFact = .ok fact →
          fact.location = record.location
  shape : ∀ rejected ∈ batch.rejected, ∀ fault, rejected.error = .shape fault →
    (rejected.location.isSome ↔ ∃ members file, records[rejected.index]? = some (.object members) ∧
      members.lookup "file" = some (.text file))
  single : ∀ fact ∈ batch.facts, fact.kind ≠ .pivotTable ∧ fact.kind ≠ .foreignKey

theorem accounts_ofRecords (records : List Value) : (ofRecords records).Accounts records := by
  have ascending := positions_ascending records
  have perm := positions_perm records.zipIdx
  rw [List.zipIdx_map_snd, ← List.range_eq_range'] at perm
  rw [ofRecords, ofRecordsFrom_eq]
  refine ⟨⟨records.zipIdx.filterMap acceptedAt?, rfl, ?_, perm, ?_⟩, ?_, ?_, ?_, ?_, ?_⟩
  · exact ascending.sublist (sublist_map_filterMap acceptedAt?_index _)
  · intro index fact member
    obtain ⟨value, located, accepted⟩ := mem_accepted member
    obtain ⟨record, decoded, made⟩ := ofRecord_ok accepted
    exact ⟨value, located, accepted, by rw [locationOf?_of_decode decoded, (toFact_ok made).1]⟩
  · exact ascending.sublist (sublist_map_filterMap rejectedAt?_index _)
  · intro rejected member
    obtain ⟨value, located, refused, _⟩ := mem_rejected member
    exact ⟨value, located, refused⟩
  · intro rejected member error invalid
    obtain ⟨value, located, refused, place⟩ := mem_rejected member
    obtain ⟨record, decoded, made⟩ := ofRecord_invalid (invalid ▸ refused)
    rw [locationOf?_of_decode decoded] at place
    exact ⟨value, record, located, decoded, made, place, fun _ _ other => (toFact_ok other).1⟩
  · intro rejected member fault _
    obtain ⟨value, located, _, place⟩ := mem_rejected member
    rw [place, locationOf?_isSome_iff, located]
    simp only [Option.some.injEq]
  · intro fact member
    obtain ⟨⟨index, _⟩, numbered, rfl⟩ := List.mem_map.mp member
    obtain ⟨value, _, accepted⟩ := mem_accepted numbered
    obtain ⟨record, _, made⟩ := ofRecord_ok accepted
    have single := payload_kind (toFact_ok made).2
    exact ⟨fun pivot => by rw [← kind, pivot] at single; contradiction,
      fun key => by rw [← kind, key] at single; contradiction⟩

theorem ofRecordsFrom_append (index : Nat) (records more : List Value) :
    ofRecordsFrom index (records ++ more) =
      ⟨(ofRecordsFrom index records).facts ++ (ofRecordsFrom (index + records.length) more).facts,
        (ofRecordsFrom index records).rejected ++
          (ofRecordsFrom (index + records.length) more).rejected⟩ := by
  simp only [ofRecordsFrom_eq, List.zipIdx_append, List.filterMap_append, List.map_append]

end Batch

def Rejected.shift (offset : Nat) (rejected : Rejected) : Rejected :=
  { rejected with index := offset + rejected.index }

namespace Batch

theorem ofRecordsFrom_shift (offset index : Nat) (records : List Value) :
    ofRecordsFrom (offset + index) records =
      ⟨(ofRecordsFrom index records).facts,
        (ofRecordsFrom index records).rejected.map (Rejected.shift offset)⟩ := by
  induction records generalizing index with
  | nil => rfl
  | cons value rest ih =>
    rw [ofRecordsFrom, ofRecordsFrom, Nat.add_assoc, ih]
    cases ofRecord value <;> rfl

end Batch

theorem accounts_of_load {text : String} {batch : Batch} (loaded : load text = .ok batch) :
    ∃ records, Document.read text = .ok records ∧ batch.Accounts records := by
  obtain ⟨records, read, rfl⟩ := map_ok loaded
  exact ⟨records, read, Batch.accounts_ofRecords records⟩

def Document.Spelled : List String → List Value → Prop :=
  List.Forall₂ fun text record => Spells (.keep Document.recordLevels) text.toList record

theorem load_ofTexts {texts : List String} {records : List Value}
    (spelled : Document.Spelled texts records) :
    load (Document.ofTexts texts) = .ok (Batch.ofRecords records) :=
  congrArg (Except.map Batch.ofRecords) (Document.read_ofTexts spelled)

/-- Each record is judged alone: the batch accounts for every position of the document, and a document
that goes on with more records adds what these give alone, counted on. How a document is written does
not matter; any that is read as the same records gives the same batch. -/
theorem load_record_by_record {texts others : List String} {records more : List Value}
    (spelled : Document.Spelled texts records) (spelledMore : Document.Spelled others more) :
    ∃ batch other,
      load (Document.ofTexts texts) = .ok batch ∧ batch.Accounts records ∧
      load (Document.ofTexts others) = .ok other ∧
      load (Document.ofTexts (texts ++ others)) =
        .ok ⟨batch.facts ++ other.facts,
          batch.rejected ++ other.rejected.map (Rejected.shift texts.length)⟩ ∧
      ∀ text, Document.read text = .ok records → load text = .ok batch := by
  refine ⟨_, _, load_ofTexts spelled, Batch.accounts_ofRecords records,
    load_ofTexts spelledMore, ?_, fun text read => congrArg (Except.map Batch.ofRecords) read⟩
  rw [load_ofTexts (List.rel_append spelled spelledMore), Batch.ofRecords, Batch.ofRecordsFrom_append,
    Nat.add_comm, Batch.ofRecordsFrom_shift, spelled.length_eq]
  rfl

/-- A command, a table without a name, no record at all, and a pivot table, of which there are none. -/
def mixedTexts : List String :=
  ["\x7b\"file\":\"a\",\"kind\":\"command\",\"name\":\"b\"\x7d",
    "\x7b\"file\":\"a\",\"kind\":\"table\",\"name\":\"\"\x7d", " null ",
    "\x7b\"file\":\"a\",\"kind\":\"pivot-table\"\x7d"]

def mixedRecords : List Value :=
  [.object [("file", .text "a"), ("kind", .text "command"), ("name", .text "b")],
    .object [("file", .text "a"), ("kind", .text "table"), ("name", .text "")], .null,
    .object [("file", .text "a"), ("kind", .text "pivot-table")]]

theorem spelled_mixed : Document.Spelled mixedTexts mixedRecords := by
  refine .cons ⟨[], ?_, by cbv⟩ (.cons ⟨[], ?_, by cbv⟩ (.cons ⟨[' '], ?_, by cbv⟩
    (.cons ⟨[], ?_, by cbv⟩ .nil)))
  all_goals cbv

theorem load_mixed_one_by_one :
    Document.Spelled mixedTexts mixedRecords ∧
      ∃ batch other : Batch, load (Document.ofTexts mixedTexts) = .ok batch ∧
        batch.Accounts mixedRecords ∧
        batch.facts.length = 1 ∧ batch.rejected.map Rejected.index = [1, 2, 3] ∧
        load (Document.ofTexts (mixedTexts ++ mixedTexts)) =
          .ok ⟨batch.facts ++ other.facts,
            batch.rejected ++ other.rejected.map (Rejected.shift 4)⟩ := by
  obtain ⟨batch, other, loaded, accounts, _, both, _⟩ :=
    load_record_by_record spelled_mixed spelled_mixed
  have same := Except.ok.inj (loaded.symm.trans (load_ofTexts spelled_mixed))
  refine ⟨spelled_mixed, batch, other, loaded, accounts, ?_, ?_, both⟩
  · rw [same]; decide +kernel
  · rw [same]; decide +kernel

end NamingAudit.Fact
