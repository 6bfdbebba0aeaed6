import NamingAudit.Proofs.Admission
import NamingAudit.Proofs.ModelIndex

/-! The join of composite facts, as maps of least values. Both kinds of composites collect, under each
name, the least place of the facts that contribute to it, so that the join depends on which facts
there are and not on their order or number. Every composite stands where a fact stands, and the
composites are in the order of their names. -/

namespace NamingAudit
open Std

namespace Composite

def pivots (facts : List Fact) : SortedMap Names Location :=
  SortedMap.collect earlier (facts.filterMap pivotOf?)

def foreignKeys (facts : List Fact) : SortedMap Names Location :=
  SortedMap.collect earlier (facts.filterMap (foreignKeyOf? (.ofFacts facts)))

def pivotFacts (facts : List Fact) : List Fact := (pivots facts).entries.filterMap pivotFact?

def keyFacts (facts : List Fact) : List Fact := (foreignKeys facts).entries.filterMap foreignKeyFact?

theorem join_eq (facts : List Fact) : join facts = pivotFacts facts ++ keyFacts facts := rfl

theorem join_eq_join {first second : List Fact} (samePivots : pivots first = pivots second)
    (sameKeys : foreignKeys first = foreignKeys second) : join first = join second := by
  rw [join_eq, join_eq, pivotFacts, pivotFacts, keyFacts, keyFacts, samePivots, sameKeys]

theorem pivotOf?_location {fact : Fact} {entry : Names × Location}
    (contributed : pivotOf? fact = some entry) : entry.2 = fact.location := by
  unfold pivotOf? at contributed
  split at contributed
  · obtain ⟨names, _, rfl⟩ := Option.map_eq_some_iff.mp contributed
    rfl
  · contradiction

theorem foreignKeyOf?_location {index : ModelIndex} {fact : Fact} {entry : Names × Location}
    (contributed : foreignKeyOf? index fact = some entry) : entry.2 = fact.location := by
  obtain ⟨names, _, rfl⟩ := Option.map_eq_some_iff.mp contributed
  rfl

namespace Names

def IsValid (names : Names) : Prop :=
  IsIdentifier names.first ∧ IsIdentifier names.second ∧ IsIdentifier names.third

def toPivot (names : Names) : PivotTable := ⟨names.first, names.second, names.third⟩

def toKey (names : Names) : ForeignKeyRef := ⟨names.first, names.second, names.third⟩

theorem toPivot_injective {one other : Names} (same : one.toPivot = other.toPivot) :
    one = other := by
  cases one
  cases other
  cases same
  rfl

theorem toKey_injective {one other : Names} (same : one.toKey = other.toKey) : one = other := by
  cases one
  cases other
  cases same
  rfl

end Names

theorem pivotFact?_eq_some_iff {entry : Names × Location} {composite : Fact} :
    pivotFact? entry = some composite ↔ ∃ pivot : Fact.Pivot,
      pivot.toPivotTable = entry.1.toPivot ∧ composite = ⟨entry.2, .pivotTable pivot⟩ := by
  constructor
  · intro made
    unfold pivotFact? at made
    split at made
    · next pivot accepted =>
      cases made
      exact ⟨pivot, PivotTable.checked_eq_ok_iff.mp accepted, rfl⟩
    · contradiction
  · rintro ⟨pivot, parts, rfl⟩
    rw [pivotFact?, PivotTable.checked_eq_ok_iff.mpr parts]

theorem foreignKeyFact?_eq_some_iff {entry : Names × Location} {composite : Fact} :
    foreignKeyFact? entry = some composite ↔ ∃ key : Fact.Key,
      key.toForeignKeyRef = entry.1.toKey ∧ composite = ⟨entry.2, .foreignKey key⟩ := by
  constructor
  · intro made
    unfold foreignKeyFact? at made
    split at made
    · next key accepted =>
      cases made
      exact ⟨key, ForeignKeyRef.checked_eq_ok_iff.mp accepted, rfl⟩
    · contradiction
  · rintro ⟨key, parts, rfl⟩
    rw [foreignKeyFact?, ForeignKeyRef.checked_eq_ok_iff.mpr parts]

def namesOf (composite : Fact) : Names :=
  match composite.payload with
  | .pivotTable pivot => ⟨pivot.firstModel, pivot.secondModel, pivot.table⟩
  | .foreignKey key => ⟨key.table, key.column, key.referencedModel⟩
  | _ => ⟨"", "", ""⟩

def NamesAscend (composites : List Fact) : Prop :=
  composites.Pairwise fun first second => compare (namesOf first) (namesOf second) = .lt

theorem namesAscend_made {make : Names × Location → Option Fact}
    (named : ∀ entry composite, make entry = some composite → namesOf composite = entry.1)
    (map : SortedMap Names Location) : NamesAscend (map.entries.filterMap make) := by
  rw [NamesAscend, List.pairwise_filterMap]
  refine map.ascending.imp fun {first second} less one oneMade other otherMade => ?_
  rw [named _ _ oneMade, named _ _ otherMade]
  exact less

theorem namesAscend_pivotFacts (facts : List Fact) : NamesAscend (pivotFacts facts) := by
  refine namesAscend_made (fun entry composite made => ?_) _
  obtain ⟨pivot, parts, rfl⟩ := pivotFact?_eq_some_iff.mp made
  simp [namesOf, parts, Names.toPivot]

theorem namesAscend_keyFacts (facts : List Fact) : NamesAscend (keyFacts facts) := by
  refine namesAscend_made (fun entry composite made => ?_) _
  obtain ⟨key, parts, rfl⟩ := foreignKeyFact?_eq_some_iff.mp made
  simp [namesOf, parts, Names.toKey]

theorem mem_pivotFacts_iff {facts : List Fact} {composite : Fact} :
    composite ∈ pivotFacts facts ↔ ∃ names place, (pivots facts).get? names = some place ∧
      ∃ pivot : Fact.Pivot, pivot.toPivotTable = names.toPivot ∧
        composite = ⟨place, .pivotTable pivot⟩ := by
  simp only [pivotFacts, List.mem_filterMap, Prod.exists, SortedMap.mem_entries_iff,
    pivotFact?_eq_some_iff]

theorem mem_keyFacts_iff {facts : List Fact} {composite : Fact} :
    composite ∈ keyFacts facts ↔ ∃ names place, (foreignKeys facts).get? names = some place ∧
      ∃ key : Fact.Key, key.toForeignKeyRef = names.toKey ∧
        composite = ⟨place, .foreignKey key⟩ := by
  simp only [keyFacts, List.mem_filterMap, Prod.exists, SortedMap.mem_entries_iff,
    foreignKeyFact?_eq_some_iff]

section Members
variable {facts : List Fact} {composite : Fact}

theorem kind_of_mem_pivotFacts (member : composite ∈ pivotFacts facts) :
    composite.kind = .pivotTable := by
  obtain ⟨_, _, _, _, _, rfl⟩ := mem_pivotFacts_iff.mp member
  rfl

theorem kind_of_mem_keyFacts (member : composite ∈ keyFacts facts) :
    composite.kind = .foreignKey := by
  obtain ⟨_, _, _, _, _, rfl⟩ := mem_keyFacts_iff.mp member
  rfl

theorem isComposite_of_mem_join (member : composite ∈ join facts) :
    composite.kind.isComposite = true := by
  rw [join_eq, List.mem_append] at member
  rcases member with pivot | key
  · rw [kind_of_mem_pivotFacts pivot]
    rfl
  · rw [kind_of_mem_keyFacts key]
    rfl

theorem location_of_mem_join (member : composite ∈ join facts) :
    ∃ fact ∈ facts, fact.location = composite.location := by
  rw [join_eq, List.mem_append, mem_pivotFacts_iff, mem_keyFacts_iff] at member
  rcases member with ⟨names, place, found, _, _, rfl⟩ | ⟨names, place, found, _, _, rfl⟩
  · have entry := SortedMap.mem_entries_iff.mpr found
    obtain ⟨fact, present, given⟩ := List.mem_filterMap.mp (SortedMap.mem_of_mem_collect entry)
    exact ⟨fact, present, (pivotOf?_location given).symm⟩
  · have entry := SortedMap.mem_entries_iff.mpr found
    obtain ⟨fact, present, given⟩ := List.mem_filterMap.mp (SortedMap.mem_of_mem_collect entry)
    exact ⟨fact, present, (foreignKeyOf?_location given).symm⟩

end Members

def compareNames : Fact → Fact → Ordering := compareLex (compareOn Fact.kind) (compareOn namesOf)

instance : TransCmp compareNames :=
  inferInstanceAs (TransCmp (compareLex (compareOn Fact.kind) (compareOn namesOf)))

theorem join_ascending (facts : List Fact) :
    (join facts).Pairwise fun first second => compareNames first second = .lt := by
  have listed {composites : List Fact} {kind : FactKind} (ascend : NamesAscend composites)
      (alike : ∀ composite ∈ composites, composite.kind = kind) :
      composites.Pairwise fun first second => compareNames first second = .lt := by
    refine ascend.imp_of_mem fun {first second} firstMember secondMember less => ?_
    simp [compareNames, compareLex, compareOn, alike first firstMember, alike second secondMember,
      less]
  rw [join_eq, List.pairwise_append]
  refine ⟨listed (namesAscend_pivotFacts facts) fun _ => kind_of_mem_pivotFacts,
    listed (namesAscend_keyFacts facts) fun _ => kind_of_mem_keyFacts,
    fun pivot pivotMember key keyMember => ?_⟩
  rw [compareNames, compareLex, compareOn, kind_of_mem_pivotFacts pivotMember,
    kind_of_mem_keyFacts keyMember]
  rfl

/-- The join depends on which facts there are, as long as no two of them stand at places that are the
same but for their spelling. -/
theorem join_congr {first second : List Fact} (sameFacts : ∀ fact, fact ∈ first ↔ fact ∈ second)
    (spelledAlike : ∀ one ∈ first, ∀ other ∈ first, compare one.location other.location = .eq →
      one.location = other.location) :
    join first = join second := by
  have collected (pick : Fact → Option (Names × Location))
      (placed : ∀ fact entry, pick fact = some entry → entry.2 = fact.location) :
      SortedMap.collect earlier (first.filterMap pick) =
        SortedMap.collect earlier (second.filterMap pick) := by
    refine SortedMap.collect_least_congr (fun pair => ?_) fun names one other left right tie => ?_
    · simp only [List.mem_filterMap, sameFacts]
    · obtain ⟨oneFact, onePresent, oneGiven⟩ := List.mem_filterMap.mp left
      obtain ⟨otherFact, otherPresent, otherGiven⟩ := List.mem_filterMap.mp right
      have onePlace : one = oneFact.location := placed oneFact _ oneGiven
      have otherPlace : other = otherFact.location := placed otherFact _ otherGiven
      rw [onePlace, otherPlace] at tie ⊢
      exact spelledAlike oneFact onePresent otherFact otherPresent tie
  have samePivots : pivots first = pivots second :=
    collected pivotOf? fun _ _ => pivotOf?_location
  have sameKeys : foreignKeys first = foreignKeys second := by
    have sameContent : ModelIndex.SameContent first second := fun payload _ => by
      simp only [sameFacts]
    rw [foreignKeys, foreignKeys, ← ModelIndex.ofFacts_congr sameContent]
    exact collected _ fun _ _ => foreignKeyOf?_location
  exact join_eq_join samePivots sameKeys

def reads : Fact.Payload → Bool
  | .table decl => decl.model.isSome
  | .classDecl decl => decl.role == .model
  | .column decl => decl.references.isSome
  | .relation decl =>
    decl.relation == .belongsToMany && decl.table.isSome ||
      decl.relation == .belongsTo && decl.foreignKey.isSome
  | _ => false

section Unread
variable {fact : Fact} (unread : reads fact.payload = false)
include unread

theorem declared?_of_unread : ModelIndex.declared? fact = none := by
  obtain ⟨location, payload⟩ := fact
  cases payload with
  | table decl => simpa [reads, ModelIndex.declared?] using unread
  | _ => rfl

theorem conventional?_of_unread (tables : SortedMap String String) :
    ModelIndex.conventional? tables fact = none := by
  obtain ⟨location, payload⟩ := fact
  cases payload with
  | classDecl decl =>
    have other : (decl.role == .model) = false := unread
    simp [ModelIndex.conventional?, other]
  | _ => rfl

theorem pivotOf?_of_unread : pivotOf? fact = none := by
  obtain ⟨location, payload⟩ := fact
  cases payload with
  | relation decl =>
    simp only [reads, Bool.or_eq_false_iff, Bool.and_eq_false_iff] at unread
    rcases unread.1 with other | unnamed
    · simp [pivotOf?, pivotNames?, other]
    · have absent : decl.table = none := by simpa using unnamed
      simp [pivotOf?, pivotNames?, absent]
  | _ => rfl

theorem foreignKeyOf?_of_unread (index : ModelIndex) : foreignKeyOf? index fact = none := by
  obtain ⟨location, payload⟩ := fact
  cases payload with
  | relation decl =>
    simp only [reads, Bool.or_eq_false_iff, Bool.and_eq_false_iff] at unread
    rcases unread.2 with other | unnamed
    · simp [foreignKeyOf?, foreignKeyNames?, other]
    · have absent : decl.foreignKey = none := by simpa using unnamed
      simp [foreignKeyOf?, foreignKeyNames?, absent]
  | column decl =>
    have absent : decl.references = none := by simpa [reads] using unread
    simp [foreignKeyOf?, foreignKeyNames?, absent]
  | _ => rfl

end Unread

theorem join_filter {facts : List Fact} {keep : Fact → Bool}
    (unread : ∀ fact ∈ facts, keep fact = false → reads fact.payload = false) :
    join (facts.filter keep) = join facts := by
  have ignored {β : Type} (pick : Fact → Option β)
      (silent : ∀ fact : Fact, reads fact.payload = false → pick fact = none) :
      (facts.filter keep).filterMap pick = facts.filterMap pick := by
    rw [List.filterMap_filter]
    apply List.filterMap_congr
    intro fact member
    cases kept : keep fact with
    | true => rfl
    | false => exact (silent fact (unread fact member kept)).symm
  have declared := ignored ModelIndex.declared? fun _ => declared?_of_unread
  have tables : ModelIndex.declaredTables (facts.filter keep) =
      ModelIndex.declaredTables facts := by
    rw [ModelIndex.declaredTables, ModelIndex.declaredTables, declared]
  have conventional (tables : SortedMap String String) :=
    ignored (ModelIndex.conventional? tables) fun _ silent => conventional?_of_unread silent tables
  have index : ModelIndex.ofFacts (facts.filter keep) = ModelIndex.ofFacts facts := by
    rw [ModelIndex.ofFacts_eq, ModelIndex.ofFacts_eq, declared, tables, conventional]
  have samePivots : pivots (facts.filter keep) = pivots facts := by
    rw [pivots, pivots, ignored pivotOf? fun _ => pivotOf?_of_unread]
  have sameKeys : foreignKeys (facts.filter keep) = foreignKeys facts := by
    rw [foreignKeys, foreignKeys, index,
      ignored (foreignKeyOf? _) fun _ silent => foreignKeyOf?_of_unread silent _]
  exact join_eq_join samePivots sameKeys

end Composite

end NamingAudit
