import NamingAudit.Proofs.Contributions

/-! What the join brings out, said of single facts. A composite occurs exactly when some fact gives
it and none of its names is empty, and it stands at the least place of the facts that give it. Facts
that are there already and composites make no difference, wherever they are put in, except that a
path may come out in another of its spellings. -/

namespace NamingAudit
open Std

namespace Composite

/-- A composite, or the same as one of the facts. -/
def Known (facts : List Fact) (fact : Fact) : Prop :=
  fact.kind.isComposite = true ∨ ∃ present ∈ facts, present.same fact = true

theorem Known.of_mem {facts : List Fact} {fact : Fact} (member : fact ∈ facts) : Known facts fact :=
  Or.inr ⟨fact, member, fact.same_self⟩

theorem Known.exists_present {facts : List Fact} {fact : Fact} (known : Known facts fact)
    (primary : fact.payload.kind.isComposite = false) :
    ∃ present ∈ facts, present.payload = fact.payload ∧
      compare fact.location present.location = .eq := by
  rcases known with isComposite | ⟨present, inside, same⟩
  · rw [Fact.kind, primary] at isComposite
    contradiction
  · simp only [Fact.same, Bool.and_eq_true, beq_iff_eq] at same
    exact ⟨present, inside, same.2, OrientedCmp.eq_symm (Location.compare_eq_iff.mpr same.1)⟩

theorem Places.tie {first second : List Fact} {gives : Fact.Payload → Prop}
    (primary : ∀ payload, gives payload → payload.kind.isComposite = false)
    (known : ∀ fact ∈ first, Known second fact) {place : Location}
    (placed : Places first gives place) :
    ∃ other, Places second gives other ∧ compare place other = .eq := by
  obtain ⟨fact, member, given, rfl⟩ := placed
  obtain ⟨present, inside, same, tie⟩ :=
    (known fact member).exists_present (primary fact.payload given)
  exact ⟨present.location, ⟨present, inside, same ▸ given, rfl⟩, tie⟩

theorem collected_append_known {pick : Fact → Option (Names × Location)}
    {gives : Names → Fact.Payload → Prop} {facts added : List Fact}
    (picks : ∀ fact names place, pick fact = some (names, place) ↔
      gives names fact.payload ∧ fact.location = place)
    (primary : ∀ names payload, gives names payload → payload.kind.isComposite = false)
    (known : ∀ fact ∈ added, Known facts fact) :
    SortedMap.collect earlier ((facts ++ added).filterMap pick) =
      SortedMap.collect earlier (facts.filterMap pick) := by
  rw [List.filterMap_append]
  apply SortedMap.collect_append_of_kept
  rintro ⟨names, place⟩ given
  obtain ⟨fact, member, picked⟩ := List.mem_filterMap.mp given
  obtain ⟨content, placed⟩ := (picks fact names place).mp picked
  obtain ⟨other, placedToo, tie⟩ :=
    Places.tie (primary names) known ⟨fact, member, content, placed⟩
  have least := collected_isLeast picks facts names
  cases found : (SortedMap.collect earlier (facts.filterMap pick)).get? names with
  | none =>
    rw [found] at least
    exact absurd placedToo (least other)
  | some old =>
    rw [found] at least
    refine ⟨old, rfl, ?_⟩
    have below : (compare old place).isLE := by
      rw [TransCmp.congr_right tie]
      exact least.2 other placedToo
    have notLess : compare place old ≠ .lt := by
      intro less
      rw [OrientedCmp.gt_of_lt less] at below
      contradiction
    simp [earlier, notLess]

def HasPivot (composites : List Fact) (place : Location) (pivot : PivotTable) : Prop :=
  ∃ made : Fact.Pivot, made.toPivotTable = pivot ∧ ⟨place, .pivotTable made⟩ ∈ composites

def HasKey (composites : List Fact) (place : Location) (key : ForeignKeyRef) : Prop :=
  ∃ made : Fact.Key, made.toForeignKeyRef = key ∧ ⟨place, .foreignKey made⟩ ∈ composites

theorem hasPivot_join_iff (facts : List Fact) (names : Names) (place : Location) :
    HasPivot (join facts) place names.toPivot ↔
      (pivots facts).get? names = some place ∧ names.IsValid := by
  constructor
  · rintro ⟨made, parts, member⟩
    rw [join_eq, List.mem_append, mem_pivotFacts_iff, mem_keyFacts_iff] at member
    rcases member with ⟨other, _, found, _, partsToo, same⟩ | ⟨_, _, _, _, _, same⟩
    · cases same
      rw [Names.toPivot_injective (parts.symm.trans partsToo)]
      obtain ⟨_, first, second, table⟩ := made
      cases partsToo
      exact ⟨found, first, second, table⟩
    · cases same
  · rintro ⟨found, valid⟩
    let made : Fact.Pivot := ⟨names.toPivot, valid.1, valid.2.1, valid.2.2⟩
    refine ⟨made, rfl, ?_⟩
    rw [join_eq, List.mem_append, mem_pivotFacts_iff]
    exact Or.inl ⟨names, place, found, made, rfl, rfl⟩

theorem hasKey_join_iff (facts : List Fact) (names : Names) (place : Location) :
    HasKey (join facts) place names.toKey ↔
      (foreignKeys facts).get? names = some place ∧ names.IsValid := by
  constructor
  · rintro ⟨made, parts, member⟩
    rw [join_eq, List.mem_append, mem_pivotFacts_iff, mem_keyFacts_iff] at member
    rcases member with ⟨_, _, _, _, _, same⟩ | ⟨other, _, found, _, partsToo, same⟩
    · cases same
    · cases same
      rw [Names.toKey_injective (parts.symm.trans partsToo)]
      obtain ⟨_, table, column, model⟩ := made
      cases partsToo
      exact ⟨found, table, column, model⟩
  · rintro ⟨found, valid⟩
    let made : Fact.Key := ⟨names.toKey, valid.1, valid.2.1, valid.2.2⟩
    refine ⟨made, rfl, ?_⟩
    rw [join_eq, List.mem_append, mem_keyFacts_iff]
    exact Or.inr ⟨names, place, found, made, rfl, rfl⟩

/-- Pivot tables and then foreign keys, each given by some fact and at the least place of those that
give it, and nothing that is given left out but keys with an empty name. The names that a key takes
from other facts are least too. -/
structure IsJoin (facts composites : List Fact) : Prop where
  sorted : ∃ pivots keys, composites = pivots ++ keys ∧
    (∀ composite ∈ pivots, composite.kind = .pivotTable) ∧ NamesAscend pivots ∧
    (∀ composite ∈ keys, composite.kind = .foreignKey) ∧ NamesAscend keys
  pivot_iff : ∀ pivot, (∃ place, HasPivot composites place pivot) ↔
    ∃ fact ∈ facts, GivesPivot fact.payload pivot
  key_iff : ∀ key, (∃ place, HasKey composites place key) ↔
    key.table ≠ "" ∧ key.referencedModel ≠ "" ∧
      ∃ fact ∈ facts, GivesKey (.ofFacts facts) fact.payload key
  pivot_least : ∀ place pivot, HasPivot composites place pivot →
    SortedMap.IsLeast compare (Places facts fun payload => GivesPivot payload pivot) (some place)
  key_least : ∀ place key, HasKey composites place key →
    SortedMap.IsLeast compare
      (Places facts fun payload => GivesKey (.ofFacts facts) payload key) (some place)
  model_behind : ∀ table, ModelIndex.IsModelOf facts table ((ModelIndex.ofFacts facts).modelFor table)
  table_behind : ∀ model, ModelIndex.IsTableOf facts model ((ModelIndex.ofFacts facts).tableFor model)

theorem join_isJoin (facts : List Fact) : IsJoin facts (join facts) where
  sorted := ⟨pivotFacts facts, keyFacts facts, join_eq facts, fun _ => kind_of_mem_pivotFacts,
    namesAscend_pivotFacts facts, fun _ => kind_of_mem_keyFacts, namesAscend_keyFacts facts⟩
  pivot_iff pivot := by
    let names : Names := ⟨pivot.firstModel, pivot.secondModel, pivot.table⟩
    change (∃ place, HasPivot (join facts) place names.toPivot) ↔
      ∃ fact ∈ facts, GivesPivot fact.payload names.toPivot
    simp only [hasPivot_join_iff, exists_and_right, exists_get?_iff (pivots_isLeast facts names)]
    refine and_iff_left_of_imp ?_
    rintro ⟨_, _, gives⟩
    exact gives.isValid
  key_iff key := by
    let names : Names := ⟨key.table, key.column, key.referencedModel⟩
    change (∃ place, HasKey (join facts) place names.toKey) ↔
      names.first ≠ "" ∧ names.third ≠ "" ∧
        ∃ fact ∈ facts, GivesKey (.ofFacts facts) fact.payload names.toKey
    simp only [hasKey_join_iff, exists_and_right, exists_get?_iff (foreignKeys_isLeast facts names)]
    rw [and_comm, ← and_assoc]
    refine and_congr_left ?_
    rintro ⟨_, _, gives⟩
    exact gives.isValid_iff
  pivot_least place pivot stands := by
    let names : Names := ⟨pivot.firstModel, pivot.secondModel, pivot.table⟩
    have least := pivots_isLeast facts names
    rwa [((hasPivot_join_iff facts names place).mp stands).1] at least
  key_least place key stands := by
    let names : Names := ⟨key.table, key.column, key.referencedModel⟩
    have least := foreignKeys_isLeast facts names
    rwa [((hasKey_join_iff facts names place).mp stands).1] at least
  model_behind := ModelIndex.isModelOf_modelFor facts
  table_behind := ModelIndex.isTableOf_tableFor facts

section Covering
variable {first second : List Fact} (known : ∀ fact ∈ first, Known second fact)
  (knownBack : ∀ fact ∈ second, Known first fact)
include known knownBack

theorem sameContent_of_known : ModelIndex.SameContent first second := by
  have onto {one other : List Fact} (covered : ∀ fact ∈ one, Known other fact)
      {payload : Fact.Payload} (primary : payload.kind.isComposite = false)
      (given : ∃ fact ∈ one, fact.payload = payload) : ∃ fact ∈ other, fact.payload = payload := by
    obtain ⟨fact, member, rfl⟩ := given
    obtain ⟨present, inside, same, _⟩ := (covered fact member).exists_present primary
    exact ⟨present, inside, same⟩
  exact fun _ primary => ⟨onto known primary, onto knownBack primary⟩

theorem exists_same_of_mem_join {composite : Fact} (member : composite ∈ join first) :
    ∃ other ∈ join second, composite.same other = true := by
  have tie {gives : Fact.Payload → Prop} {place : Location} {found : Option Location}
      (primary : ∀ payload, gives payload → payload.kind.isComposite = false)
      (left : SortedMap.IsLeast compare (Places first gives) (some place))
      (right : SortedMap.IsLeast compare (Places second gives) found) :
      ∃ rival, found = some rival ∧ place.same rival = true := by
    simp only [← Location.compare_eq_iff]
    exact left.tie right (fun _ => Places.tie primary known) fun _ => Places.tie primary knownBack
  obtain ⟨place, payload⟩ := composite
  cases payload with
  | pivotTable pivot =>
    let names : Names := ⟨pivot.firstModel, pivot.secondModel, pivot.table⟩
    obtain ⟨found, valid⟩ := (hasPivot_join_iff first names place).mp ⟨pivot, rfl, member⟩
    obtain ⟨rival, foundToo, same⟩ := tie (fun _ => GivesPivot.primary)
      (found ▸ pivots_isLeast first names) (pivots_isLeast second names)
    obtain ⟨other, parts, otherMember⟩ :=
      (hasPivot_join_iff second names rival).mpr ⟨foundToo, valid⟩
    have alike : pivot = other := Fact.Pivot.eq_of_parts parts.symm
    exact ⟨_, otherMember, by simp [Fact.same, same, alike]⟩
  | foreignKey key =>
    let names : Names := ⟨key.table, key.column, key.referencedModel⟩
    obtain ⟨found, valid⟩ := (hasKey_join_iff first names place).mp ⟨key, rfl, member⟩
    have index := ModelIndex.ofFacts_congr (sameContent_of_known known knownBack)
    obtain ⟨rival, foundToo, same⟩ := tie (fun _ => GivesKey.primary)
      (found ▸ foreignKeys_isLeast first names) (index ▸ foreignKeys_isLeast second names)
    obtain ⟨other, parts, otherMember⟩ := (hasKey_join_iff second names rival).mpr ⟨foundToo, valid⟩
    have alike : key = other := Fact.Key.eq_of_parts parts.symm
    exact ⟨_, otherMember, by simp [Fact.same, same, alike]⟩
  | _ => exact absurd (isComposite_of_mem_join member) Bool.false_ne_true

theorem join_same_of_known :
    List.Forall₂ (fun one other => one.same other = true) (join first) (join second) := by
  have named {one other : Fact} (same : one.same other = true) : compareNames one other = .eq := by
    simp only [Fact.same, Bool.and_eq_true, beq_iff_eq] at same
    have kinds : one.kind = other.kind := congrArg Fact.Payload.kind same.2
    have names : namesOf one = namesOf other := by rw [namesOf, namesOf, same.2]
    simp [compareNames, compareLex, compareOn, kinds, names, ReflCmp.compare_self]
  refine Order.forall₂_of_ascending (join_ascending first) (join_ascending second)
    (fun one member => ?_) (fun other member => ?_) fun one oneMember other otherMember tie => ?_
  · obtain ⟨partner, present, same⟩ := exists_same_of_mem_join known knownBack member
    exact ⟨partner, present, named same⟩
  · obtain ⟨partner, present, same⟩ := exists_same_of_mem_join knownBack known member
    exact ⟨partner, present, OrientedCmp.eq_symm (named same)⟩
  · obtain ⟨partner, present, same⟩ := exists_same_of_mem_join known knownBack oneMember
    rwa [Order.eq_of_tie (join_ascending second) otherMember present
      (TransCmp.eq_trans (OrientedCmp.eq_symm tie) (named same))]

end Covering

theorem join_append_known {facts added : List Fact} (known : ∀ fact ∈ added, Known facts fact) :
    join (facts ++ added) = join facts := by
  have present (fact : Fact) (member : fact ∈ facts) : Known (facts ++ added) fact :=
    .of_mem (List.mem_append_left _ member)
  have knownBoth (fact : Fact) (member : fact ∈ facts ++ added) : Known facts fact :=
    (List.mem_append.mp member).elim .of_mem (known fact)
  have index := ModelIndex.ofFacts_congr (sameContent_of_known knownBoth present)
  have samePivots : pivots (facts ++ added) = pivots facts :=
    collected_append_known pivotOf?_eq_some_iff (fun _ _ => GivesPivot.primary) known
  have sameKeys : foreignKeys (facts ++ added) = foreignKeys facts := by
    rw [foreignKeys, index]
    exact collected_append_known (foreignKeyOf?_eq_some_iff _) (fun _ _ => GivesKey.primary) known
  exact join_eq_join samePivots sameKeys

/-- The join stays as it is when composites and facts that are there already are added at the end,
and the same up to spellings when they are put elsewhere. -/
theorem join_meets_specification (facts : List Fact) :
    IsJoin facts (join facts) ∧
      (∀ added, (∀ fact ∈ added, Known facts fact) → join (facts ++ added) = join facts) ∧
      ∀ extended, (∀ fact ∈ facts, fact ∈ extended) → (∀ fact ∈ extended, Known facts fact) →
        List.Forall₂ (fun one other => one.same other = true) (join extended) (join facts) := by
  refine ⟨join_isJoin facts, fun added => join_append_known, fun extended kept known => ?_⟩
  exact join_same_of_known known fun fact member => .of_mem (kept fact member)

def keyOnBothSides : List Fact :=
  [⟨⟨⟨"database/schema.sql"⟩, 1, 1⟩, .table (.mk ⟨"weblog_entries", some "Post", false⟩)⟩,
    ⟨⟨⟨"database/schema.sql"⟩, 18, 1⟩, .table (.mk ⟨"remarks", some "Comment", false⟩)⟩,
    ⟨⟨⟨"database/schema.sql"⟩, 21, 3⟩, .column (.mk ⟨"remarks", "entry_id", some "weblog_entries"⟩)⟩,
    ⟨⟨⟨"database/schema.sql"⟩, 22, 3⟩, .column (.mk ⟨"remarks", "client_id", some "http_clients"⟩)⟩,
    ⟨⟨⟨"app/Models/Comment.php"⟩, 9, 5⟩,
      .relation (.mk ⟨"Comment", "Post", .belongsTo, none, some "entry_id"⟩)⟩,
    ⟨⟨⟨"app/Models/HTTPClient.php"⟩, 3, 1⟩, .classDecl (.mk ⟨"HTTPClient", .model, none⟩)⟩]

/-- Column and relation give one key, at the place of the relation, and so do its own repetitions. -/
theorem join_keyOnBothSides :
    let post : Fact :=
      ⟨⟨⟨"app/Models/Comment.php"⟩, 9, 5⟩, .foreignKey (.mk ⟨"remarks", "entry_id", "Post"⟩)⟩
    let client : Fact :=
      ⟨⟨⟨"database/schema.sql"⟩, 22, 3⟩,
        .foreignKey (.mk ⟨"remarks", "client_id", "HTTPClient"⟩)⟩
    join keyOnBothSides = [client, post] ∧ IsJoin keyOnBothSides [client, post] ∧
      join (keyOnBothSides ++ [post]) = [client, post] ∧
      List.Forall₂ (fun one other => one.same other = true)
        (join (post :: keyOnBothSides)) [client, post] := by
  intro post client
  have joined : join keyOnBothSides = [client, post] := by decide +kernel
  obtain ⟨isJoin, appended, extended⟩ := join_meets_specification keyOnBothSides
  have front := extended (post :: keyOnBothSides) (fun _ => List.mem_cons_of_mem post)
    (List.forall_mem_cons.mpr ⟨Or.inl rfl, fun _ => .of_mem⟩)
  have back := appended [post] (List.forall_mem_singleton.mpr (Or.inl rfl))
  rw [joined] at isJoin back front
  exact ⟨joined, isJoin, back, front⟩

end Composite

end NamingAudit
