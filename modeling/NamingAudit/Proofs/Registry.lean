import NamingAudit.Registry
import NamingAudit.Proofs.Comparison
import NamingAudit.Proofs.SortedMap

/-! What every registry satisfies. A rule is found by its id and by its kind, the rules for a kind are the
enabled ones among all, in the order of registration, and operations on one rule or through settings
change the states of rules and nothing else. A registry is determined by its rules and their states. -/

namespace NamingAudit
open Std

namespace StateChange

@[ext] theorem ext {first second : StateChange} (same : ∀ entry, first entry = second entry) :
    first = second := by
  cases first
  cases second
  congr
  exact funext same

def unchanged : StateChange := ⟨id, fun _ => rfl, fun _ => rfl⟩

def comp (second first : StateChange) : StateChange where
  apply entry := second (first entry)
  rule_apply entry := (second.rule_apply (first entry)).trans (first.rule_apply entry)
  priority_apply entry := (second.priority_apply (first entry)).trans (first.priority_apply entry)

@[simp] theorem comp_apply (second first : StateChange) (entry : RegisteredRule) :
    second.comp first entry = second (first entry) := rfl

def onRule (id : String) (change : StateChange) : StateChange where
  apply entry := if entry.rule.id = id then change entry else entry
  rule_apply entry := by split <;> simp [change.rule_apply]
  priority_apply entry := by split <;> simp [change.priority_apply]

theorem onRule_apply (id : String) (change : StateChange) (entry : RegisteredRule) :
    change.onRule id entry = if entry.rule.id = id then change entry else entry := rfl

theorem onRule_comp (id : String) (second first : StateChange) :
    (second.onRule id).comp (first.onRule id) = (second.comp first).onRule id := by
  ext1 entry
  by_cases same : entry.rule.id = id
  · simp [onRule_apply, same, first.rule_apply]
  · simp [onRule_apply, same]

theorem onRule_congr {id : String} {first second : StateChange} {entry : RegisteredRule}
    (agree : entry.rule.id = id → first entry = second entry) :
    first.onRule id entry = second.onRule id entry := by
  rw [onRule_apply, onRule_apply]
  split
  case isTrue same => exact agree same
  case isFalse => rfl

end StateChange

namespace Registry
open StateChange

variable {registry : Registry}

theorem positions_iff (registry : Registry) {id : String} {position : Nat} :
    registry.positions.get? id = some position ↔ registry.ids[position]? = some id :=
  registry.coherent.positions_iff id position

theorem byKind_eq (registry : Registry) (kind : FactKind) :
    (registry.byKind.get? kind).getD [] = positionsOf kind registry.kinds :=
  registry.coherent.byKind_eq kind

theorem ext_entries {first second : Registry} (same : first.entries = second.entries) :
    first = second := by
  obtain ⟨entries, positions, byKind, coherent⟩ := first
  obtain ⟨_, positions', byKind', coherent'⟩ := second
  cases same
  have samePositions : positions = positions' := by
    refine SortedMap.ext_get? fun id => Option.ext fun position => ?_
    rw [coherent.positions_iff, coherent'.positions_iff]
  have sameByKind : byKind = byKind' := by
    refine SortedMap.ext_get? fun kind => ?_
    have stored := (coherent.byKind_eq kind).trans (coherent'.byKind_eq kind).symm
    have filled := coherent.byKind_filled kind
    have filled' := coherent'.byKind_filled kind
    generalize byKind.get? kind = one at stored filled ⊢
    generalize byKind'.get? kind = other at stored filled' ⊢
    cases one <;> cases other <;> simp_all
  cases samePositions
  cases sameByKind
  rfl

theorem contains_positions_iff {id : String} :
    registry.positions.contains id = true ↔ id ∈ registry.ids := by
  simp only [SortedMap.contains, Option.isSome_iff_exists, positions_iff, List.mem_iff_getElem?]

theorem register_of_mem {rule : Rule} (taken : rule.id ∈ registry.ids) :
    registry.register rule = .error (.duplicateRuleId rule.id) :=
  dif_pos (contains_positions_iff.mpr taken)

theorem register_of_not_mem {rule : Rule} (absent : rule.id ∉ registry.ids) :
    ∃ changed, registry.register rule = .ok changed ∧
      changed.entries = registry.entries ++ [freshRule registry.entries.length rule] :=
  ⟨_, dif_neg (mt contains_positions_iff.mp absent), rfl⟩

theorem not_mem_ids {id : String} (absent : registry.positions.get? id = none) :
    id ∉ registry.ids := by
  rw [← contains_positions_iff, SortedMap.contains, absent]
  exact Bool.false_ne_true

def mapEntries (change : StateChange) (registry : Registry) : Registry :=
  { registry with
    entries := registry.entries.map change
    coherent := registry.coherent.map change }

section MapEntries
variable (change : StateChange) (registry : Registry)

theorem mapEntries_mapEntries (first second : StateChange) :
    (registry.mapEntries first).mapEntries second = registry.mapEntries (second.comp first) :=
  ext_entries (List.map_map ..)

theorem mapEntries_unchanged : registry.mapEntries unchanged = registry :=
  ext_entries (List.map_id _)

theorem rules_mapEntries : (registry.mapEntries change).rules = registry.rules := by
  simp only [rules, mapEntries, List.map_map]
  exact List.map_congr_left fun entry _ => change.rule_apply entry

theorem ids_mapEntries : (registry.mapEntries change).ids = registry.ids := by
  have same := congrArg (List.map Rule.id) (rules_mapEntries change registry)
  rw [rules, rules, List.map_map, List.map_map] at same
  exact same

end MapEntries

theorem mapEntries_congr {first second : StateChange}
    (agree : ∀ entry ∈ registry.entries, first entry = second entry) :
    registry.mapEntries first = registry.mapEntries second :=
  ext_entries (List.map_congr_left agree)

theorem mapEntries_eq_self {change : StateChange}
    (kept : ∀ entry ∈ registry.entries, change entry = entry) :
    registry.mapEntries change = registry :=
  ext_entries ((List.map_congr_left kept).trans (List.map_id' _))

theorem modify_eq_map {id : String} {position : Nat}
    (located : registry.positions.get? id = some position) (change : StateChange) :
    registry.entries.modify position change = registry.entries.map (change.onRule id) := by
  apply List.ext_getElem?
  intro index
  rw [List.getElem?_modify, List.getElem?_map]
  cases found : registry.entries[index]? with
  | none => split <;> rfl
  | some entry =>
    -- The entry at an index has the id that the index of ids gives for it, and no other has it.
    have here : position = index ↔ entry.rule.id = id := by
      have held : registry.ids[index]? = some entry.rule.id := by simp [Registry.ids, found]
      constructor
      · rintro rfl
        rw [registry.positions_iff.mp located] at held
        exact (Option.some.inj held).symm
      · rintro rfl
        rw [registry.positions_iff.mpr held] at located
        exact (Option.some.inj located).symm
    by_cases same : position = index
    · simp [same, onRule_apply, here.mp same]
    · simp [same, onRule_apply, mt here.mpr same]

theorem update_eq (registry : Registry) (id : String) (change : StateChange) :
    registry.update id change =
      if id ∈ registry.ids then .ok (registry.mapEntries (change.onRule id))
      else .error (.unknownRule id) := by
  rw [Registry.update]
  split
  case h_1 position located =>
    have held := registry.positions_iff.mp located
    rw [if_pos (List.mem_of_getElem? held)]
    exact congrArg Except.ok (ext_entries (modify_eq_map located change))
  case h_2 absent => rw [if_neg (not_mem_ids absent)]

theorem keeping_update (registry : Registry) (id : String) (change : StateChange) :
    ∃ whole, (registry.keeping (registry.update id change)).1 = registry.mapEntries whole := by
  rw [update_eq]
  split
  · exact ⟨change.onRule id, rfl⟩
  · exact ⟨_, registry.mapEntries_unchanged.symm⟩

theorem applyEntries_cases (registry : Registry) (settings : List (String × RuleSettings)) :
    ∃ whole, (registry.applyEntries settings).1 = registry.mapEntries whole := by
  induction settings generalizing registry with
  | nil => exact ⟨_, registry.mapEntries_unchanged.symm⟩
  | cons setting rest ih =>
    rw [Registry.applyEntries, update_eq]
    by_cases known : setting.1 ∈ registry.ids
    · obtain ⟨whole, applied⟩ := ih (registry.mapEntries ((overlay setting.2).onRule setting.1))
      rw [if_pos known]
      exact ⟨_, applied.trans (mapEntries_mapEntries ..)⟩
    · rw [if_neg known]
      exact ⟨_, registry.mapEntries_unchanged.symm⟩

def registering (rules : List Rule) : Registry :=
  rules.foldl (fun registry rule => (registry.perform (.register rule)).1) empty

theorem filterMap_positionsOf (kind : FactKind) (entries : List RegisteredRule) :
    (positionsOf kind (entries.map fun entry => entry.rule.appliesTo)).filterMap
        (fun position => entries[position]?) =
      entries.filter fun entry => entry.rule.appliesTo == kind := by
  let numbered := entries.zipIdx.filter fun entry => entry.1.rule.appliesTo == kind
  have positions : positionsOf kind (entries.map fun entry => entry.rule.appliesTo) =
      numbered.map Prod.snd := by
    simp [positionsOf, numbered, List.zipIdx_map, List.filter_map, Function.comp_def]
  have found : numbered.filterMap (fun entry => entries[entry.2]?) = numbered.map Prod.fst := by
    rw [← List.filterMap_eq_map]
    apply List.filterMap_congr
    intro entry member
    exact List.mk_mem_zipIdx_iff_getElem?.mp (List.mem_filter.mp member).1
  have unnumbered : numbered.map Prod.fst =
      entries.filter fun entry => entry.rule.appliesTo == kind := by
    conv_rhs => rw [← List.zipIdx_map_fst 0 entries, List.filter_map]
    rfl
  rw [positions, List.filterMap_map, ← unnumbered, ← found]
  rfl

theorem rulesFor_eq (registry : Registry) (kind : FactKind) :
    registry.rulesFor kind =
      registry.entries.filter fun entry => entry.enabled && entry.rule.appliesTo == kind := by
  rw [rulesFor, byKind_eq, Registry.kinds, filterMap_positionsOf, List.filter_filter]

theorem ids_nodup (registry : Registry) : registry.ids.Nodup := by
  rw [List.nodup_iff_getElem?_ne_getElem?]
  intro first second less bound same
  have found : registry.ids[second]? = some registry.ids[second] := List.getElem?_eq_getElem bound
  have one := registry.positions_iff.mpr (same.trans found)
  have other := registry.positions_iff.mpr found
  rw [one] at other
  exact absurd (Option.some.inj other) (Nat.ne_of_lt less)

theorem filter_eq_singleton {α : Type u} {view : α → String} {items : List α} {item : α}
    (distinct : (items.map view).Nodup) (member : item ∈ items) :
    items.filter (fun other => view other == view item) = [item] := by
  induction items with
  | nil => contradiction
  | cons head rest ih =>
    have fresh := List.nodup_cons.mp distinct
    rcases List.mem_cons.mp member with rfl | later
    · rw [List.filter_cons_of_pos (by simp), List.filter_eq_nil_iff.mpr]
      intro other present same
      exact fresh.1 (List.mem_map.mpr ⟨other, present, by simpa using same⟩)
    · rw [List.filter_cons_of_neg, ih fresh.2 later]
      intro same
      exact fresh.1 (List.mem_map.mpr ⟨item, later, (beq_iff_eq.mp same).symm⟩)

theorem filter_id (registry : Registry) (id : String) :
    registry.entries.filter (fun entry => entry.rule.id == id) = (registry.get? id).toList := by
  rw [get?]
  cases located : registry.positions.get? id with
  | none =>
    rw [Option.bind_none, Option.toList_none, List.filter_eq_nil_iff]
    intro entry member same
    exact not_mem_ids located
      (List.mem_map.mpr ⟨entry, member, by simpa using same⟩)
  | some position =>
    have held := registry.positions_iff.mp located
    obtain ⟨entry, found, rfl⟩ : ∃ entry, registry.entries[position]? = some entry ∧
        entry.rule.id = id := by simpa [Registry.ids] using held
    rw [Option.bind_some, found, Option.toList_some]
    have distinct : (registry.entries.map fun entry => entry.rule.id).Nodup := registry.ids_nodup
    exact filter_eq_singleton distinct (List.mem_of_getElem? found)

theorem get?_eq_some_iff {id : String} {entry : RegisteredRule} :
    registry.get? id = some entry ↔ entry ∈ registry.entries ∧ entry.rule.id = id := by
  rw [← Option.mem_toList, ← filter_id, List.mem_filter, beq_iff_eq]

theorem eq_of_id {first second : RegisteredRule} (one : first ∈ registry.entries)
    (other : second ∈ registry.entries) (same : first.rule.id = second.rule.id) : first = second := by
  have found := get?_eq_some_iff.mpr ⟨one, same⟩
  rw [get?_eq_some_iff.mpr ⟨other, rfl⟩] at found
  exact (Option.some.inj found).symm

end Registry

end NamingAudit
