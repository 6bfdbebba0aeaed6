import NamingAudit.Proofs.RegistryFailure
import Mathlib.Algebra.BigOperators.Group.List.Basic
import Mathlib.Algebra.GroupWithZero.Nat

/-! A registry after any history of operations on an empty one, each of which may have succeeded or
failed. The list of rules grows at its end by the rule that is registered and in no other way, both
indices point into it and agree with it, and so the rules for a kind are the enabled ones among all of
that kind, in the order of registration. Every registry has such a history. -/

namespace NamingAudit.Registry
open Std

def after (operations : List Operation) : Registry :=
  operations.foldl (fun registry operation => (registry.perform operation).1) empty

theorem after_concat (operations : List Operation) (operation : Operation) :
    after (operations ++ [operation]) = ((after operations).perform operation).1 := by
  rw [after, List.foldl_append]
  rfl

def positionsFor (registry : Registry) (kind : FactKind) : List Nat :=
  (registry.byKind.get? kind).getD []

structure InStep (registry : Registry) : Prop where
  priority : ∀ (position : Nat) (entry : RegisteredRule),
    registry.entries[position]? = some entry → entry.priority = position
  idsDistinct : registry.ids.Nodup
  index : ∀ id position,
    registry.positions.get? id = some position ↔ registry.ids[position]? = some id
  byKindAscending : ∀ kind, (registry.positionsFor kind).Pairwise (· < ·)
  byKindParts : ∀ kind position,
    position ∈ registry.positionsFor kind ↔ registry.kinds[position]? = some kind
  indexInRange : ∀ stored ∈ registry.positions.entries, stored.2 < registry.size
  byKindInRange : ∀ stored ∈ registry.byKind.entries, ∀ position ∈ stored.2, position < registry.size

theorem mem_positionsOf_iff {kind : FactKind} {kinds : List FactKind} {position : Nat} :
    position ∈ positionsOf kind kinds ↔ kinds[position]? = some kind := by
  simp only [positionsOf, List.mem_map, List.mem_filter, Prod.exists, beq_iff_eq,
    List.mk_mem_zipIdx_iff_getElem?]
  constructor
  · rintro ⟨_, _, ⟨found, rfl⟩, rfl⟩
    exact found
  · intro found
    exact ⟨kind, position, ⟨found, rfl⟩, rfl⟩

theorem positionsOf_ascending (kind : FactKind) (kinds : List FactKind) :
    (positionsOf kind kinds).Pairwise (· < ·) := by
  have positions : (kinds.zipIdx.map Prod.snd).Pairwise (· < ·) := by
    rw [List.zipIdx_map_snd]
    exact List.pairwise_lt_range'
  exact positions.sublist (List.filter_sublist.map Prod.snd)

theorem inStep (registry : Registry) : registry.InStep where
  priority position entry found := by
    have bound := (List.getElem?_eq_some_iff.mp found).1
    have listed := congrArg (·[position]?) registry.coherent.priorities
    simp only [List.getElem?_map, found, Option.map_some, List.getElem?_range bound] at listed
    exact Option.some.inj listed
  idsDistinct := registry.ids_nodup
  index _ _ := registry.positions_iff
  byKindAscending kind := by
    rw [positionsFor, byKind_eq]
    exact positionsOf_ascending kind registry.kinds
  byKindParts kind position := by
    rw [positionsFor, byKind_eq]
    exact mem_positionsOf_iff
  indexInRange := by
    intro stored member
    have held := registry.positions_iff.mp (SortedMap.get?_of_mem member)
    simpa [ids, size] using (List.getElem?_eq_some_iff.mp held).1
  byKindInRange := by
    intro stored member position inside
    have found := SortedMap.get?_of_mem member
    have listed := registry.byKind_eq stored.1
    rw [found, Option.getD_some] at listed
    rw [listed, mem_positionsOf_iff] at inside
    simpa [kinds, size] using (List.getElem?_eq_some_iff.mp inside).1

def enlist (rules : List Rule) : Operation → List Rule
  | .register rule => if rule.id ∈ rules.map Rule.id then rules else rules ++ [rule]
  | _ => rules

theorem map_id_rules (registry : Registry) : registry.rules.map Rule.id = registry.ids := List.map_map ..

theorem rules_perform (registry : Registry) (operation : Operation) :
    (registry.perform operation).1.rules = enlist registry.rules operation := by
  have updated (id : String) (change : StateChange) :
      (registry.keeping (registry.update id change)).1.rules = registry.rules := by
    obtain ⟨whole, changed⟩ := registry.keeping_update id change
    rw [changed, rules_mapEntries]
  cases operation with
  | register rule =>
    rw [perform, enlist, map_id_rules]
    by_cases taken : rule.id ∈ registry.ids
    · rw [register_of_mem taken, if_pos taken]
      rfl
    · obtain ⟨changed, registered, entries⟩ := register_of_not_mem taken
      rw [registered, if_neg taken, keeping, rules, entries, List.map_append]
      rfl
  | enable id => exact updated id _
  | disable id => exact updated id _
  | setSeverity id severity => exact updated id _
  | applySettings settings =>
    obtain ⟨whole, changed⟩ := registry.applyEntries_cases settings.rules.entries
    exact (congrArg rules changed).trans (rules_mapEntries whole registry)

/-- The rules are those of the registrations, each of them but the ones whose id was taken. -/
theorem rules_after (operations : List Operation) :
    (after operations).rules = operations.foldl enlist [] := by
  induction operations using List.reverseRecOn with
  | nil => rfl
  | append_singleton operations operation ih =>
    rw [after_concat, rules_perform, ih, List.foldl_append]
    rfl

theorem prefix_enlist (rules : List Rule) (operation : Operation) :
    rules <+: enlist rules operation := by
  cases operation with
  | register rule =>
    rw [enlist]
    split
    · exact List.prefix_refl rules
    · exact List.prefix_append rules [rule]
  | _ => exact List.prefix_refl rules

theorem prefix_foldl_enlist (rules : List Rule) (operations : List Operation) :
    rules <+: operations.foldl enlist rules := by
  induction operations generalizing rules with
  | nil => exact List.prefix_refl rules
  | cons operation rest ih => exact (prefix_enlist rules operation).trans (ih _)

theorem sum_over_kinds (kind : FactKind) :
    (FactKind.all.map fun other => if kind == other then 1 else 0).sum = 1 := by
  cases kind <;> rfl

theorem sum_length_by_kind (entries : List RegisteredRule) :
    (FactKind.all.map fun kind =>
      (entries.filter fun entry => entry.enabled && entry.rule.appliesTo == kind).length).sum =
        (entries.filter RegisteredRule.enabled).length := by
  induction entries with
  | nil => rfl
  | cons entry rest ih =>
    by_cases enabled : entry.enabled = true
    · have counted (kind : FactKind) :
          ((entry :: rest).filter fun entry => entry.enabled && entry.rule.appliesTo == kind).length =
            (if entry.rule.appliesTo == kind then 1 else 0) +
              (rest.filter fun entry => entry.enabled && entry.rule.appliesTo == kind).length := by
        rw [List.filter_cons, enabled, Bool.true_and]
        split <;> simp [Nat.add_comm]
      simp only [counted, List.sum_map_add, sum_over_kinds, ih]
      rw [List.filter_cons_of_pos enabled, List.length_cons, Nat.add_comm]
    · simp only [List.filter_cons, enabled, Bool.false_and, Bool.false_eq_true, if_false, ih]

/-- Whatever operations are tried on an empty registry, in any order and with any outcome, the list of
rules and its indices are in step and no stored position is out of range. The rules for a kind are the
enabled ones of that kind in the order of registration, no rule is ever lost or moved, and the enabled
rules are those for all kinds together. -/
theorem inStep_after (operations : List Operation) :
    InStep (after operations) ∧
      (∀ kind, (after operations).rulesFor kind = (after operations).entries.filter fun entry =>
        entry.enabled && entry.rule.appliesTo == kind) ∧
      (∀ later, (after operations).rules <+: (after (operations ++ later)).rules ∧
        (after operations).size ≤ (after (operations ++ later)).size) ∧
      (after operations).enabledCount =
        (FactKind.all.map fun kind => ((after operations).rulesFor kind).length).sum := by
  refine ⟨inStep _, rulesFor_eq _, fun later => ?_, ?_⟩
  · have kept : (after operations).rules <+: (after (operations ++ later)).rules := by
      rw [rules_after, rules_after, List.foldl_append]
      exact prefix_foldl_enlist _ later
    refine ⟨kept, ?_⟩
    simpa [rules, size] using kept.length_le
  · simp only [rulesFor_eq, sum_length_by_kind, enabledCount]

/-- Registering fails for an id that is taken and changes nothing then. Otherwise it appends the rule in
its first state, and nothing else. -/
theorem after_register (operations : List Operation) (rule : Rule) :
    if rule.id ∈ (after operations).ids then
      (after operations).perform (.register rule) =
        (after operations, .error (.duplicateRuleId rule.id))
    else
      (after operations).perform (.register rule) =
          (after (operations ++ [.register rule]), .ok ()) ∧
        (after (operations ++ [.register rule])).entries =
          (after operations).entries ++ [freshRule (after operations).size rule] := by
  rw [after_concat, perform]
  split
  case isTrue taken =>
    rw [register_of_mem taken]
    rfl
  case isFalse absent =>
    obtain ⟨changed, registered, entries⟩ := register_of_not_mem absent
    rw [registered]
    exact ⟨rfl, entries⟩

theorem after_of_ofRules {rules : List Rule} {registry : Registry}
    (made : ofRules rules = .ok registry) : after (rules.map .register) = registry := by
  induction rules using List.reverseRecOn generalizing registry with
  | nil =>
    cases made
    rfl
  | append_singleton rules rule ih =>
    rw [ofRules, List.foldlM_append] at made
    change (ofRules rules >>= _) = _ at made
    cases done : ofRules rules with
    | error error =>
      rw [done] at made
      contradiction
    | ok before =>
      rw [done] at made
      have last : before.register rule = .ok registry := (bind_pure _).symm.trans made
      rw [List.map_append, List.map_singleton, after_concat, ih done, perform, last]
      rfl

def settingsOf (entries : List RegisteredRule) : Settings :=
  { Settings.standard with
    rules := .collect (fun _ new => new) <| entries.map fun entry =>
      (entry.rule.id, ⟨some entry.enabled, some entry.severity, .empty⟩) }

theorem get?_settingsOf (registry : Registry) {id : String} {settings : RuleSettings} :
    (settingsOf registry.entries).rules.get? id = some settings ↔
      ∃ entry ∈ registry.entries, entry.rule.id = id ∧
        ⟨some entry.enabled, some entry.severity, .empty⟩ = settings := by
  have distinct : ((registry.entries.map fun entry =>
      (entry.rule.id, (⟨some entry.enabled, some entry.severity, .empty⟩ : RuleSettings))).map
        Prod.fst).Nodup := by
    rw [List.map_map]
    exact registry.ids_nodup
  refine (SortedMap.get?_collect_of_nodup distinct).trans ?_
  simp only [List.mem_map, Prod.mk.injEq]

theorem overlay_freshRule (entry : RegisteredRule) :
    overlay ⟨some entry.enabled, some entry.severity, .empty⟩ (freshRule entry.priority entry.rule) =
      entry := rfl

/-- Every registry is what operations make of an empty one. -/
theorem exists_after (registry : Registry) : ∃ operations, after operations = registry := by
  have distinct : (registry.rules.map Rule.id).Nodup := registry.map_id_rules ▸ registry.ids_nodup
  obtain ⟨fresh, made, entries⟩ := ofRules_eq distinct
  have known : ∀ setting ∈ (settingsOf registry.entries).rules.entries, setting.1 ∈ fresh.ids := by
    intro setting member
    obtain ⟨entry, present, same, _⟩ := registry.get?_settingsOf.mp (SortedMap.get?_of_mem member)
    rw [ids_of_fresh entries, map_id_rules, ← same]
    exact List.mem_map_of_mem present
  -- Registering leaves the rules in their first states, and the settings put back those they have.
  refine ⟨registry.rules.map .register ++ [.applySettings (settingsOf registry.entries)], ?_⟩
  rw [after_concat, after_of_ofRules made, perform, applySettings_of_known known]
  refine ext_entries (List.ext_getElem (by simp [mapEntries, entries, rules]) fun position _ bound => ?_)
  have given := registry.get?_settingsOf.mpr ⟨_, List.getElem_mem bound, rfl, rfl⟩
  have priority := registry.inStep.priority position _ (List.getElem?_eq_getElem bound)
  rw [SortedMap.get?] at given
  simp only [mapEntries, entries, rules, List.getElem_map, List.getElem_mapIdx]
  rw [overlaidBy_apply, freshRule, given, Option.elim_some]
  exact (congrArg _ (congrArg (freshRule · _) priority.symm)).trans (overlay_freshRule _)

end NamingAudit.Registry
