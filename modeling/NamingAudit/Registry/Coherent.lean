import NamingAudit.Rule
import NamingAudit.SortedMap

/-! The rules of a registry and the two indices into them, by id and by the kind of fact. They are
coherent when the priorities count the rules from the front and the indices hold the position of every
rule and nothing else. So they are without any rule, and so they stay when a rule with a new id comes in
at the end and when the states of rules change. -/

namespace NamingAudit
open Std

structure RegisteredRule where
  rule : Rule
  enabled : Bool
  severity : Severity
  priority : Nat

/-- A change to the states of rules. It leaves each rule and its priority alone. -/
structure StateChange where
  apply : RegisteredRule → RegisteredRule
  rule_apply : ∀ entry, (apply entry).rule = entry.rule
  priority_apply : ∀ entry, (apply entry).priority = entry.priority

instance : CoeFun StateChange fun _ => RegisteredRule → RegisteredRule := ⟨StateChange.apply⟩

namespace Registry

def freshRule (position : Nat) (rule : Rule) : RegisteredRule :=
  ⟨rule, true, rule.defaultSeverity, position⟩

def positionsOf (kind : FactKind) (kinds : List FactKind) : List Nat :=
  (kinds.zipIdx.filter fun entry => entry.1 == kind).map Prod.snd

structure Coherent (entries : List RegisteredRule) (positions : SortedMap String Nat)
    (byKind : SortedMap FactKind (List Nat)) : Prop where
  priorities : entries.map RegisteredRule.priority = List.range entries.length
  positions_iff : ∀ id position, positions.get? id = some position ↔
    (entries.map fun entry => entry.rule.id)[position]? = some id
  byKind_eq : ∀ kind, (byKind.get? kind).getD [] =
    positionsOf kind (entries.map fun entry => entry.rule.appliesTo)
  byKind_filled : ∀ kind, byKind.get? kind ≠ some []

theorem coherent_empty : Coherent [] .empty .empty where
  priorities := rfl
  positions_iff id position := by simp
  byKind_eq kind := rfl
  byKind_filled kind := nofun

theorem positionsOf_concat (kind last : FactKind) (kinds : List FactKind) :
    positionsOf kind (kinds ++ [last]) =
      positionsOf kind kinds ++ if last = kind then [kinds.length] else [] := by
  by_cases same : last = kind <;>
    simp [positionsOf, List.zipIdx_append, List.filter_append, same]

theorem getElem?_concat_eq_some_iff {α : Type u} {items : List α} {last item : α} {position : Nat} :
    (items ++ [last])[position]? = some item ↔
      items[position]? = some item ∨ position = items.length ∧ last = item := by
  rcases Nat.lt_trichotomy position items.length with inside | rfl | beyond
  · rw [List.getElem?_append_left inside]
    simp [Nat.ne_of_lt inside]
  · simp
  · rw [List.getElem?_eq_none (by simp; omega), List.getElem?_eq_none (by omega)]
    simp [Nat.ne_of_gt beyond]

namespace Coherent

variable {entries : List RegisteredRule} {positions : SortedMap String Nat}
  {byKind : SortedMap FactKind (List Nat)} (coherent : Coherent entries positions byKind)
include coherent

theorem append (rule : Rule) (free : ¬ positions.contains rule.id = true) :
    Coherent (entries ++ [freshRule entries.length rule]) (positions.insert rule.id entries.length)
      (byKind.insertWith (fun old new => old ++ new) rule.appliesTo [entries.length]) := by
  have absent : positions.get? rule.id = none := by simpa [SortedMap.contains] using free
  constructor
  case priorities => simp [coherent.priorities, List.range_succ, freshRule]
  case positions_iff =>
    intro id position
    rw [List.map_append, List.map_singleton, getElem?_concat_eq_some_iff, List.length_map,
      SortedMap.insert, freshRule]
    by_cases same : id = rule.id
    · subst same
      have old : ¬ (entries.map fun entry => entry.rule.id)[position]? = some rule.id := by
        rw [← coherent.positions_iff, absent]
        exact nofun
      rw [SortedMap.get?_insertWith_self, absent, Option.elim_none, Option.some.injEq,
        or_iff_right old, and_iff_left rfl, eq_comm]
    · rw [SortedMap.get?_insertWith_of_ne same, coherent.positions_iff,
        or_iff_left fun last => same last.2.symm]
  case byKind_eq =>
    intro kind
    rw [List.map_append, List.map_singleton, positionsOf_concat, List.length_map, freshRule]
    by_cases same : kind = rule.appliesTo
    · subst same
      rw [SortedMap.get?_insertWith_self, if_pos rfl, ← coherent.byKind_eq]
      cases byKind.get? rule.appliesTo <;> rfl
    · rw [SortedMap.get?_insertWith_of_ne same, if_neg (Ne.symm same), List.append_nil,
        coherent.byKind_eq]
  case byKind_filled =>
    intro kind
    by_cases same : kind = rule.appliesTo
    · subst same
      rw [SortedMap.get?_insertWith_self]
      cases byKind.get? rule.appliesTo <;> simp
    · rw [SortedMap.get?_insertWith_of_ne same]
      exact coherent.byKind_filled kind

theorem of_sameRules {changed : List RegisteredRule}
    (rules : changed.map RegisteredRule.rule = entries.map RegisteredRule.rule)
    (priorities : changed.map RegisteredRule.priority = entries.map RegisteredRule.priority) :
    Coherent changed positions byKind := by
  have views {α : Type} (view : Rule → α) :
      changed.map (fun entry => view entry.rule) = entries.map fun entry => view entry.rule := by
    have viewed := congrArg (List.map view) rules
    rwa [List.map_map, List.map_map] at viewed
  have length : changed.length = entries.length := by
    have lengths := congrArg List.length rules
    rwa [List.length_map, List.length_map] at lengths
  constructor
  case priorities => rw [priorities, coherent.priorities, length]
  case positions_iff => rw [views]; exact coherent.positions_iff
  case byKind_eq => rw [views]; exact coherent.byKind_eq
  case byKind_filled => exact coherent.byKind_filled

theorem modify (change : StateChange) (position : Nat) :
    Coherent (entries.modify position change) positions byKind := by
  have views {α : Type} {view : RegisteredRule → α} (kept : ∀ entry, view (change entry) = view entry) :
      (entries.modify position change).map view = entries.map view := by
    apply List.ext_getElem?
    intro index
    rw [List.getElem?_map, List.getElem?_modify, List.getElem?_map]
    split
    · simp [Function.comp_def, kept]
    · simp
  exact coherent.of_sameRules (views change.rule_apply) (views change.priority_apply)

theorem map (change : StateChange) : Coherent (entries.map change) positions byKind := by
  refine coherent.of_sameRules ?_ ?_
  · rw [List.map_map]
    exact List.map_congr_left fun entry _ => change.rule_apply entry
  · rw [List.map_map]
    exact List.map_congr_left fun entry _ => change.priority_apply entry

end Coherent

end Registry

end NamingAudit
