import NamingAudit.SortedMap
import NamingAudit.Proofs.Order

/-! Maps as ascending association lists. What is put in is found again and nothing else changes, and
an ascending map is determined by what it finds. A map collected under "keep the lesser" holds, for
each key, the least of the values given for it, in whatever order they came. -/

namespace NamingAudit.SortedMap
open Std

variable {κ : Type u} {ν : Type v} [Ord κ] {merge : ν → ν → ν} {key : κ} {value : ν}
  {entries : List (κ × ν)} {map : SortedMap κ ν}

theorem ext_entries {first second : SortedMap κ ν} (same : first.entries = second.entries) :
    first = second := by
  cases first
  cases second
  cases same
  rfl

theorem ascending_byKey (map : SortedMap κ ν) :
    map.entries.Pairwise fun first second => compareOn Prod.fst first second = .lt := map.ascending

theorem get?_congr [TransOrd κ] {first second : κ} (tie : compare first second = .eq) :
    map.get? first = map.get? second := by
  have alike (entry : κ × ν) : (compare first entry.1 == .eq) = (compare second entry.1 == .eq) := by
    rw [TransCmp.congr_left tie]
  simp only [get?, lookup?, alike]

theorem get?_of_mem [TransOrd κ] (member : (key, value) ∈ map.entries) :
    map.get? key = some value := by
  have alone := Order.filter_ties_of_ascending map.ascending_byKey (key, value)
  have inside : (key, value) ∈ map.entries.filter (Order.ties (compareOn Prod.fst) (key, value)) :=
    List.mem_filter.mpr ⟨member, by simp [compareOn, ReflCmp.compare_self]⟩
  rw [alone, Option.mem_toList] at inside
  change (map.entries.find? (Order.ties (compareOn Prod.fst) (key, value))).map Prod.snd = _
  rw [inside, Option.map_some]

theorem find?_ties_entries [LawfulEqOrd κ] (map : SortedMap κ ν) (item : κ × ν) :
    map.entries.find? (Order.ties (compareOn Prod.fst) item) =
      (map.get? item.1).map fun value => (item.1, value) := by
  change map.entries.find? (fun entry => compare item.1 entry.1 == .eq) = _
  cases found : map.entries.find? fun entry => compare item.1 entry.1 == .eq with
  | none => simp [get?, lookup?, found]
  | some entry =>
    have tie : compare item.1 entry.1 = .eq := by simpa using List.find?_some found
    rw [get?, lookup?, found, LawfulEqOrd.eq_of_compare tie]
    rfl

theorem ext_get? [TransOrd κ] [LawfulEqOrd κ] {other : SortedMap κ ν}
    (found : ∀ key, map.get? key = other.get? key) : map = other := by
  apply ext_entries
  apply Order.eq_of_find?_ties map.ascending_byKey other.ascending_byKey
  intro item
  rw [find?_ties_entries, find?_ties_entries, found]

theorem mem_entries_iff [TransOrd κ] [LawfulEqOrd κ] :
    (key, value) ∈ map.entries ↔ map.get? key = some value := by
  refine ⟨get?_of_mem, fun found => ?_⟩
  have met := find?_ties_entries map (key, value)
  rw [found] at met
  exact List.mem_of_find?_eq_some met

theorem contains_iff [TransOrd κ] [LawfulEqOrd κ] :
    map.contains key = true ↔ ∃ value, (key, value) ∈ map.entries := by
  simp only [contains, Option.isSome_iff_exists, mem_entries_iff]

theorem collect_concat [TransOrd κ] (pairs : List (κ × ν)) (pair : κ × ν) :
    collect merge (pairs ++ [pair]) = (collect merge pairs).insertWith merge pair.1 pair.2 := by
  simp [collect]

theorem get?_collect_of_nodup [TransOrd κ] [LawfulEqOrd κ] {pairs : List (κ × ν)}
    (distinct : (pairs.map Prod.fst).Nodup) :
    (collect merge pairs).get? key = some value ↔ (key, value) ∈ pairs := by
  induction pairs using List.reverseRecOn generalizing value with
  | nil => simp [collect]
  | append_singleton pairs pair ih =>
    rw [List.map_append, List.nodup_append] at distinct
    have before (value : ν) :
        (collect merge pairs).get? key = some value ↔ (key, value) ∈ pairs := ih distinct.1
    rw [collect_concat]
    by_cases same : key = pair.1
    · subst same
      have fresh (value : ν) : (pair.1, value) ∉ pairs := fun member =>
        distinct.2.2 _ (List.mem_map_of_mem member) pair.1 (by simp) rfl
      have absent : (collect merge pairs).get? pair.1 = none :=
        Option.eq_none_iff_forall_ne_some.mpr fun value => mt (before value).mp (fresh value)
      rw [get?_insertWith_self, absent, Option.elim_none, List.mem_append, or_iff_right (fresh value)]
      simp [Prod.ext_iff, eq_comm]
    · rw [get?_insertWith_of_ne same, before]
      simp [Prod.ext_iff, same]

theorem insertWith_of_kept [TransOrd κ] [LawfulEqOrd κ] {old : ν}
    (found : map.get? key = some old) (kept : merge old value = old) :
    map.insertWith merge key value = map := by
  apply ext_get?
  intro probe
  by_cases same : probe = key
  · subst same
    rw [get?_insertWith_self, found, Option.elim_some, kept]
  · exact get?_insertWith_of_ne same

theorem collect_append_of_kept [TransOrd κ] [LawfulEqOrd κ] {pairs more : List (κ × ν)}
    (kept : ∀ pair ∈ more, ∃ old, (collect merge pairs).get? pair.1 = some old ∧
      merge old pair.2 = old) : collect merge (pairs ++ more) = collect merge pairs := by
  induction more using List.reverseRecOn with
  | nil => rw [List.append_nil]
  | append_singleton more pair ih =>
    have before := ih fun other member => kept other (by simp [member])
    obtain ⟨old, found, same⟩ := kept pair (by simp)
    rw [← List.append_assoc, collect_concat, before]
    exact insertWith_of_kept found same

theorem forall_mem_insertEntry (holds : ν → Prop)
    (before : ∀ entry ∈ entries, holds entry.2) (given : holds value)
    (merged : ∀ old, holds old → holds (merge old value)) :
    ∀ entry ∈ insertEntry merge key value entries, holds entry.2 := by
  induction entries with
  | nil => simpa [insertEntry] using given
  | cons head rest ih =>
    have later := (List.forall_mem_cons.mp before).2
    rw [insertEntry]
    split
    case h_1 => exact List.forall_mem_cons.mpr ⟨given, before⟩
    case h_2 => exact List.forall_mem_cons.mpr ⟨merged _ (before head (by simp)), later⟩
    case h_3 => exact List.forall_mem_cons.mpr ⟨before head (by simp), ih later⟩

theorem forall_mem_collect [TransOrd κ] (holds : ν → Prop) {pairs : List (κ × ν)}
    (given : ∀ pair ∈ pairs, holds pair.2)
    (merged : ∀ old new, holds old → holds new → holds (merge old new)) :
    ∀ entry ∈ (collect merge pairs).entries, holds entry.2 := by
  induction pairs using List.reverseRecOn with
  | nil => exact fun _ absent => absurd absent List.not_mem_nil
  | append_singleton pairs pair ih =>
    have last : holds pair.2 := given pair (by simp)
    rw [collect_concat]
    exact forall_mem_insertEntry holds (ih fun other member => given other (by simp [member])) last
      fun old kept => merged old pair.2 kept last

section Grouped
variable {α : Type w}

theorem getD_collect_append [TransOrd κ] (pairs : List (κ × List α)) (key : κ) :
    ((collect (fun old new => old ++ new) pairs).get? key).getD [] =
      (pairs.filter fun pair => compare key pair.1 == .eq).flatMap Prod.snd := by
  induction pairs using List.reverseRecOn with
  | nil => rfl
  | append_singleton pairs pair ih =>
    rw [collect_concat, List.filter_append, List.flatMap_append, ← ih]
    by_cases tie : compare key pair.1 = .eq
    · have selected : [pair].filter (fun pair => compare key pair.1 == .eq) = [pair] := by simp [tie]
      rw [get?_congr tie, get?_insertWith_self, get?_congr tie, selected,
        List.flatMap_singleton]
      cases (collect (fun old new => old ++ new) pairs).get? pair.1 <;> rfl
    · have unselected : [pair].filter (fun pair => compare key pair.1 == .eq) = [] := by simp [tie]
      rw [get?_insertWith_of_not_tie tie, unselected, List.flatMap_nil, List.append_nil]

theorem flatMap_insertEntry_perm (key : κ) (value : List α) (entries : List (κ × List α)) :
    ((insertEntry (fun old new => old ++ new) key value entries).flatMap Prod.snd).Perm
      (entries.flatMap Prod.snd ++ value) := by
  induction entries with
  | nil => simp [insertEntry]
  | cons head rest ih =>
    rw [insertEntry]
    split
    case h_1 => exact List.perm_append_comm
    case h_2 =>
      simp only [List.flatMap_cons, List.append_assoc]
      exact List.perm_append_comm.append_left head.2
    case h_3 =>
      simp only [List.flatMap_cons, List.append_assoc]
      exact ih.append_left head.2

theorem flatMap_collect_append_perm [TransOrd κ] (pairs : List (κ × List α)) :
    ((collect (fun old new => old ++ new) pairs).entries.flatMap Prod.snd).Perm
      (pairs.flatMap Prod.snd) := by
  induction pairs using List.reverseRecOn with
  | nil => exact .refl []
  | append_singleton pairs pair ih =>
    rw [collect_concat, List.flatMap_append, List.flatMap_singleton]
    exact (flatMap_insertEntry_perm pair.1 pair.2 _).trans (ih.append_right pair.2)

end Grouped

def least (cmp : ν → ν → Ordering) (old new : ν) : ν := if cmp new old == .lt then new else old

def IsLeast (cmp : ν → ν → Ordering) (among : ν → Prop) : Option ν → Prop
  | none => ∀ value, ¬ among value
  | some least => among least ∧ ∀ value, among value → (cmp least value).isLE

section Least
variable {cmp : ν → ν → Ordering} [TransCmp cmp]

theorem IsLeast.add {among : ν → Prop} {found : Option ν} (before : IsLeast cmp among found)
    (new : ν) : IsLeast cmp (fun value => among value ∨ value = new)
      (some (found.elim new fun old => least cmp old new)) := by
  cases found with
  | none =>
    refine ⟨Or.inr rfl, fun value given => ?_⟩
    rcases given with present | rfl
    · exact absurd present (before value)
    · simp [ReflCmp.compare_self]
  | some old =>
    by_cases less : cmp new old = .lt
    · simp only [Option.elim_some, least, less, beq_self_eq_true, if_true]
      refine ⟨Or.inr rfl, fun value given => ?_⟩
      rcases given with present | rfl
      · exact Ordering.isLE_of_eq_lt (TransCmp.lt_of_lt_of_isLE less (before.2 value present))
      · simp [ReflCmp.compare_self]
    · simp only [Option.elim_some, least, beq_iff_eq, less, if_false]
      refine ⟨Or.inl before.1, fun value given => ?_⟩
      rcases given with present | rfl
      · exact before.2 value present
      · rw [← OrientedCmp.isGE_iff_isLE]
        revert less
        cases cmp value old <;> simp

theorem get?_collect_isLeast [TransOrd κ] [LawfulEqOrd κ] (cmp : ν → ν → Ordering) [TransCmp cmp]
    (pairs : List (κ × ν)) (key : κ) :
    IsLeast cmp (fun value => (key, value) ∈ pairs)
      ((collect (least cmp) pairs).get? key) := by
  induction pairs using List.reverseRecOn with
  | nil => exact fun _ => List.not_mem_nil
  | append_singleton pairs pair ih =>
    rw [collect_concat]
    by_cases same : key = pair.1
    · subst same
      rw [get?_insertWith_self]
      have given : (fun value => (pair.1, value) ∈ pairs ++ [pair]) =
          fun value => (pair.1, value) ∈ pairs ∨ value = pair.2 := by
        funext value
        simp [Prod.ext_iff]
      rw [given]
      exact ih.add pair.2
    · rw [get?_insertWith_of_ne same]
      have given : (fun value => (key, value) ∈ pairs ++ [pair]) =
          fun value => (key, value) ∈ pairs := by
        funext value
        simp [Prod.ext_iff, same]
      rwa [given]

theorem mem_of_mem_collect [TransOrd κ] [LawfulEqOrd κ] {pairs : List (κ × ν)} {pair : κ × ν}
    (member : pair ∈ (collect (least cmp) pairs).entries) : pair ∈ pairs := by
  have found := mem_entries_iff.mp member
  have isLeast := get?_collect_isLeast cmp pairs pair.1
  rw [found] at isLeast
  exact isLeast.1

theorem IsLeast.unique {among : ν → Prop} {one other : Option ν}
    (faithful : ∀ first second, among first → among second → cmp first second = .eq →
      first = second)
    (left : IsLeast cmp among one) (right : IsLeast cmp among other) : one = other := by
  cases one with
  | none =>
    cases other with
    | none => rfl
    | some value => exact absurd right.1 (left value)
  | some value =>
    cases other with
    | none => exact absurd left.1 (right value)
    | some rival =>
      rw [faithful value rival left.1 right.1
        (OrientedCmp.isLE_antisymm (left.2 rival right.1) (right.2 value left.1))]

theorem IsLeast.tie {first second : ν → Prop} {one : ν} {other : Option ν}
    (left : IsLeast cmp first (some one)) (right : IsLeast cmp second other)
    (met : ∀ value, first value → ∃ rival, second rival ∧ cmp value rival = .eq)
    (metBack : ∀ rival, second rival → ∃ value, first value ∧ cmp rival value = .eq) :
    ∃ rival, other = some rival ∧ cmp one rival = .eq := by
  obtain ⟨partner, given, tie⟩ := met one left.1
  cases other with
  | none => exact absurd given (right partner)
  | some rival =>
    refine ⟨rival, rfl, OrientedCmp.isLE_antisymm ?_ ?_⟩
    · obtain ⟨value, present, back⟩ := metBack rival right.1
      rw [TransCmp.congr_right back]
      exact left.2 value present
    · rw [TransCmp.congr_right tie]
      exact right.2 partner given

/-- Which pairs are given decides, not how often and in which order, as long as values for one key
tie only when they are equal. -/
theorem collect_least_congr [TransOrd κ] [LawfulEqOrd κ] {first second : List (κ × ν)}
    (members : ∀ pair, pair ∈ first ↔ pair ∈ second)
    (faithful : ∀ key one other, (key, one) ∈ first → (key, other) ∈ first →
      cmp one other = .eq → one = other) :
    collect (least cmp) first = collect (least cmp) second := by
  apply ext_get?
  intro key
  have left := get?_collect_isLeast cmp first key
  have right := get?_collect_isLeast cmp second key
  simp only [← members] at right
  exact left.unique (faithful key) right

end Least

end NamingAudit.SortedMap
