/-! Maps as association lists whose keys ascend. Putting a value under a key that is taken merges the
two values; the key that came first stays. -/

namespace NamingAudit
open Std

structure SortedMap (κ : Type u) (ν : Type v) [Ord κ] where
  entries : List (κ × ν)
  ascending : entries.Pairwise fun first second => compare first.1 second.1 = .lt

namespace SortedMap

variable {κ : Type u} {ν : Type v} [Ord κ] {merge : ν → ν → ν} {key : κ} {value : ν}
  {entries : List (κ × ν)}

def empty : SortedMap κ ν := ⟨[], .nil⟩

def insertEntry (merge : ν → ν → ν) (key : κ) (value : ν) : List (κ × ν) → List (κ × ν)
  | [] => [(key, value)]
  | (other, old) :: rest =>
    match compare key other with
    | .lt => (key, value) :: (other, old) :: rest
    | .eq => (other, merge old value) :: rest
    | .gt => (other, old) :: insertEntry merge key value rest

theorem key_of_mem_insertEntry {entry : κ × ν}
    (member : entry ∈ insertEntry merge key value entries) :
    entry.1 = key ∨ ∃ old ∈ entries, old.1 = entry.1 := by
  induction entries with
  | nil =>
    simp only [insertEntry, List.mem_singleton] at member
    exact Or.inl (by rw [member])
  | cons head rest ih =>
    rw [insertEntry] at member
    split at member
    · rcases List.mem_cons.mp member with rfl | inside
      · exact Or.inl rfl
      · exact Or.inr ⟨entry, inside, rfl⟩
    · rcases List.mem_cons.mp member with rfl | inside
      · exact Or.inr ⟨head, by simp, rfl⟩
      · exact Or.inr ⟨entry, by simp [inside], rfl⟩
    · rcases List.mem_cons.mp member with rfl | inside
      · exact Or.inr ⟨head, by simp, rfl⟩
      · rcases ih inside with same | ⟨old, present, same⟩
        · exact Or.inl same
        · exact Or.inr ⟨old, by simp [present], same⟩

theorem ascending_insertEntry [TransOrd κ]
    (ascending : entries.Pairwise fun first second => compare first.1 second.1 = .lt) :
    (insertEntry merge key value entries).Pairwise fun first second =>
      compare first.1 second.1 = .lt := by
  induction entries with
  | nil => simp [insertEntry]
  | cons head rest ih =>
    have bounds := List.pairwise_cons.mp ascending
    rw [insertEntry]
    split
    case h_1 less =>
      refine List.pairwise_cons.mpr ⟨fun other member => ?_, ascending⟩
      rcases List.mem_cons.mp member with rfl | inside
      · exact less
      · exact TransCmp.lt_trans less (bounds.1 other inside)
    case h_2 => exact List.pairwise_cons.mpr bounds
    case h_3 more =>
      refine List.pairwise_cons.mpr ⟨fun other member => ?_, ih bounds.2⟩
      rcases key_of_mem_insertEntry member with same | ⟨old, present, same⟩
      · rw [same]
        exact OrientedCmp.lt_of_gt more
      · rw [← same]
        exact bounds.1 old present

/-- Puts a value in; one that is there already is merged with it, as `merge old new`. -/
def insertWith [TransOrd κ] (merge : ν → ν → ν) (key : κ) (value : ν) (map : SortedMap κ ν) :
    SortedMap κ ν :=
  ⟨insertEntry merge key value map.entries, ascending_insertEntry map.ascending⟩

def insert [TransOrd κ] (key : κ) (value : ν) (map : SortedMap κ ν) : SortedMap κ ν :=
  map.insertWith (fun _ new => new) key value

def lookup? (key : κ) (entries : List (κ × ν)) : Option ν :=
  (entries.find? fun entry => compare key entry.1 == .eq).map Prod.snd

def get? (map : SortedMap κ ν) (key : κ) : Option ν := lookup? key map.entries

def contains (map : SortedMap κ ν) (key : κ) : Bool := (map.get? key).isSome

def collect [TransOrd κ] (merge : ν → ν → ν) (pairs : List (κ × ν)) : SortedMap κ ν :=
  pairs.foldl (fun map pair => map.insertWith merge pair.1 pair.2) empty

variable {map : SortedMap κ ν}

@[simp] theorem get?_empty : (empty : SortedMap κ ν).get? key = none := rfl

@[simp] theorem lookup?_nil : lookup? key ([] : List (κ × ν)) = none := rfl

theorem lookup?_cons (head : κ × ν) (rest : List (κ × ν)) :
    lookup? key (head :: rest) =
      if compare key head.1 = .eq then some head.2 else lookup? key rest := by
  by_cases hit : compare key head.1 = .eq <;> simp [lookup?, hit]

theorem lookup?_eq_none_of_lt (below : ∀ entry ∈ entries, compare key entry.1 = .lt) :
    lookup? key entries = none := by
  simp only [lookup?, Option.map_eq_none_iff, List.find?_eq_none]
  intro entry member
  simp [below entry member]

theorem lookup?_insertEntry_self [TransOrd κ]
    (ascending : entries.Pairwise fun first second => compare first.1 second.1 = .lt) :
    lookup? key (insertEntry merge key value entries) =
      some ((lookup? key entries).elim value fun old => merge old value) := by
  induction entries with
  | nil => simp [insertEntry, lookup?_cons, ReflCmp.compare_self]
  | cons head rest ih =>
    have bounds := List.pairwise_cons.mp ascending
    rw [insertEntry, lookup?_cons]
    split
    case h_1 less =>
      have absent := lookup?_eq_none_of_lt fun entry member =>
        TransCmp.lt_trans less (bounds.1 entry member)
      simp [lookup?_cons, ReflCmp.compare_self, less, absent]
    case h_2 tie => simp [lookup?_cons, tie]
    case h_3 more =>
      rw [lookup?_cons, if_neg (by simp [more]), if_neg (by simp [more])]
      exact ih bounds.2

theorem lookup?_insertEntry_of_not_tie [TransOrd κ] {probe : κ}
    (missed : ¬ compare probe key = .eq) :
    lookup? probe (insertEntry merge key value entries) = lookup? probe entries := by
  induction entries with
  | nil => simp [insertEntry, lookup?_cons, missed]
  | cons head rest ih =>
    rw [insertEntry, lookup?_cons]
    split
    case h_1 => rw [lookup?_cons, if_neg missed, lookup?_cons]
    case h_2 tie =>
      rw [TransCmp.congr_right tie] at missed
      rw [lookup?_cons, if_neg missed, if_neg missed]
    case h_3 => rw [lookup?_cons, ih]

theorem get?_insertWith_self [TransOrd κ] :
    (map.insertWith merge key value).get? key =
      some ((map.get? key).elim value fun old => merge old value) :=
  lookup?_insertEntry_self map.ascending

theorem get?_insertWith_of_not_tie [TransOrd κ] {probe : κ} (missed : ¬ compare probe key = .eq) :
    (map.insertWith merge key value).get? probe = map.get? probe :=
  lookup?_insertEntry_of_not_tie missed

theorem get?_insertWith_of_ne [TransOrd κ] [LawfulEqOrd κ] {probe : κ} (different : probe ≠ key) :
    (map.insertWith merge key value).get? probe = map.get? probe :=
  get?_insertWith_of_not_tie (mt LawfulEqOrd.eq_of_compare different)

end SortedMap

end NamingAudit
