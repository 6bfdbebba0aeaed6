import NamingAudit.Order
import Mathlib.Data.List.Destutter
import Mathlib.Data.List.Forall2

/-! What sorting and the removal of repetitions leave of a list. A stable sort is determined by the
order and by what it does with elements that tie. Sorting and then dropping repetitions keeps, of
all elements that tie, the one that came first, so two lists that agree on those end up the same. -/

namespace NamingAudit.Order
open Std

variable {α : Type u} {cmp : α → α → Ordering} {same : α → α → Bool}

def ties (cmp : α → α → Ordering) (item other : α) : Bool := cmp item other == .eq

@[simp] theorem ties_iff {item other : α} : ties cmp item other = true ↔ cmp item other = .eq := by
  simp [ties]

/-- The same elements in ascending order, and those that tie in the order that they had. -/
structure IsStableSort (cmp : α → α → Ordering) (items sorted : List α) : Prop where
  perm : sorted.Perm items
  ascending : sorted.Pairwise fun first second => (cmp first second).isLE
  stable : ∀ item, sorted.filter (ties cmp item) = items.filter (ties cmp item)

theorem sort_perm (items : List α) : (sort cmp items).Perm items := List.mergeSort_perm _ _

theorem isLE_total [OrientedCmp cmp] (first second : α) :
    (cmp first second).isLE || (cmp second first).isLE := by
  have swapped : cmp second first = (cmp first second).swap := OrientedCmp.eq_swap
  rw [swapped]
  cases cmp first second <;> rfl

theorem sort_ascending [TransCmp cmp] (items : List α) :
    (sort cmp items).Pairwise fun first second => (cmp first second).isLE :=
  List.pairwise_mergeSort (fun _ _ _ => TransCmp.isLE_trans) isLE_total items

theorem filter_ties_sort [TransCmp cmp] (items : List α) (item : α) :
    (sort cmp items).filter (ties cmp item) = items.filter (ties cmp item) := by
  have tied : (items.filter (ties cmp item)).Pairwise fun first second =>
      (cmp first second).isLE := by
    rw [List.pairwise_iff_forall_sublist]
    intro first second pair
    have left := List.mem_filter.mp (pair.subset (by simp : first ∈ [first, second]))
    have right := List.mem_filter.mp (pair.subset (by simp : second ∈ [first, second]))
    have tie := TransCmp.eq_trans (OrientedCmp.eq_symm (ties_iff.mp left.2)) (ties_iff.mp right.2)
    rw [tie]
    rfl
  have kept : (items.filter (ties cmp item)).Sublist (sort cmp items) :=
    List.sublist_mergeSort (fun _ _ _ => TransCmp.isLE_trans) isLE_total tied List.filter_sublist
  have filtered := kept.filter (ties cmp item)
  rw [List.filter_filter] at filtered
  simp only [Bool.and_self] at filtered
  exact (filtered.eq_of_length ((sort_perm items).filter _).length_eq.symm).symm

theorem sort_isStableSort [TransCmp cmp] (items : List α) :
    IsStableSort cmp items (sort cmp items) :=
  ⟨sort_perm items, sort_ascending items, filter_ties_sort items⟩

theorem exists_of_forall₂ {β : Type v} {related : α → β → Prop} {first : List α} {second : List β}
    (step : List.Forall₂ related first second) {one : α} (member : one ∈ first) :
    ∃ other ∈ second, related one other := by
  obtain ⟨position, bound, rfl⟩ := List.getElem_of_mem member
  obtain ⟨sameLength, paired⟩ := List.forall₂_iff_get.mp step
  exact ⟨_, List.getElem_mem (sameLength ▸ bound), paired position bound (sameLength ▸ bound)⟩

theorem forall₂_of_length_eq {β : Type v} {related : α → β → Prop} {first : List α} {second : List β}
    (lengths : first.length = second.length)
    (all : ∀ one ∈ first, ∀ other ∈ second, related one other) : List.Forall₂ related first second :=
  List.forall₂_iff_get.mpr ⟨lengths, fun position bound bound' =>
    all _ (List.get_mem first ⟨position, bound⟩) _ (List.get_mem second ⟨position, bound'⟩)⟩

private theorem isLE_of_mem_of_filter_ties [TransCmp cmp] {related : α → α → Prop} {head item : α}
    {first second : List α}
    (ascending : (head :: first).Pairwise fun first second => (cmp first second).isLE)
    (classes : List.Forall₂ related ((head :: first).filter (ties cmp item))
      (second.filter (ties cmp item)))
    (member : item ∈ second) : (cmp head item).isLE := by
  have inside : item ∈ second.filter (ties cmp item) :=
    List.mem_filter.mpr ⟨member, by simp [ReflCmp.compare_self]⟩
  obtain ⟨met, present, _⟩ := exists_of_forall₂ classes.flip inside
  obtain ⟨found, tie⟩ := List.mem_filter.mp present
  rw [TransCmp.congr_right (ties_iff.mp tie)]
  rcases List.mem_cons.mp found with rfl | later
  · simp [ReflCmp.compare_self]
  · exact (List.pairwise_cons.mp ascending).1 met later

theorem forall₂_of_filter_ties [TransCmp cmp] {related : α → α → Prop} {first second : List α}
    (firstAscending : first.Pairwise fun first second => (cmp first second).isLE)
    (secondAscending : second.Pairwise fun first second => (cmp first second).isLE)
    (classes : ∀ item, List.Forall₂ related (first.filter (ties cmp item))
      (second.filter (ties cmp item))) : List.Forall₂ related first second := by
  induction first generalizing second with
  | nil =>
    cases second with
    | nil => exact .nil
    | cons other rest => simpa [ReflCmp.compare_self] using classes other
  | cons item rest ih =>
    cases second with
    | nil => simpa [ReflCmp.compare_self] using classes item
    | cons other others =>
      have below := isLE_of_mem_of_filter_ties firstAscending (classes other) (by simp)
      have above := isLE_of_mem_of_filter_ties secondAscending (classes item).flip (by simp)
      have tie : cmp item other = .eq := OrientedCmp.isLE_antisymm below above
      have heads := classes item
      rw [List.filter_cons_of_pos (by simp [ReflCmp.compare_self]),
        List.filter_cons_of_pos (by simp [tie]), List.forall₂_cons] at heads
      refine .cons heads.1 (ih firstAscending.of_cons secondAscending.of_cons fun probe => ?_)
      have whole := classes probe
      have alike : ties cmp probe item = ties cmp probe other := by
        rw [ties, ties, TransCmp.congr_right tie]
      by_cases hit : ties cmp probe item = true
      · rw [List.filter_cons_of_pos hit, List.filter_cons_of_pos (alike ▸ hit),
          List.forall₂_cons] at whole
        exact whole.2
      · rwa [List.filter_cons_of_neg hit, List.filter_cons_of_neg (alike ▸ hit)] at whole

theorem eq_of_filter_ties [TransCmp cmp] {first second : List α}
    (firstAscending : first.Pairwise fun first second => (cmp first second).isLE)
    (secondAscending : second.Pairwise fun first second => (cmp first second).isLE)
    (classes : ∀ item, first.filter (ties cmp item) = second.filter (ties cmp item)) :
    first = second := by
  have step := forall₂_of_filter_ties firstAscending secondAscending fun item =>
    List.forall₂_eq_eq_eq ▸ classes item
  rwa [List.forall₂_eq_eq_eq] at step

theorem isStableSort_iff [TransCmp cmp] {items sorted : List α} :
    IsStableSort cmp items sorted ↔ sorted = sort cmp items := by
  constructor
  · intro stable
    apply eq_of_filter_ties stable.ascending (sort_ascending items)
    intro item
    rw [stable.stable, filter_ties_sort]
  · rintro rfl
    exact sort_isStableSort items

theorem dropRepeats_eq_destutter (items : List α) :
    dropRepeats same items = items.destutter fun first second => same first second = false := by
  have behind (kept : α) (rest : List α) :
      rest.destutter' (fun first second => same first second = false) kept =
        kept :: dropRepeatsOf same kept rest := by
    induction rest generalizing kept with
    | nil => rfl
    | cons next rest ih =>
      cases repeated : same kept next <;> simp [dropRepeatsOf, repeated, ih]
  cases items with
  | nil => rfl
  | cons item rest => rw [List.destutter_cons', behind, dropRepeats]

/-- Strictly ascending, and of the elements that tie the one that came first. -/
structure IsDistinctSort (cmp : α → α → Ordering) (items result : List α) : Prop where
  ascending : result.Pairwise fun first second => cmp first second = .lt
  first : ∀ item, result.find? (ties cmp item) = items.find? (ties cmp item)

theorem filter_ties_of_ascending [TransCmp cmp] {items : List α}
    (ascending : items.Pairwise fun first second => cmp first second = .lt) (item : α) :
    items.filter (ties cmp item) = (items.find? (ties cmp item)).toList := by
  induction items with
  | nil => rfl
  | cons head rest ih =>
    by_cases hit : ties cmp item head = true
    · have behind : rest.filter (ties cmp item) = [] := by
        rw [List.filter_eq_nil_iff]
        intro other member tie
        have less := (List.pairwise_cons.mp ascending).1 other member
        rw [← TransCmp.congr_left (ties_iff.mp hit), ties_iff.mp tie] at less
        contradiction
      simp [List.filter_cons_of_pos hit, List.find?_cons_of_pos hit, behind]
    · rw [List.filter_cons_of_neg hit, List.find?_cons_of_neg hit]
      exact ih ascending.of_cons

theorem eq_of_find?_ties [TransCmp cmp] {first second : List α}
    (firstAscending : first.Pairwise fun first second => cmp first second = .lt)
    (secondAscending : second.Pairwise fun first second => cmp first second = .lt)
    (classes : ∀ item, first.find? (ties cmp item) = second.find? (ties cmp item)) :
    first = second := by
  apply eq_of_filter_ties
    (firstAscending.imp Ordering.isLE_of_eq_lt) (secondAscending.imp Ordering.isLE_of_eq_lt)
  intro item
  rw [filter_ties_of_ascending firstAscending, filter_ties_of_ascending secondAscending, classes]

theorem IsDistinctSort.unique [TransCmp cmp] {items first second : List α}
    (one : IsDistinctSort cmp items first) (other : IsDistinctSort cmp items second) :
    first = second :=
  eq_of_find?_ties one.ascending other.ascending fun item =>
    (one.first item).trans (other.first item).symm

theorem IsDistinctSort.eq_nil_iff [TransCmp cmp] {items result : List α}
    (distinct : IsDistinctSort cmp items result) : result = [] ↔ items = [] := by
  have missing {list : List α} : list = [] ↔ ∀ item, list.find? (ties cmp item) = none := by
    constructor
    · rintro rfl item
      rfl
    · intro absent
      refine List.eq_nil_iff_forall_not_mem.mpr fun item member => ?_
      exact List.find?_eq_none.mp (absent item) item member (by simp [ReflCmp.compare_self])
  simp only [missing, distinct.first]

theorem eq_of_tie [TransCmp cmp] {items : List α} {one other : α}
    (ascending : items.Pairwise fun first second => cmp first second = .lt)
    (oneMember : one ∈ items) (otherMember : other ∈ items) (tie : cmp one other = .eq) :
    one = other := by
  have alone := filter_ties_of_ascending ascending one
  have self : one ∈ items.filter (ties cmp one) :=
    List.mem_filter.mpr ⟨oneMember, by simp [ReflCmp.compare_self]⟩
  have tied : other ∈ items.filter (ties cmp one) :=
    List.mem_filter.mpr ⟨otherMember, by simp [tie]⟩
  rw [alone, Option.mem_toList] at self tied
  exact Option.some.inj (self.symm.trans tied)

theorem IsDistinctSort.exists_tie [TransCmp cmp] {items result : List α} {item : α}
    (distinct : IsDistinctSort cmp items result) (member : item ∈ items) :
    ∃ other ∈ result, cmp item other = .eq := by
  cases found : result.find? (ties cmp item) with
  | none =>
    rw [distinct.first] at found
    exact absurd (List.find?_eq_none.mp found item member) (by simp [ReflCmp.compare_self])
  | some other => exact ⟨other, List.mem_of_find?_eq_some found, ties_iff.mp (List.find?_some found)⟩

theorem IsDistinctSort.mem [TransCmp cmp] {items result : List α} {item : α}
    (distinct : IsDistinctSort cmp items result) (member : item ∈ result) : item ∈ items := by
  have alone : result.find? (ties cmp item) = some item := by
    cases found : result.find? (ties cmp item) with
    | none =>
      exact absurd (List.find?_eq_none.mp found item member) (by simp [ReflCmp.compare_self])
    | some other =>
      rw [eq_of_tie distinct.ascending member (List.mem_of_find?_eq_some found)
        (ties_iff.mp (List.find?_some found))]
  rw [distinct.first] at alone
  exact List.mem_of_find?_eq_some alone

theorem find?_ties_congr [TransCmp cmp] {first second : List α}
    (members : ∀ item, item ∈ first ↔ item ∈ second)
    (faithful : ∀ one ∈ first, ∀ other ∈ first, cmp one other = .eq → one = other) (item : α) :
    first.find? (ties cmp item) = second.find? (ties cmp item) := by
  cases found : first.find? (ties cmp item) with
  | none =>
    rw [List.find?_eq_none] at found
    symm
    rw [List.find?_eq_none]
    exact fun other member => found other ((members other).mpr member)
  | some one =>
    have oneTie := ties_iff.mp (List.find?_some found)
    cases met : second.find? (ties cmp item) with
    | none =>
      have member := (members one).mp (List.mem_of_find?_eq_some found)
      exact absurd (List.find?_some found) (List.find?_eq_none.mp met one member)
    | some other =>
      have otherTie := ties_iff.mp (List.find?_some met)
      have member := (members other).mpr (List.mem_of_find?_eq_some met)
      rw [faithful one (List.mem_of_find?_eq_some found) other member
        (TransCmp.eq_trans (OrientedCmp.eq_symm oneTie) otherTie)]

theorem eq_of_mem_iff [TransCmp cmp] {first second : List α}
    (firstAscending : first.Pairwise fun first second => cmp first second = .lt)
    (secondAscending : second.Pairwise fun first second => cmp first second = .lt)
    (members : ∀ item, item ∈ first ↔ item ∈ second) : first = second :=
  eq_of_find?_ties firstAscending secondAscending <| find?_ties_congr members
    fun _ oneMember _ otherMember => eq_of_tie firstAscending oneMember otherMember

theorem forall₂_of_ascending [TransCmp cmp] {first second : List α} {related : α → α → Prop}
    (firstAscending : first.Pairwise fun first second => cmp first second = .lt)
    (secondAscending : second.Pairwise fun first second => cmp first second = .lt)
    (met : ∀ one ∈ first, ∃ other ∈ second, cmp one other = .eq)
    (metBack : ∀ other ∈ second, ∃ one ∈ first, cmp one other = .eq)
    (related_of_tie : ∀ one ∈ first, ∀ other ∈ second, cmp one other = .eq → related one other) :
    List.Forall₂ related first second := by
  induction first generalizing second with
  | nil =>
    cases second with
    | nil => exact .nil
    | cons other others =>
      obtain ⟨one, absent, _⟩ := metBack other (by simp)
      exact absurd absent List.not_mem_nil
  | cons one rest ih =>
    cases second with
    | nil =>
      obtain ⟨other, absent, _⟩ := met one (by simp)
      exact absurd absent List.not_mem_nil
    | cons other others =>
      have above := (List.pairwise_cons.mp firstAscending).1
      have aboveOther := (List.pairwise_cons.mp secondAscending).1
      -- If the heads did not tie, each would come after its partner and so after the other head.
      have heads : cmp one other = .eq := by
        obtain ⟨partner, member, tie⟩ := met one (by simp)
        rcases List.mem_cons.mp member with rfl | later
        · exact tie
        · obtain ⟨origin, memberBack, tieBack⟩ := metBack other (by simp)
          rcases List.mem_cons.mp memberBack with rfl | laterBack
          · exact tieBack
          · have less : cmp other one = .lt :=
              TransCmp.lt_of_lt_of_eq (aboveOther partner later) (OrientedCmp.eq_symm tie)
            have more : cmp one other = .lt :=
              TransCmp.lt_of_lt_of_eq (above origin laterBack) tieBack
            rw [OrientedCmp.gt_of_lt less] at more
            contradiction
      refine .cons (related_of_tie one (by simp) other (by simp) heads) (ih firstAscending.of_cons
        secondAscending.of_cons (fun item member => ?_) (fun item member => ?_)
        fun item member partner present => related_of_tie item (by simp [member]) partner
          (by simp [present]))
      · obtain ⟨partner, present, tie⟩ := met item (by simp [member])
        rcases List.mem_cons.mp present with rfl | later
        · have less := TransCmp.lt_of_lt_of_eq (above item member) tie
          rw [heads] at less
          contradiction
        · exact ⟨partner, later, tie⟩
      · obtain ⟨partner, present, tie⟩ := metBack item (by simp [member])
        rcases List.mem_cons.mp present with rfl | later
        · have less := TransCmp.lt_of_lt_of_eq (aboveOther item member) (OrientedCmp.eq_symm tie)
          rw [OrientedCmp.eq_symm heads] at less
          contradiction
        · exact ⟨partner, later, tie⟩

theorem IsDistinctSort.forall₂_tie_iff [TransCmp cmp] {items result items' result' : List α}
    (distinct : IsDistinctSort cmp items result) (distinct' : IsDistinctSort cmp items' result') :
    List.Forall₂ (fun one other => cmp one other = .eq) result result' ↔
      (∀ one ∈ items, ∃ other ∈ items', cmp one other = .eq) ∧
        ∀ other ∈ items', ∃ one ∈ items, cmp one other = .eq := by
  constructor
  · intro step
    constructor
    · intro one member
      obtain ⟨kept, present, tie⟩ := distinct.exists_tie member
      obtain ⟨other, present', tie'⟩ := exists_of_forall₂ step present
      exact ⟨other, distinct'.mem present', TransCmp.eq_trans tie tie'⟩
    · intro other member
      obtain ⟨kept, present, tie⟩ := distinct'.exists_tie member
      obtain ⟨one, present', tie'⟩ := exists_of_forall₂ step.flip present
      exact ⟨one, distinct.mem present', TransCmp.eq_trans tie' (OrientedCmp.eq_symm tie)⟩
  · rintro ⟨met, metBack⟩
    refine forall₂_of_ascending distinct.ascending distinct'.ascending ?_ ?_ fun _ _ _ _ tie => tie
    · intro one kept
      obtain ⟨other, member, tie⟩ := met one (distinct.mem kept)
      obtain ⟨kept', present, tie'⟩ := distinct'.exists_tie member
      exact ⟨kept', present, TransCmp.eq_trans tie tie'⟩
    · intro other kept
      obtain ⟨one, member, tie⟩ := metBack other (distinct'.mem kept)
      obtain ⟨kept', present, tie'⟩ := distinct.exists_tie member
      exact ⟨kept', present, TransCmp.eq_trans (OrientedCmp.eq_symm tie') tie⟩

section Distinct
variable [TransCmp cmp] (agrees : ∀ first second, same first second = true ↔ cmp first second = .eq)
include agrees

private theorem dropRepeatsOf_ascending (kept : α) (rest : List α)
    (ascending : (kept :: rest).Pairwise fun first second => (cmp first second).isLE) :
    (kept :: dropRepeatsOf same kept rest).Pairwise fun first second =>
      cmp first second = .lt := by
  induction rest generalizing kept with
  | nil => simp [dropRepeatsOf]
  | cons next rest ih =>
    have bounds := List.pairwise_cons.mp ascending
    by_cases repeated : same kept next = true
    · simp only [dropRepeatsOf, repeated, if_true]
      exact ih kept (ascending.sublist (by simp))
    · simp only [dropRepeatsOf, repeated, Bool.false_eq_true, if_false]
      have tail := ih next bounds.2
      have less : cmp kept next = .lt :=
        (Ordering.isLE_iff_eq_lt_or_eq_eq.mp (bounds.1 next (by simp))).resolve_right
          (mt (agrees kept next).mpr repeated)
      refine List.pairwise_cons.mpr ⟨?_, tail⟩
      intro other member
      rcases List.mem_cons.mp member with rfl | later
      · exact less
      · exact TransCmp.lt_trans less ((List.pairwise_cons.mp tail).1 other later)

private theorem find?_dropRepeatsOf (kept item : α) (rest : List α) :
    (kept :: dropRepeatsOf same kept rest).find? (ties cmp item) =
      (kept :: rest).find? (ties cmp item) := by
  induction rest generalizing kept with
  | nil => rfl
  | cons next rest ih =>
    by_cases hit : ties cmp item kept = true
    · rw [List.find?_cons_of_pos hit, List.find?_cons_of_pos hit]
    · rw [List.find?_cons_of_neg hit (l := next :: rest)]
      by_cases repeated : same kept next = true
      · have missed : ¬ ties cmp item next = true := by
          rwa [ties_iff, ← TransCmp.congr_right ((agrees kept next).mp repeated), ← ties_iff]
        simp only [dropRepeatsOf, repeated, if_true]
        rw [ih kept, List.find?_cons_of_neg hit, List.find?_cons_of_neg missed]
      · simp only [dropRepeatsOf, repeated, Bool.false_eq_true, if_false]
        rw [List.find?_cons_of_neg hit, ih next]

/-- Sorting and dropping repetitions of the element before leaves no repetition at all. -/
theorem dropRepeats_sort_isDistinctSort (items : List α) :
    IsDistinctSort cmp items (dropRepeats same (sort cmp items)) := by
  have settled (sorted : List α)
      (ascending : sorted.Pairwise fun first second => (cmp first second).isLE) :
      IsDistinctSort cmp sorted (dropRepeats same sorted) := by
    cases sorted with
    | nil => exact ⟨.nil, fun _ => rfl⟩
    | cons kept rest =>
      exact ⟨dropRepeatsOf_ascending agrees kept rest ascending,
        fun item => find?_dropRepeatsOf agrees kept item rest⟩
  have distinct := settled (sort cmp items) (sort_ascending items)
  refine ⟨distinct.ascending, fun item => ?_⟩
  rw [distinct.first, ← List.head?_filter, ← List.head?_filter, filter_ties_sort]

end Distinct

theorem find?_filter_of_respects {items : List α} {keep picked : α → Bool}
    (respects : ∀ first second, picked first = true → picked second = true →
      keep first = keep second) :
    (items.filter keep).find? picked = (items.find? picked).filter keep := by
  induction items with
  | nil => rfl
  | cons head rest ih =>
    by_cases hit : picked head = true
    · by_cases kept : keep head = true
      · rw [List.filter_cons_of_pos kept, List.find?_cons_of_pos hit, List.find?_cons_of_pos hit,
          Option.filter_some_pos kept]
      · have none : (rest.filter keep).find? picked = none := by
          rw [List.find?_eq_none]
          intro other member also
          exact kept ((respects head other hit also).trans (List.mem_filter.mp member).2)
        rw [List.filter_cons_of_neg kept, none, List.find?_cons_of_pos hit,
          Option.filter_some_neg (by simpa using kept)]
    · rw [List.find?_cons_of_neg hit, ← ih]
      by_cases kept : keep head = true
      · rw [List.filter_cons_of_pos kept, List.find?_cons_of_neg hit]
      · rw [List.filter_cons_of_neg kept]

theorem IsDistinctSort.filter [TransCmp cmp] {items result : List α} {keep : α → Bool}
    (distinct : IsDistinctSort cmp items result)
    (respects : ∀ first second, cmp first second = .eq → keep first = keep second) :
    IsDistinctSort cmp (items.filter keep) (result.filter keep) := by
  refine ⟨distinct.ascending.filter keep, fun item => ?_⟩
  have shared (first second : α) (one : ties cmp item first = true)
      (other : ties cmp item second = true) : keep first = keep second :=
    respects first second
      (TransCmp.eq_trans (OrientedCmp.eq_symm (ties_iff.mp one)) (ties_iff.mp other))
  rw [find?_filter_of_respects shared, find?_filter_of_respects shared, distinct.first]

end NamingAudit.Order
