/-! Comparisons by a property, sorting, and what is left of a list when repetitions of the element before are
taken out. -/

namespace NamingAudit.Order

theorem lawfulEqCmp_compareOn {α : Type u} {β : Type v} [Ord β] [Std.LawfulEqOrd β] {f : α → β}
    (injective : ∀ first second, f first = f second → first = second) :
    Std.LawfulEqCmp (compareOn f) where
  compare_self := Std.ReflOrd.compare_self
  eq_of_compare tie := injective _ _ (Std.LawfulEqOrd.eq_of_compare tie)

def sort (cmp : α → α → Ordering) (items : List α) : List α :=
  items.mergeSort fun first second => (cmp first second).isLE

def dropRepeatsOf (same : α → α → Bool) (kept : α) : List α → List α
  | [] => []
  | next :: rest =>
    if same kept next then dropRepeatsOf same kept rest
    else next :: dropRepeatsOf same next rest

/-- Of equal neighbours the first. -/
def dropRepeats (same : α → α → Bool) : List α → List α
  | [] => []
  | first :: rest => first :: dropRepeatsOf same first rest

end NamingAudit.Order
