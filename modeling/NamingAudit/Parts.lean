/-! Lists cut into consecutive parts. -/

namespace NamingAudit

/-- Parts of the given size, at least one; the last may be shorter. -/
def parts (size : Nat) : List α → List (List α)
  | [] => []
  | first :: rest => (first :: rest.take (size - 1)) :: parts size (rest.drop (size - 1))
termination_by items => items.length
decreasing_by
  rw [List.length_drop, List.length_cons]
  omega

end NamingAudit
