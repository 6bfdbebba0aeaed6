import Mathlib.Data.List.Induction
import Mathlib.Data.List.TakeWhile
import NamingAudit.Proofs.RoutePaths

/-! What normalizing leaves of a path. Slashes in front aside, every segment keeps its place, and one that is
in order stands there as it was, however many marks make its parameter optional. So a path that no rule
objects to is its own normalized path. -/

namespace NamingAudit.Rules
open NamingAudit.Text NamingAudit.Casing

variable {segment path : List Char} {decl : RouteDecl}

theorem withoutMarks_concat_mark (front : List Char) :
    withoutMarks (front ++ ['?']) = withoutMarks front := by
  simp [withoutMarks, dropWhileEnd]

theorem withoutMarks_concat {c : Char} (other : c ≠ '?') (front : List Char) :
    withoutMarks (front ++ [c]) = front ++ [c] := by
  simp [withoutMarks, dropWhileEnd, other]

theorem toCamel_of_isCamel_withoutMarks {inner : List Char}
    (camel : isCamel (withoutMarks inner) = true) : toCamel inner = inner := by
  induction inner using List.reverseRecOn with
  | nil => rfl
  | append_singleton front c ih =>
    by_cases mark : c = '?'
    · subst mark
      rw [withoutMarks_concat_mark] at camel
      rw [toCamel_append_mark, ih camel]
    · rw [withoutMarks_concat mark] at camel
      exact toCamel_of_isCamel camel

theorem isInOrder_iff_shape : isInOrder segment = true ↔
    segment = [] ∨ segment.all isAsciiDigit = true ∨ isKebab segment = true ∨
      ∃ inner, segment = braced inner ∧ isCamel (withoutMarks inner) = true := by
  have brace : isAsciiDigit '\x7b' = false ∧ isAsciiLower '\x7b' = false := ⟨rfl, rfl⟩
  cases placeholder : isPlaceholder segment with
  | false =>
    have unbraced : ¬ ∃ inner, segment = braced inner ∧ isCamel (withoutMarks inner) = true := by
      rintro ⟨inner, rfl, _⟩
      simp at placeholder
    simp [isInOrder, isUrlSegment, placeholder, unbraced, or_assoc, or_comm]
  | true =>
    obtain ⟨inner, rfl⟩ := isPlaceholder_iff.mp placeholder
    have others : braced inner ≠ [] ∧ (braced inner).all isAsciiDigit = false ∧
        isKebab (braced inner) = false := by
      simp [braced, isKebab, isDelimitedLower, brace]
    have same {other : List Char} : braced inner = braced other ↔ inner = other := by simp [braced]
    simp [isInOrder, isUrlSegment, others, same]

theorem normalizedSegment_of_isInOrder (ordered : isInOrder segment = true) :
    normalizedSegment segment = segment := by
  obtain ⟨url, named⟩ := isInOrder_iff.mp ordered
  rw [normalizedSegment, if_pos url]
  split
  · next placeholder =>
    obtain ⟨inner, rfl⟩ := isPlaceholder_iff.mp placeholder
    have camel := named placeholder
    rw [placeholderInner_braced] at camel
    rw [normalizedPlaceholder_braced, toCamel_of_isCamel_withoutMarks camel]
  · rfl

theorem dropWhile_slash_ne_nil (other : ∃ c ∈ path, c ≠ '/') : path.dropWhile (· == '/') ≠ [] := by
  obtain ⟨c, inside, notSlash⟩ := other
  intro none
  have slashes := List.dropWhile_eq_nil_iff.mp none
  exact notSlash (by simpa using slashes c inside)

theorem normalizedPath_of_passes (unnamed : decl.parameters = []) (nonempty : decl.path ≠ "")
    (passes : ∀ rule ∈ pathRules, rule decl = .pass) :
    normalizedPath decl.path.toList = decl.path.toList := by
  obtain ⟨ordered, rooted⟩ := (pathRules_pass_iff unnamed).mp passes
  cases text : decl.path.toList with
  | nil => exact absurd (String.toList_eq_nil_iff.mp text) nonempty
  | cons c rest =>
    rw [text] at ordered rooted
    by_cases slash : c = '/'
    · subst slash
      rw [rooted rfl]
      rfl
    · have whole : (c :: rest).dropWhile (· == '/') = c :: rest :=
        List.dropWhile_cons_of_neg (by simpa using slash)
      have fixed : (splitOn '/' (c :: rest)).map normalizedSegment = splitOn '/' (c :: rest) :=
        (List.map_congr_left fun segment member =>
          normalizedSegment_of_isInOrder (ordered segment member)).trans (List.map_id _)
      rw [normalizedPath_eq_joinWith (by rw [whole]; exact List.cons_ne_nil c rest), whole, fixed,
        joinWith_splitOn]

/-- A path with more than slashes in it has as many segments after normalizing as it has behind the slashes
in front, and of these each that is empty, a number, in kebab case, or a parameter in camel case but for its
marks is found in its place. A route that passes all rules on paths is left as it is. -/
theorem normalizedPath_leaves_ordered (path : List Char) (decl : RouteDecl) :
    ((∃ c ∈ path, c ≠ '/') →
      (splitOn '/' (normalizedPath path)).length =
        (splitOn '/' (path.dropWhile (· == '/'))).length ∧
      ∀ (place : Nat) (segment : List Char),
        (splitOn '/' (path.dropWhile (· == '/')))[place]? = some segment →
        (segment = [] ∨ segment.all isAsciiDigit = true ∨ isKebab segment = true ∨
          ∃ inner, segment = braced inner ∧ isCamel (withoutMarks inner) = true) →
        (splitOn '/' (normalizedPath path))[place]? = some segment) ∧
    (decl.parameters = [] → decl.path ≠ "" → (∀ rule ∈ pathRules, rule decl = .pass) →
      normalizedPath decl.path.toList = decl.path.toList) := by
  refine ⟨fun other => ?_, normalizedPath_of_passes⟩
  rw [splitOn_normalizedPath (dropWhile_slash_ne_nil other), List.length_map]
  refine ⟨rfl, fun place segment present shape => ?_⟩
  rw [List.getElem?_map, present, Option.map_some,
    normalizedSegment_of_isInOrder (isInOrder_iff_shape.mpr shape)]

theorem ordered_left_in_archive :
    let path := "//user_posts//2023/\x7bpostId??\x7d".toList
    let decl : RouteDecl := ⟨"archive/2023/\x7bpostId??\x7d", .get, none, []⟩
    (splitOn '/' (normalizedPath path)).length = 4 ∧
      (splitOn '/' (normalizedPath path))[3]? = some (braced "postId??".toList) ∧
      normalizedPath decl.path.toList = decl.path.toList := by
  intro path decl
  obtain ⟨frame, fixed⟩ := normalizedPath_leaves_ordered path decl
  obtain ⟨length, stands⟩ := frame ⟨'u', by decide +kernel, by decide⟩
  have camel : isCamel (withoutMarks "postId??".toList) = true := by decide +kernel
  refine ⟨length, stands 3 _ (by decide +kernel) (.inr (.inr (.inr ⟨_, rfl, camel⟩))), ?_⟩
  exact fixed rfl (by decide) (by decide +kernel)

end NamingAudit.Rules
