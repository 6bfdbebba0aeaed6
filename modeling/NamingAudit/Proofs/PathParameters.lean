import NamingAudit.Proofs.CaseBlindReadings
import NamingAudit.Proofs.UntouchedSegments

/-! Parameters wherever they stand in a path. Normalizing keeps all braces, and so it keeps the groups in
them, one by one. A group with a name in camel case keeps the name too where the segment as a whole is in
braces, but in any other segment the name is put into kebab case with the text around it. -/

namespace NamingAudit

namespace Text

variable {separator c : Char} {front text : List Char}

theorem head?_splitOn (separator : Char) (text : List Char) :
    (splitOn separator text).head? = some (text.takeWhile (· != separator)) := by
  induction text with
  | nil => rfl
  | cons c rest ih =>
    rw [splitOn, List.takeWhile_cons]
    by_cases same : c = separator
    · simp [same]
    · cases pieces : splitOn separator rest with
      | nil => exact absurd pieces (splitOn_ne_nil separator rest)
      | cons first others =>
        rw [pieces, List.head?_cons, Option.some.injEq] at ih
        simp [same, ih]

theorem tail_splitOn_append (absent : separator ∉ front) (text : List Char) :
    (splitOn separator (front ++ text)).tail = (splitOn separator text).tail := by
  induction front with
  | nil => rfl
  | cons c front ih =>
    rw [List.mem_cons, not_or] at absent
    rw [List.cons_append, splitOn, if_neg (by simpa using Ne.symm absent.1), ← ih absent.2]
    cases pieces : splitOn separator (front ++ text) with
    | nil => exact absurd pieces (splitOn_ne_nil separator _)
    | cons first others => rfl

theorem joinWith_append_cons (separator : Char) (front : List (List Char)) (piece : List Char)
    (back : List (List Char)) : joinWith separator (front ++ piece :: back) =
      front.flatMap (· ++ [separator]) ++ piece ++ back.flatMap (separator :: ·) := by
  induction front with
  | nil =>
    rw [List.nil_append, Casing.joinWith_eq_joinLed]
    rfl
  | cons first front ih =>
    have later (rest : List (List Char)) (filled : rest ≠ []) :
        joinWith separator (first :: rest) = first ++ separator :: joinWith separator rest := by
      obtain ⟨second, rest, rfl⟩ := List.exists_cons_of_ne_nil filled
      exact joinWith_cons separator first second rest
    rw [List.cons_append, later _ (by simp), ih]
    simp

end Text

namespace Casing
open NamingAudit.Text

variable {lead : Word → List Char} {position : Position} {name mark : List Char}

theorem isMark_brace : IsMark '\x7b' ∧ IsMark '\x7d' :=
  ⟨⟨rfl, rfl, rfl, rfl, rfl⟩, ⟨rfl, rfl, rfl, rfl, rfl⟩⟩

/-- A name in camel case is written down by itself up to the brace that closes its group. -/
theorem spellFrom_group (continued : position = .opening ∨ position = .inside)
    (camel : isCamel name = true) (marked : mark = [] ∨ mark = ['?']) (previous : Option Char)
    (rest : List Char) :
    spellFrom lead position previous (name ++ mark ++ '\x7d' :: rest) =
      name.flatMap (respelled lead) ++ mark ++
        '\x7d' :: spellFrom lead .inside (some '\x7d') rest := by
  rw [List.append_assoc, spellFrom_append_of_isCamel continued camel]
  rcases marked with rfl | rfl
  · simp [isMark_brace.2.spellFrom_inside_cons]
  · simp [isMark_questionMark.spellFrom_inside_cons, isMark_brace.2.spellFrom_inside_cons]

theorem toKebab_of_isCamel (camel : isCamel name = true) :
    toKebab name = name.flatMap (respelled ('-' :: ·)) := by
  have spelled : spellFrom ('-' :: ·) .opening none (name ++ []) =
      name.flatMap (respelled ('-' :: ·)) ++ [] := spellFrom_append_of_isCamel (.inl rfl) camel none []
  rwa [List.append_nil, List.append_nil, ← toKebab_eq_spellFrom] at spelled

theorem toKebab_eq_self_iff (camel : isCamel name = true) :
    toKebab name = name ↔ ∀ c ∈ name, isAsciiUpper c = false := by
  rw [toKebab_of_isCamel camel]
  constructor
  · intro same c inside
    rw [← same] at inside
    obtain ⟨d, _, reached⟩ := List.mem_flatMap.mp inside
    rw [respelled] at reached
    split at reached
    · next capital =>
      rcases List.mem_cons.mp reached with rfl | lowered
      · rfl
      · rw [List.mem_singleton.mp lowered]
        exact isAsciiUpper_of_isSmall (by rw [isSmall, isAsciiLower_asciiLower capital, Bool.true_or])
    · next uncapital => rw [List.mem_singleton.mp reached, Bool.eq_false_iff.mpr uncapital]
  · intro small
    have unchanged : name.flatMap (respelled ('-' :: ·)) = name.flatMap fun c => [c] :=
      List.flatMap_congr fun c inside => by rw [respelled, small c inside, if_neg Bool.false_ne_true]
    rw [unchanged, List.flatMap_singleton']

end Casing

namespace Rules
open NamingAudit.Text NamingAudit.Casing

variable {path name mark before after inner text : List Char} {c : Char}

def isBrace (c : Char) : Bool := c == '\x7b' || c == '\x7d'

def groups (text : List Char) : List (List Char) :=
  (splitOn '\x7b' text).tail.map fun behind => behind.takeWhile (· != '\x7d')

theorem length_groups (text : List Char) : (groups text).length = text.count '\x7b' := by
  rw [groups, List.length_map, List.length_tail, length_splitOn, Nat.add_sub_cancel]

theorem groups_append (absent : '\x7b' ∉ before) (text : List Char) :
    groups (before ++ text) = groups text := by
  rw [groups, tail_splitOn_append absent, groups]

theorem append_braced_append (before inner after : List Char) :
    before ++ braced inner ++ after = before ++ '\x7b' :: (inner ++ '\x7d' :: after) := by
  simp [braced]

theorem ne_brace (bare : isBrace c = false) : c ≠ '\x7b' ∧ c ≠ '\x7d' := by
  simpa [isBrace] using bare

theorem getElem?_groups (bare : ∀ c ∈ inner, isBrace c = false) (before after : List Char) :
    (groups (before ++ braced inner ++ after))[before.count '\x7b']? = some inner := by
  have place : ((splitOn '\x7b' before ++ splitOn '\x7b' (inner ++ '\x7d' :: after)).tail)[
      before.count '\x7b']? = (splitOn '\x7b' (inner ++ '\x7d' :: after)).head? := by
    rw [List.getElem?_tail, ← length_splitOn, List.getElem?_append_right (Nat.le_refl _),
      Nat.sub_self, List.head?_eq_getElem?]
  have kept : (inner ++ '\x7d' :: after).takeWhile (· != '\x7b') =
      inner ++ '\x7d' :: after.takeWhile (· != '\x7b') := by
    rw [List.takeWhile_append_of_pos fun c inside => by simpa using (ne_brace (bare c inside)).1]
    rfl
  have cut : (inner ++ '\x7d' :: after.takeWhile (· != '\x7b')).takeWhile (· != '\x7d') = inner := by
    rw [List.takeWhile_append_of_pos fun c inside => by simpa using (ne_brace (bare c inside)).2]
    simp
  rw [append_braced_append, groups, splitOn_append_separator, List.getElem?_map, place, head?_splitOn,
    Option.map_some, kept, cut]

def readBrace (c : Char) : List Char := if isBrace c then [c] else []

theorem flatMap_readBrace (text : List Char) : text.flatMap readBrace = text.filter isBrace := by
  induction text with
  | nil => rfl
  | cons c rest ih =>
    rw [List.flatMap_cons, ih, List.filter_cons, readBrace]
    split <;> rfl

theorem isCaseless_of_isBrace (brace : isBrace c = true) : isCaseless c = true := by
  rw [isBrace, Bool.or_eq_true, beq_iff_eq, beq_iff_eq] at brace
  rcases brace with rfl | rfl <;> decide +kernel

theorem isMark_of_isBrace (brace : isBrace c = true) : IsMark c := by
  rw [isBrace, Bool.or_eq_true, beq_iff_eq, beq_iff_eq] at brace
  rcases brace with rfl | rfl
  · exact isMark_brace.1
  · exact isMark_brace.2

theorem isCaseBlind_readBrace : IsCaseBlind readBrace fun _ => True := by
  have image {c : Char} {changed : List Char} (same : isBrace c = true → changed = [c])
      (back : ∀ d ∈ changed, isBrace d = true → d = c) : changed.flatMap readBrace = readBrace c := by
    cases brace : isBrace c with
    | true => rw [same brace, List.flatMap_singleton]
    | false =>
      rw [readBrace, brace, if_neg Bool.false_ne_true, List.flatMap_eq_nil_iff]
      intro d inside
      refine if_neg fun braceToo => ?_
      rw [← back d inside braceToo, braceToo] at brace
      contradiction
  refine ⟨fun _ _ _ _ => trivial, fun c _ => ?_, fun c _ => ?_, fun c delimiter => ?_⟩
  · exact image (fun brace => (isMark_of_isBrace brace).lowered) fun d inside brace =>
      eq_of_mem_lower (isCaseless_of_isBrace brace) inside
  · exact image (fun brace => (isMark_of_isBrace brace).raised) fun d inside brace =>
      eq_of_mem_upper (isCaseless_of_isBrace brace) inside
  · refine if_neg fun brace => ?_
    rw [(isMark_of_isBrace brace).solid] at delimiter
    contradiction

theorem count_filter_isBrace (text : List Char) :
    (text.filter isBrace).count '\x7b' = text.count '\x7b' := List.count_filter rfl

theorem count_eq_of_readBrace {other : List Char}
    (same : text.flatMap readBrace = other.flatMap readBrace) :
    text.count '\x7b' = other.count '\x7b' := by
  rw [← count_filter_isBrace, ← flatMap_readBrace, same, flatMap_readBrace, count_filter_isBrace]

theorem count_normalizedSegment (segment : List Char) :
    (normalizedSegment segment).count '\x7b' = segment.count '\x7b' :=
  count_eq_of_readBrace (read_normalizedSegment isCaseBlind_readBrace fun _ _ => trivial)

theorem count_toKebab (text : List Char) : (toKebab text).count '\x7b' = text.count '\x7b' :=
  count_eq_of_readBrace (isCaseBlind_readBrace.read_toKebab fun _ _ => trivial)

theorem count_toCamel (text : List Char) : (toCamel text).count '\x7b' = text.count '\x7b' :=
  count_eq_of_readBrace (isCaseBlind_readBrace.read_toCamel fun _ _ => trivial)

theorem normalizedSegment_braced (inner : List Char) :
    normalizedSegment (braced inner) = '\x7b' :: toCamel (inner ++ ['\x7d']) := by
  rw [normalizedSegment, if_pos (isPlaceholder_braced inner), normalizedPlaceholder_braced,
    isMark_brace.2.toCamel_append]
  rfl

theorem isPlaceholder_of_isUrlSegment {segment : List Char} (url : isUrlSegment segment = true)
    (inside : '\x7b' ∈ segment) : isPlaceholder segment = true := by
  simp only [isUrlSegment, isKebab, isDelimitedLower, Bool.or_eq_true, Bool.and_eq_true,
    List.all_eq_true] at url
  rcases url with ((empty | placeholder) | kebab) | digits
  · rw [List.isEmpty_iff.mp empty] at inside
    contradiction
  · exact placeholder
  · exact absurd (kebab.2 _ inside) (by decide)
  · exact absurd (digits _ inside) (by decide)

section Group
variable (camel : isCamel name = true) (marked : mark = [] ∨ mark = ['?'])
include camel marked

theorem exists_toKebab_group (before after : List Char) : ∃ front behind,
    toKebab (before ++ braced (name ++ mark) ++ after) =
        front ++ braced (toKebab name ++ mark) ++ behind ∧
      front.count '\x7b' = before.count '\x7b' := by
  obtain ⟨seam, kinds, spelled⟩ := isMark_brace.1.toKebab_append before
  refine ⟨toKebab before ++ seam, spellFrom ('-' :: ·) .inside (some '\x7d') after, ?_, ?_⟩
  · rw [append_braced_append, spelled, spellFrom_group (.inr rfl) camel marked, toKebab_of_isCamel camel,
      append_braced_append]
  · rw [List.count_append, count_toKebab]
    rcases kinds with rfl | rfl <;> simp

theorem exists_placeholder_group (before after : List Char)
    (placeholder : isPlaceholder (before ++ braced (name ++ mark) ++ after) = true) : ∃ front behind,
    normalizedSegment (before ++ braced (name ++ mark) ++ after) =
        front ++ braced (name ++ mark) ++ behind ∧
      front.count '\x7b' = before.count '\x7b' := by
  obtain ⟨inner, whole⟩ := isPlaceholder_iff.mp placeholder
  rw [whole, normalizedSegment_braced]
  cases before with
  | nil =>
    have same : inner ++ ['\x7d'] = name ++ mark ++ '\x7d' :: after := by
      simpa [braced] using whole.symm
    refine ⟨[], spellFrom capitalize .inside (some '\x7d') after, ?_, rfl⟩
    rw [same, toCamel_eq_spellFrom, spellFrom_group (.inl rfl) camel marked,
      flatMap_respelled_capitalize]
    simp [braced]
  | cons c before =>
    obtain ⟨rfl, whole⟩ := List.cons.injEq _ _ _ _ ▸ whole
    have same : inner ++ ['\x7d'] = before ++ '\x7b' :: (name ++ mark ++ '\x7d' :: after) := by
      simpa [braced] using whole.symm
    refine ⟨'\x7b' :: toCamel before, spellFrom capitalize .inside (some '\x7d') after, ?_, ?_⟩
    · rw [same, isMark_brace.1.toCamel_append, spellFrom_group (.inr rfl) camel marked,
        flatMap_respelled_capitalize]
      simp [braced]
    · rw [List.count_cons, List.count_cons, count_toCamel]

theorem exists_normalizedSegment_group (before after : List Char) : ∃ front behind,
    normalizedSegment (before ++ braced (name ++ mark) ++ after) =
        front ++ braced ((if isPlaceholder (before ++ braced (name ++ mark) ++ after) then name
          else toKebab name) ++ mark) ++ behind ∧
      front.count '\x7b' = before.count '\x7b' := by
  cases placeholder : isPlaceholder (before ++ braced (name ++ mark) ++ after) with
  | true => exact exists_placeholder_group camel marked before after placeholder
  | false =>
    have static : isUrlSegment (before ++ braced (name ++ mark) ++ after) = false :=
      Bool.eq_false_iff.mpr fun url => by
        rw [isPlaceholder_of_isUrlSegment url (by simp [braced])] at placeholder
        contradiction
    rw [normalizedSegment, placeholder, static]
    exact exists_toKebab_group camel marked before after

end Group

theorem normalizedPath_slash (path : List Char) : normalizedPath ('/' :: path) = normalizedPath path := by
  rw [normalizedPath, normalizedPath, List.dropWhile_cons_of_pos rfl]

theorem takeWhile_append_normalizedPath (nonempty : path.dropWhile (· == '/') ≠ []) :
    path.takeWhile (· == '/') ++ normalizedPath path =
      joinWith '/' ((splitOn '/' path).map normalizedSegment) := by
  induction path with
  | nil => contradiction
  | cons c rest ih =>
    by_cases slash : c = '/'
    · subst slash
      rw [List.dropWhile_cons_of_pos rfl] at nonempty
      rw [List.takeWhile_cons_of_pos rfl, normalizedPath_slash, List.cons_append, ih nonempty]
      obtain ⟨first, others, pieces⟩ := List.exists_cons_of_ne_nil (splitOn_ne_nil '/' rest)
      have begun : splitOn '/' ('/' :: rest) = [] :: splitOn '/' rest := by simp [splitOn]
      rw [begun, pieces, List.map_cons, List.map_cons, List.map_cons, joinWith_cons]
      rfl
    · have other : ¬ (c == '/') = true := by simpa using slash
      have whole : (c :: rest).dropWhile (· == '/') = c :: rest := List.dropWhile_cons_of_neg other
      have none : (c :: rest).takeWhile (· == '/') = [] := List.takeWhile_cons_of_neg other
      rw [normalizedPath_eq_joinWith nonempty, whole, none, List.nil_append]

theorem count_flatMap_slash (segments : List (List Char)) :
    (segments.flatMap (· ++ ['/'])).count '\x7b' = segments.flatten.count '\x7b' := by
  induction segments with
  | nil => rfl
  | cons first rest ih => simp [List.count_append, ih]

theorem count_flatMap_normalizedSegment (segments : List (List Char)) :
    ((segments.map normalizedSegment).flatMap (· ++ ['/'])).count '\x7b' =
      segments.flatten.count '\x7b' := by
  rw [count_flatMap_slash]
  induction segments with
  | nil => rfl
  | cons first rest ih =>
    rw [List.map_cons, List.flatten_cons, List.flatten_cons, List.count_append, List.count_append, ih,
      count_normalizedSegment]

theorem isBrace_of_mem_group (camel : isCamel name = true)
    (marked : mark = [] ∨ mark = ['?']) (inside : c ∈ name ++ mark) : isBrace c = false := by
  rcases List.mem_append.mp inside with inName | inMark
  · simp only [isCamel, isCapitalizedWords, Bool.and_eq_true, List.all_eq_true] at camel
    have ascii := camel.2.1 c inName
    refine Bool.eq_false_iff.mpr fun brace => ?_
    rw [isBrace, Bool.or_eq_true, beq_iff_eq, beq_iff_eq] at brace
    rcases brace with rfl | rfl <;> contradiction
  · rcases marked with rfl | rfl
    · contradiction
    · rw [List.mem_singleton.mp inMark]
      rfl

theorem isBrace_of_mem_kebab_group (camel : isCamel name = true) (marked : mark = [] ∨ mark = ['?'])
    (inside : c ∈ toKebab name ++ mark) : isBrace c = false := by
  refine Bool.eq_false_iff.mpr fun brace => ?_
  have noDash : c ≠ '-' := by
    rintro rfl
    contradiction
  have kept : c ∈ name ++ mark := List.mem_append.mpr ((List.mem_append.mp inside).imp_left
    (mem_of_mem_toKebab (isCaseless_of_isBrace brace) noDash))
  rw [isBrace_of_mem_group camel marked kept] at brace
  contradiction

theorem slashes_not_brace (path : List Char) (inside : c ∈ path.takeWhile (· == '/')) :
    isBrace c = false := by
  have slash := List.mem_takeWhile_imp inside
  rw [beq_iff_eq.mp slash]
  rfl

theorem filter_isBrace_normalizedPath (nonempty : path.dropWhile (· == '/') ≠ []) :
    (normalizedPath path).filter isBrace = path.filter isBrace := by
  have kept := read_normalizedPath isCaseBlind_readBrace nonempty fun _ _ => trivial
  have none : (path.takeWhile (· == '/')).filter isBrace = [] := List.filter_eq_nil_iff.mpr
    fun c inside => by simp [slashes_not_brace path inside]
  rw [flatMap_readBrace, flatMap_readBrace] at kept
  conv => rhs; rw [← List.takeWhile_append_dropWhile (p := (· == '/')) (l := path)]
  rw [kept, List.filter_append, none, List.nil_append]

theorem getElem?_groups_normalizedPath {front back : List (List Char)} (camel : isCamel name = true)
    (marked : mark = [] ∨ mark = ['?']) (nonempty : path.dropWhile (· == '/') ≠ [])
    (found : splitOn '/' path = front ++ (before ++ braced (name ++ mark) ++ after) :: back) :
    (groups (normalizedPath path))[(front.flatten ++ before).count '\x7b']? =
      some ((if isPlaceholder (before ++ braced (name ++ mark) ++ after) then name
        else toKebab name) ++ mark) := by
  obtain ⟨ahead, behind, spelled, counted⟩ := exists_normalizedSegment_group camel marked before after
  have bare : ∀ c ∈ (if isPlaceholder (before ++ braced (name ++ mark) ++ after) then name
      else toKebab name) ++ mark, isBrace c = false := by
    split
    · exact fun c => isBrace_of_mem_group camel marked
    · exact fun c => isBrace_of_mem_kebab_group camel marked
  have slashes : '\x7b' ∉ path.takeWhile (· == '/') := fun inside =>
    absurd (slashes_not_brace path inside) (by decide)
  have whole := takeWhile_append_normalizedPath nonempty
  rw [found, List.map_append, List.map_cons, joinWith_append_cons, spelled] at whole
  have stands := getElem?_groups bare ((front.map normalizedSegment).flatMap (· ++ ['/']) ++ ahead)
    (behind ++ (back.map normalizedSegment).flatMap ('/' :: ·))
  rw [List.count_append, count_flatMap_normalizedSegment, counted, ← List.count_append] at stands
  rw [← groups_append slashes, whole, ← stands]
  simp only [List.append_assoc]

/-- Normalizing keeps the braces of a path in their order. A group with a name in camel case stays where it is
among the groups. It has the same name still if the whole segment is in braces, and the name in kebab case if
not, so it is kept in a segment of the first kind and where the name has no capitals. -/
theorem camel_group_kept_iff {front back : List (List Char)} (camel : isCamel name = true)
    (marked : mark = [] ∨ mark = ['?'])
    (found : splitOn '/' path = front ++ (before ++ braced (name ++ mark) ++ after) :: back) :
    let segment := before ++ braced (name ++ mark) ++ after
    let place := (front.flatten ++ before).count '\x7b'
    (normalizedPath path).filter isBrace = path.filter isBrace ∧
    (groups (normalizedPath path)).length = (groups path).length ∧
    (groups path)[place]? = some (name ++ mark) ∧
    (groups (normalizedPath path))[place]? =
      some ((if isPlaceholder segment then name else toKebab name) ++ mark) ∧
    ((groups (normalizedPath path))[place]? = (groups path)[place]? ↔
      isPlaceholder segment = true ∨ ∀ c ∈ name, isAsciiUpper c = false) := by
  intro segment place
  have member : segment ∈ splitOn '/' path := found ▸ List.mem_append_right _ List.mem_cons_self
  have nonempty : path.dropWhile (· == '/') ≠ [] :=
    dropWhile_slash_ne_nil ⟨'\x7b', mem_of_mem_splitOn member (by simp [segment, braced]), by decide⟩
  have braces := filter_isBrace_normalizedPath nonempty
  have given : (groups path)[place]? = some (name ++ mark) := by
    have stands := getElem?_groups (fun c => isBrace_of_mem_group camel marked)
      (front.flatMap (· ++ ['/']) ++ before) (after ++ back.flatMap ('/' :: ·))
    rw [List.count_append, count_flatMap_slash, ← List.count_append] at stands
    rw [← joinWith_splitOn '/' path, found, joinWith_append_cons, ← stands]
    simp only [List.append_assoc, place]
  have normalized := getElem?_groups_normalizedPath camel marked nonempty found
  refine ⟨braces, ?_, given, normalized, ?_⟩
  · rw [length_groups, length_groups, ← count_filter_isBrace, braces, count_filter_isBrace]
  · rw [normalized, given, Option.some.injEq, List.append_cancel_right_eq]
    cases isPlaceholder segment with
    | true => simp
    | false => simp [toKebab_eq_self_iff camel]

theorem postId_kept :
    (groups (normalizedPath "/\x7buserId\x7d-\x7bpostId?\x7d/user_posts".toList))[1]? =
      some "postId?".toList := by
  obtain ⟨_, _, given, _, kept⟩ := @camel_group_kept_iff
    "/\x7buserId\x7d-\x7bpostId?\x7d/user_posts".toList "postId".toList ['?']
    "\x7buserId\x7d-".toList [] [[]] ["user_posts".toList] (by decide +kernel) (.inr rfl)
    (by decide +kernel)
  exact (kept.mpr (.inl (by decide +kernel))).trans given

/-- The only group of `user_posts-{postId}` has its braces in a segment with other text. -/
theorem postId_renamed :
    let path := "user_posts-\x7bpostId\x7d".toList
    path.filter isBrace = ['\x7b', '\x7d'] ∧ isCamel "postId".toList = true ∧
      groups path = ["postId".toList] ∧
      normalizedPath path = "user-posts-\x7bpost-id\x7d".toList ∧
      groups (normalizedPath path) = ["post-id".toList] := by
  decide +kernel

end Rules

end NamingAudit
