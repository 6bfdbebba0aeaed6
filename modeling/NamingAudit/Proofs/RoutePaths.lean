import NamingAudit.Rules.Routes
import NamingAudit.Proofs.Admission
import NamingAudit.Proofs.CamelCase

/-! Fixes of route paths. All rules on paths suggest one text, made segment by segment. It settles
them all exactly when every segment comes out in order and the first one does not come out empty, and
recasting a segment can promise neither. -/

namespace NamingAudit.Rules
open NamingAudit.Text NamingAudit.Casing

variable {segment : List Char} {decl : RouteDecl}

def braced (inner : List Char) : List Char := '\x7b' :: (inner ++ ['\x7d'])

theorem isPlaceholder_iff : isPlaceholder segment = true ↔ ∃ inner, segment = braced inner := by
  simp only [isPlaceholder, Bool.and_eq_true, beq_iff_eq]
  constructor
  · rintro ⟨opened, closed⟩
    obtain ⟨rest, rfl⟩ := List.head?_eq_some_iff.mp opened
    obtain ⟨front, split⟩ := List.getLast?_eq_some_iff.mp closed
    cases front with
    | nil => simp at split
    | cons c inner =>
      rw [List.cons_append] at split
      cases split
      exact ⟨inner, rfl⟩
  · rintro ⟨inner, rfl⟩
    simp [braced, List.getLast?_cons]

@[simp] theorem isPlaceholder_braced (inner : List Char) : isPlaceholder (braced inner) = true :=
  isPlaceholder_iff.mpr ⟨inner, rfl⟩

@[simp] theorem placeholderInner_braced (inner : List Char) :
    placeholderInner (braced inner) = inner := by
  simp [placeholderInner, braced]

theorem normalizedPlaceholder_braced (inner : List Char) :
    normalizedPlaceholder (braced inner) = braced (toCamel inner) := by
  rw [normalizedPlaceholder, placeholderInner_braced]
  cases marked : beforeEnding? ['?'] inner with
  | none =>
    cases camel : isCamel inner with
    | true => simp [camel, toCamel_of_isCamel camel]
    | false => simp [camel, braced]
  | some name =>
    obtain rfl := beforeEnding?_eq_some_iff.mp marked
    rw [toCamel_append_mark]
    cases camel : isCamel name with
    | true => simp [camel, toCamel_of_isCamel camel]
    | false => simp [camel, braced]

def isInOrder (segment : List Char) : Bool :=
  isUrlSegment segment &&
    (!isPlaceholder segment || isCamel (withoutMarks (placeholderInner segment)))

def isRecast (segment : List Char) : Bool :=
  if isPlaceholder segment then isCamel (withoutMarks (toCamel (placeholderInner segment)))
  else isUrlSegment segment || isInOrder (toKebab segment)

theorem isInOrder_normalizedSegment (segment : List Char) :
    isInOrder (normalizedSegment segment) = isRecast segment := by
  rw [normalizedSegment, isRecast]
  cases placeholder : isPlaceholder segment with
  | true =>
    obtain ⟨inner, rfl⟩ := isPlaceholder_iff.mp placeholder
    simp [normalizedPlaceholder_braced, isInOrder, isUrlSegment]
  | false => cases url : isUrlSegment segment <;> simp [isInOrder, url, placeholder]

theorem slash_not_mem_normalizedSegment (absent : '/' ∉ segment) :
    '/' ∉ normalizedSegment segment := by
  have caseless : isCaseless '/' = true := by decide +kernel
  intro member
  unfold normalizedSegment at member
  split at member
  case isTrue placeholder =>
    obtain ⟨inner, rfl⟩ := isPlaceholder_iff.mp placeholder
    rw [normalizedPlaceholder_braced] at member
    have inside : '/' ∈ toCamel inner := by simpa [braced] using member
    exact absent (by simp [braced, mem_of_mem_toCamel caseless inside])
  case isFalse =>
    split at member
    · exact absent member
    · exact absent (mem_of_mem_toKebab caseless (by decide) member)

theorem isDelimiter_of_isUrlSegment {c : Char} {rest : List Char}
    (url : isUrlSegment (c :: rest) = true) : isDelimiter c = false := by
  simp only [isUrlSegment, List.isEmpty_cons, Bool.false_or, Bool.or_eq_true] at url
  rcases url with (placeholder | kebab) | digits
  · obtain ⟨inner, split⟩ := isPlaceholder_iff.mp placeholder
    cases split
    decide +kernel
  · simp only [isKebab, isDelimitedLower, List.head?_cons, Option.any_some,
      Bool.and_eq_true] at kebab
    exact isDelimiter_of_isAsciiAlphanumeric (by simp [isAsciiAlphanumeric, kebab.1.1.1])
  · simp only [List.all_cons, Bool.and_eq_true] at digits
    exact isDelimiter_of_isAsciiAlphanumeric (by simp [isAsciiAlphanumeric, digits.1])

theorem normalizedSegment_eq_nil_iff :
    normalizedSegment segment = [] ↔ segment.all isDelimiter = true := by
  cases segment with
  | nil => exact iff_of_true rfl rfl
  | cons c rest =>
    rw [normalizedSegment]
    split
    case isTrue placeholder =>
      have url : isUrlSegment (c :: rest) = true := by simp [isUrlSegment, placeholder]
      obtain ⟨inner, split⟩ := isPlaceholder_iff.mp placeholder
      rw [List.all_cons, isDelimiter_of_isUrlSegment url, split, normalizedPlaceholder_braced]
      simp [braced]
    case isFalse =>
      split
      case isTrue url => simp [isDelimiter_of_isUrlSegment url]
      case isFalse => rw [toKebab_eq_nil_iff]

theorem normalizedPath_eq_joinWith {path : List Char} (nonempty : path.dropWhile (· == '/') ≠ []) :
    normalizedPath path =
      joinWith '/' ((splitOn '/' (path.dropWhile (· == '/'))).map normalizedSegment) := by
  rw [normalizedPath, if_neg (by simpa using nonempty)]

theorem splitOn_normalizedPath {path : List Char} (nonempty : path.dropWhile (· == '/') ≠ []) :
    splitOn '/' (normalizedPath path) =
      (splitOn '/' (path.dropWhile (· == '/'))).map normalizedSegment := by
  rw [normalizedPath_eq_joinWith nonempty]
  refine splitOn_joinWith (fun piece member => ?_) (by simp [splitOn_ne_nil])
  obtain ⟨segment, present, rfl⟩ := List.mem_map.mp member
  exact slash_not_mem_normalizedSegment (separator_not_mem present)

def pathRules : List (RouteDecl → Verdict) :=
  [routeUrlKebabCase, routeLeadingSlash, routeParamCamelCase]

theorem routeUrlKebabCase_pass_iff : routeUrlKebabCase decl = .pass ↔
    ∀ segment ∈ splitOn '/' decl.path.toList, isUrlSegment segment = true := by
  simp [routeUrlKebabCase, pathViolation]

theorem routeLeadingSlash_pass_iff : routeLeadingSlash decl = .pass ↔
    (decl.path.toList.head? = some '/' → decl.path.toList = ['/']) := by
  have root : decl.path = "/" ↔ decl.path.toList = ['/'] := by
    rw [← String.toList_inj]
    rfl
  have passes : routeLeadingSlash decl = .pass ↔
      (decl.path == "/" || decl.path.toList.head? != some '/') = true := by
    rw [routeLeadingSlash]
    split <;> simp_all [pathViolation]
  rw [passes, Bool.or_eq_true, beq_iff_eq, bne_iff_ne, root, Decidable.or_iff_not_imp_right, ne_eq,
    Decidable.not_not]

theorem routeParamCamelCase_pass_iff (unnamed : decl.parameters = []) :
    routeParamCamelCase decl = .pass ↔
      ∀ parameter ∈ placeholderParameters decl.path.toList, isCamel parameter = true := by
  simp only [routeParamCamelCase, parametersOf, unnamed, List.isEmpty_nil, if_true]
  split
  case isTrue none => simpa using none
  case isFalse some =>
    refine iff_of_false (by split <;> simp) fun camel => some ?_
    simpa using camel

theorem isInOrder_iff : isInOrder segment = true ↔ isUrlSegment segment = true ∧
    (isPlaceholder segment = true → isCamel (withoutMarks (placeholderInner segment)) = true) := by
  rw [isInOrder, Bool.and_eq_true]
  cases isPlaceholder segment <;> simp

theorem pathRules_pass_iff (unnamed : decl.parameters = []) :
    (∀ rule ∈ pathRules, rule decl = .pass) ↔
      (∀ segment ∈ splitOn '/' decl.path.toList, isInOrder segment = true) ∧
        (decl.path.toList.head? = some '/' → decl.path.toList = ['/']) := by
  have segments :
      (∀ segment ∈ splitOn '/' decl.path.toList, isInOrder segment = true) ↔
        routeUrlKebabCase decl = .pass ∧ routeParamCamelCase decl = .pass := by
    rw [routeUrlKebabCase_pass_iff, routeParamCamelCase_pass_iff unnamed, placeholderParameters,
      List.forall_mem_map]
    simp only [isInOrder_iff, imp_and, forall_and, List.mem_filter, and_imp]
  rw [segments, ← routeLeadingSlash_pass_iff]
  simp [pathRules, and_comm, and_assoc]

theorem fix_of_pathRule {rule : RouteDecl → Verdict} (listed : rule ∈ pathRules) {finding : Finding}
    (violated : rule decl = .violation finding) :
    finding.fix = some (String.ofList (normalizedPath decl.path.toList)) ∨
      finding.fix = none ∧ decl.parameters ≠ [] := by
  simp only [pathRules, List.mem_cons, List.not_mem_nil, or_false] at listed
  rcases listed with rfl | rfl | rfl
  · rw [routeUrlKebabCase] at violated
    split at violated
    · contradiction
    · cases violated
      exact .inl rfl
  · rw [routeLeadingSlash] at violated
    split at violated
    · contradiction
    · cases violated
      exact .inl rfl
  · simp only [routeParamCamelCase] at violated
    split at violated
    · contradiction
    case isFalse offends =>
      split at violated <;> cases violated
      case isTrue camel =>
        refine .inr ⟨rfl, fun unnamed => offends ?_⟩
        simpa [parametersOf, unnamed] using camel
      case isFalse => exact .inl rfl

theorem fix_of_violation {rule : RouteDecl → Verdict} (listed : rule ∈ pathRules)
    (unnamed : decl.parameters = []) {finding : Finding}
    (violated : rule decl = .violation finding) :
    finding.fix = some (String.ofList (normalizedPath decl.path.toList)) :=
  (fix_of_pathRule listed violated).resolve_right fun none => none.2 unnamed

/-- A route with this path is accepted, and no rule on paths objects to it. -/
def Settles (verb : String) (name : Option String) (fix : String) : Prop :=
  ∃ decl, RouteDecl.checked fix verb name [] = .ok decl ∧
    ∀ rule ∈ pathRules, rule decl.toRouteDecl = .pass

/-- The path comes out as that of the root, or its first segment has more than delimiters and every
segment comes out in order. -/
def comesOutInOrder (path : List Char) : Bool :=
  let segments := splitOn '/' (path.dropWhile (· == '/'))
  normalizedPath path == ['/'] ||
    segments.head?.any (fun first => !first.all isDelimiter) && segments.all isRecast

theorem isAllBlank_eq_false {chars : List Char} {c : Char} (member : c ∈ chars)
    (kept : isDelimiter c = false) : isAllBlank (String.ofList chars) = false := by
  simp only [isDelimiter, Bool.or_eq_false_iff] at kept
  simpa [isAllBlank] using ⟨c, member, kept.2⟩

theorem settles_iff {path verb fix : String} {name : Option String} {decl : Fact.Route}
    (accepted : RouteDecl.checked path verb name [] = .ok decl) :
    Settles verb name fix ↔ isAllBlank fix = false ∧
      (∀ segment ∈ splitOn '/' fix.toList, isInOrder segment = true) ∧
        (fix.toList.head? = some '/' → fix.toList = ['/']) := by
  simp only [Settles, RouteDecl.checked_eq_ok_iff accepted]
  constructor
  · rintro ⟨moved, parts, passed⟩
    have printed := moved.printed
    rw [parts] at printed passed
    exact ⟨printed, (pathRules_pass_iff rfl).mp passed⟩
  · rintro ⟨printed, passed⟩
    exact ⟨⟨⟨fix, decl.verb, decl.name, []⟩, printed, decl.named, nofun⟩, rfl,
      (pathRules_pass_iff rfl).mpr passed⟩

theorem settles_normalizedPath_iff {path verb : String} {name : Option String} {decl : Fact.Route}
    (accepted : RouteDecl.checked path verb name [] = .ok decl) :
    Settles verb name (String.ofList (normalizedPath path.toList)) ↔
      comesOutInOrder path.toList = true := by
  rw [settles_iff accepted, String.toList_ofList]
  by_cases root : normalizedPath path.toList = ['/']
  · rw [root]
    exact iff_of_true ⟨by decide, by decide, fun _ => rfl⟩ (by simp [comesOutInOrder, root])
  have nonempty : path.toList.dropWhile (· == '/') ≠ [] := by
    intro none
    exact root (by simp [normalizedPath, none])
  have joined := normalizedPath_eq_joinWith nonempty
  rw [splitOn_normalizedPath nonempty, comesOutInOrder, beq_false_of_ne root, Bool.false_or]
  cases segments : splitOn '/' (path.toList.dropWhile (· == '/')) with
  | nil => exact absurd segments (splitOn_ne_nil _ _)
  | cons first rest =>
    rw [segments, List.map_cons] at joined
    have firstClean : '/' ∉ normalizedSegment first :=
      slash_not_mem_normalizedSegment (separator_not_mem (segments ▸ List.mem_cons_self))
    simp only [List.forall_mem_map, isInOrder_normalizedSegment, List.head?_cons, Option.any_some,
      Bool.and_eq_true, List.all_eq_true (p := isRecast)]
    cases made : normalizedSegment first with
    | nil =>
      -- Without its first segment the path is empty, or it starts with the slash behind it.
      refine iff_of_false ?_ (by simp [normalizedSegment_eq_nil_iff.mp made])
      rintro ⟨printed, _, slash⟩
      cases rest with
      | nil =>
        rw [joined, made] at printed
        contradiction
      | cons second rest =>
        rw [made, List.map_cons, joinWith_cons, List.nil_append] at joined
        exact root (slash (by rw [joined, List.head?_cons]))
    | cons c more =>
      rw [made, joinWith_cons_head] at joined
      have kept : first.all isDelimiter = false := by
        rw [← Bool.not_eq_true, ← normalizedSegment_eq_nil_iff, made]
        exact List.cons_ne_nil c more
      refine ⟨fun settled => ⟨by simp [kept], settled.2.1⟩, fun ⟨_, ordered⟩ => ⟨?_, ordered, ?_⟩⟩
      · have inOrder : isInOrder (c :: more) = true := by
          rw [← made, isInOrder_normalizedSegment]
          exact ordered first List.mem_cons_self
        rw [joined]
        exact isAllBlank_eq_false List.mem_cons_self
          (isDelimiter_of_isUrlSegment (isInOrder_iff.mp inOrder).1)
      · intro slash
        rw [joined, List.head?_cons, Option.some.injEq] at slash
        rw [made, slash] at firstClean
        exact absurd List.mem_cons_self firstClean

/-- What a rule on paths suggests for a route without declared parameters settles all of them exactly
when the path comes out in order. -/
theorem fix_settles_iff {path verb : String} {name : Option String} {decl : Fact.Route}
    (accepted : RouteDecl.checked path verb name [] = .ok decl) {rule : RouteDecl → Verdict}
    (listed : rule ∈ pathRules) {finding : Finding} (violated : rule decl.toRouteDecl = .violation finding)
    {fix : String} (suggested : finding.fix = some fix) :
    Settles verb name fix ↔ comesOutInOrder path.toList = true := by
  have made := (RouteDecl.checked_eq_ok_iff accepted).mp accepted
  have kept : decl.path = path := by rw [made]
  have unnamed : decl.parameters = [] := by rw [made]
  rw [fix_of_violation listed unnamed violated, kept] at suggested
  cases suggested
  exact settles_normalizedPath_iff accepted

theorem settles_userPosts :
    let decl : Fact.Route := .mk ⟨"/user_posts/\x7bpost_id?\x7d", .get, none, []⟩
    let finding : Finding :=
      { message := "Route URLs must be kebab-case without underscores: expected " ++
          "`user-posts/\x7bpostId?\x7d`"
        fix := some "user-posts/\x7bpostId?\x7d"
        target := .path
        scope := .fact }
    routeUrlKebabCase decl.toRouteDecl = .violation finding ∧
      Settles "GET" none "user-posts/\x7bpostId?\x7d" := by
  intro decl finding
  have accepted : RouteDecl.checked "/user_posts/\x7bpost_id?\x7d" "GET" none [] = .ok decl := rfl
  have violated : routeUrlKebabCase decl.toRouteDecl = .violation finding := by decide +kernel
  have ordered : comesOutInOrder decl.path.toList = true := by decide +kernel
  exact ⟨violated, (fix_settles_iff accepted List.mem_cons_self violated rfl).mpr ordered⟩

-- Words of one letter make capitals meet, and no segment in kebab case starts with a digit.
example : comesOutInOrder "users/\x7ba_b_c\x7d".toList = false := by decide +kernel

example : comesOutInOrder "2fa_codes".toList = false := by decide +kernel

/-- A first segment of delimiters only is lost, and the slash behind it is left. -/
theorem delimiters_leave_slash :
    RouteDecl.checked "__/users" "GET" none [] = .ok (.mk ⟨"__/users", .get, none, []⟩) ∧
      routeUrlKebabCase ⟨"__/users", .get, none, []⟩ = .violation
        { message := "Route URLs must be kebab-case without underscores: expected `/users`"
          fix := some "/users"
          target := .path
          scope := .fact } ∧
      ¬ Settles "GET" none "/users" := by
  have accepted : RouteDecl.checked "__/users" "GET" none [] =
      .ok (.mk ⟨"__/users", .get, none, []⟩) := rfl
  refine ⟨accepted, by decide +kernel, ?_⟩
  rw [settles_iff accepted]
  rintro ⟨_, _, slash⟩
  have root := slash rfl
  contradiction

end NamingAudit.Rules
