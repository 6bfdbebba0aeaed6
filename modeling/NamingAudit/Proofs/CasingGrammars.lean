import Mathlib.Computability.Language
import NamingAudit.Identifier
import NamingAudit.Proofs.JoinedWords

/-! The casing styles as languages. A style is checked by what stands side by side: no two delimiters, no two
capitals, and the right characters at the ends. That comes to the same as a grammar of the whole text, words
between single delimiters or capitals with small characters behind them, and a text of the language is
recased to itself. -/

namespace NamingAudit

namespace Casing
open NamingAudit.Text
open scoped Computability

variable {p : Char → Bool} {language : Language Char} {c delimiter : Char} {rest text : List Char}

def oneOf (p : Char → Bool) : Language Char := {text | ∃ c, p c = true ∧ text = [c]}

/-- `([A-Z][a-z0-9]+)*[A-Z]?` -/
def capitalizedTexts : Language Char :=
  (oneOf isAsciiUpper * (oneOf isSmall * (oneOf isSmall)∗))∗ * (1 + oneOf isAsciiUpper)

/-- `[a-z][a-z0-9]*([A-Z][a-z0-9]+)*[A-Z]?` -/
def camelTexts : Language Char := oneOf isAsciiLower * ((oneOf isSmall)∗ * capitalizedTexts)

/-- `([A-Z][a-z0-9]+)*[A-Z]?`, but not empty. -/
def pascalTexts : Language Char := capitalizedTexts - 1

/-- One or more words over `[a-z0-9]`, the first one beginning with a letter, with a delimiter in between. -/
def delimitedTexts (delimiter : Char) : Language Char :=
  {text | ∃ first rest, beginsWithLetter first = true ∧ (∀ word ∈ first :: rest, IsSmallWord word) ∧
    text = joinWith delimiter (first :: rest)}

theorem nil_not_mem_oneOf_mul : [] ∉ oneOf p * language := by
  intro member
  obtain ⟨front, ⟨c, _, rfl⟩, back, _, same⟩ := Language.mem_mul.mp member
  exact List.cons_ne_nil c back same

theorem cons_mem_oneOf_mul : c :: rest ∈ oneOf p * language ↔ p c = true ∧ rest ∈ language := by
  constructor
  · intro member
    obtain ⟨front, ⟨d, passes, rfl⟩, back, inside, same⟩ := Language.mem_mul.mp member
    obtain ⟨rfl, rfl⟩ := List.cons.inj same
    exact ⟨passes, inside⟩
  · intro parts
    have single : [c] ∈ oneOf p := ⟨c, parts.1, rfl⟩
    exact Language.append_mem_mul single parts.2

theorem capitalizedTexts_eq : capitalizedTexts =
    1 + oneOf isAsciiUpper * (1 + oneOf isSmall * ((oneOf isSmall)∗ * capitalizedTexts)) := by
  conv_lhs => rw [capitalizedTexts, ← Language.one_add_self_mul_kstar_eq_kstar]
  rw [add_mul, one_mul, mul_assoc, ← capitalizedTexts, mul_add, mul_one, mul_assoc, mul_assoc, add_assoc]

theorem small_mul_capitalizedTexts_eq : (oneOf isSmall)∗ * capitalizedTexts =
    capitalizedTexts + oneOf isSmall * ((oneOf isSmall)∗ * capitalizedTexts) := by
  conv_lhs => rw [← Language.one_add_self_mul_kstar_eq_kstar]
  rw [add_mul, one_mul, mul_assoc]

theorem nil_mem_capitalizedTexts : [] ∈ capitalizedTexts := by
  rw [capitalizedTexts_eq]
  exact Or.inl rfl

theorem cons_mem_capitalizedTexts_iff : c :: rest ∈ capitalizedTexts ↔ isAsciiUpper c = true ∧
    (rest = [] ∨ rest ∈ oneOf isSmall * ((oneOf isSmall)∗ * capitalizedTexts)) := by
  conv_lhs => rw [capitalizedTexts_eq]
  rw [Language.mem_add, Language.mem_one, cons_mem_oneOf_mul, Language.mem_add, Language.mem_one]
  exact or_iff_right (List.cons_ne_nil c rest)

theorem cons_mem_small_mul_iff : c :: rest ∈ (oneOf isSmall)∗ * capitalizedTexts ↔
    c :: rest ∈ capitalizedTexts ∨
      isSmall c = true ∧ rest ∈ (oneOf isSmall)∗ * capitalizedTexts := by
  conv_lhs => rw [small_mul_capitalizedTexts_eq]
  rw [Language.mem_add, cons_mem_oneOf_mul]

theorem not_isSmall_of_isAsciiUpper (capital : isAsciiUpper c = true) : isSmall c = false := by
  apply Bool.eq_false_iff.mpr
  intro small
  rw [isAsciiUpper_of_isSmall small] at capital
  contradiction

theorem cons_mem_small_mul_of_isSmall (small : isSmall c = true) :
    c :: rest ∈ (oneOf isSmall)∗ * capitalizedTexts ↔ rest ∈ (oneOf isSmall)∗ * capitalizedTexts := by
  rw [cons_mem_small_mul_iff, cons_mem_capitalizedTexts_iff, isAsciiUpper_of_isSmall small, small]
  simp

theorem cons_mem_small_mul_of_isAsciiUpper (capital : isAsciiUpper c = true) :
    c :: rest ∈ (oneOf isSmall)∗ * capitalizedTexts ↔ c :: rest ∈ capitalizedTexts := by
  rw [cons_mem_small_mul_iff, not_isSmall_of_isAsciiUpper capital]
  simp

theorem isAsciiAlphanumeric_iff : isAsciiAlphanumeric c = true ↔
    isAsciiUpper c = true ∨ isSmall c = true := by
  rw [isAsciiAlphanumeric, isSmall, Bool.or_assoc, Bool.or_eq_true]

/-- What is forbidden between neighbours leaves exactly the texts of the grammar. -/
theorem isCapitalizedWords_iff_mem :
    isCapitalizedWords text = true ↔ text ∈ (oneOf isSmall)∗ * capitalizedTexts := by
  induction text with
  | nil =>
    rw [small_mul_capitalizedTexts_eq]
    exact iff_of_true rfl (Or.inl nil_mem_capitalizedTexts)
  | cons c rest ih =>
    cases rest with
    | nil =>
      have alone : isCapitalizedWords [c] = true ↔ isAsciiAlphanumeric c = true := by
        simp [isCapitalizedWords, anyAdjacent]
      rw [alone, isAsciiAlphanumeric_iff, cons_mem_small_mul_iff, cons_mem_capitalizedTexts_iff, ← ih]
      simp [isCapitalizedWords, anyAdjacent]
    | cons d rest =>
      rw [isCapitalizedWords_cons_cons, ih, isAsciiAlphanumeric_iff]
      cases capital : isAsciiUpper c with
      | false =>
        rw [cons_mem_small_mul_iff (c := c), cons_mem_capitalizedTexts_iff (c := c), capital]
        simp
      | true =>
        rw [cons_mem_small_mul_of_isAsciiUpper capital, cons_mem_capitalizedTexts_iff (c := c), capital,
          cons_mem_oneOf_mul]
        cases capitalNext : isAsciiUpper d with
        | false =>
          rw [cons_mem_small_mul_iff, cons_mem_capitalizedTexts_iff, capitalNext]
          simp
        | true => simp [not_isSmall_of_isAsciiUpper capitalNext]

theorem isSmall_of_isAsciiLower (letter : isAsciiLower c = true) : isSmall c = true := by
  rw [isSmall, letter, Bool.true_or]

theorem isCamel_iff_mem : isCamel text = true ↔ text ∈ camelTexts := by
  cases text with
  | nil => exact iff_of_false Bool.false_ne_true nil_not_mem_oneOf_mul
  | cons c rest =>
    rw [isCamel, Bool.and_eq_true, isCapitalizedWords_iff_mem, camelTexts, cons_mem_oneOf_mul]
    apply and_congr_right
    intro letter
    exact cons_mem_small_mul_of_isSmall (isSmall_of_isAsciiLower letter)

theorem isPascal_iff_mem : isPascal text = true ↔ text ∈ pascalTexts := by
  cases text with
  | nil => exact iff_of_false Bool.false_ne_true fun member => member.2 rfl
  | cons c rest =>
    have filled : c :: rest ∈ pascalTexts ↔ c :: rest ∈ capitalizedTexts :=
      and_iff_left (List.cons_ne_nil c rest)
    rw [filled, isPascal, Bool.and_eq_true, isCapitalizedWords_iff_mem]
    constructor
    · intro pascal
      exact (cons_mem_small_mul_of_isAsciiUpper pascal.1).mp pascal.2
    · intro member
      have capital := (cons_mem_capitalizedTexts_iff.mp member).1
      exact ⟨capital, (cons_mem_small_mul_of_isAsciiUpper capital).mpr member⟩

theorem splitOn_cons_of_ne {separator : Char} (other : c ≠ separator) (rest : List Char) :
    ∃ piece pieces, splitOn separator rest = piece :: pieces ∧
      splitOn separator (c :: rest) = (c :: piece) :: pieces := by
  obtain ⟨piece, pieces, split⟩ := List.exists_cons_of_ne_nil (splitOn_ne_nil separator rest)
  refine ⟨piece, pieces, split, ?_⟩
  rw [splitOn, if_neg (by simpa using other), split]

theorem of_nil_mem_tail_splitOn (void : [] ∈ (splitOn delimiter text).tail) :
    text.getLast? = some delimiter ∨
      anyAdjacent (fun first second => first == delimiter && second == delimiter) text = true := by
  induction text with
  | nil => contradiction
  | cons c rest ih =>
    have further (void : [] ∈ (splitOn delimiter rest).tail) : (c :: rest).getLast? = some delimiter ∨
        anyAdjacent (fun first second => first == delimiter && second == delimiter) (c :: rest) = true := by
      cases rest with
      | nil => contradiction
      | cons d rest =>
        rw [List.getLast?_cons_cons, anyAdjacent]
        apply (ih void).imp_right
        intro adjacent
        rw [adjacent, Bool.or_true]
    by_cases same : c = delimiter
    · subst same
      rw [splitOn, if_pos (by simp), List.tail_cons] at void
      cases rest with
      | nil => exact Or.inl rfl
      | cons d rest =>
        by_cases next : d = c
        · subst next
          exact Or.inr (by simp [anyAdjacent])
        · obtain ⟨piece, pieces, _, split⟩ := splitOn_cons_of_ne next rest
          rw [split, List.mem_cons] at void
          apply further
          rw [split]
          exact void.resolve_left (List.cons_ne_nil d piece).symm
    · obtain ⟨piece, pieces, split, splitToo⟩ := splitOn_cons_of_ne same rest
      apply further
      rw [split]
      rwa [splitToo] at void

theorem isDelimitedLower_iff_mem (solid : isSmall delimiter = false) :
    isDelimitedLower delimiter text = true ↔ text ∈ delimitedTexts delimiter := by
  constructor
  · intro delimited
    have kinds {c : Char} := of_mem_of_isDelimitedLower delimited (c := c)
    simp only [isDelimitedLower, Bool.and_eq_true, bne_iff_ne, Bool.not_eq_true'] at delimited
    obtain ⟨⟨⟨begins, ends⟩, single⟩, _⟩ := delimited
    cases text with
    | nil => contradiction
    | cons c rest =>
      have letter : isAsciiLower c = true := begins
      have other := ne_of_isSmall solid (isSmall_of_isAsciiLower letter)
      obtain ⟨piece, pieces, _, split⟩ := splitOn_cons_of_ne other rest
      have filled : [] ∉ pieces := by
        intro void
        rcases of_nil_mem_tail_splitOn (by rwa [split]) with last | adjacent
        · exact ends last
        · rw [single] at adjacent
          contradiction
      refine ⟨c :: piece, pieces, letter, ?_, ?_⟩
      · intro word member
        rw [← split] at member
        constructor
        · intro empty
          rw [empty, split, List.mem_cons] at member
          exact filled (member.resolve_left (List.cons_ne_nil c piece).symm)
        · intro d inside
          apply (kinds (mem_of_mem_splitOn member inside)).resolve_right
          intro same
          exact separator_not_mem member (same ▸ inside)
      · rw [← split, joinWith_splitOn]
  · intro member
    obtain ⟨first, rest, begins, small, rfl⟩ := member
    rwa [isDelimitedLower_joinWith solid small]

theorem joinWith_words (boundary : isDelimiter delimiter = true) (member : text ∈ delimitedTexts delimiter) :
    joinWith delimiter (words text) = text := by
  obtain ⟨first, rest, _, small, rfl⟩ := member
  rw [words_joinWith boundary small]

end Casing

namespace Identifier
open NamingAudit.Casing NamingAudit.Text

structure IsStyle (admits : String → Bool) (recase : String → String) (texts : Language Char) : Prop where
  admits_iff : ∀ ident, admits ident = true ↔ ident.toList ∈ texts
  recase_eq : ∀ ident, admits ident = true → recase ident = ident

theorem isStyle_of {admits : List Char → Bool} {recase : List Char → List Char} {texts : Language Char}
    (admits_iff : ∀ text, admits text = true ↔ text ∈ texts)
    (recase_eq : ∀ text, admits text = true → recase text = text) :
    IsStyle (fun ident => admits ident.toList) (fun ident => String.ofList (recase ident.toList)) texts := by
  constructor
  · intro ident
    exact admits_iff ident.toList
  · intro ident admitted
    rw [recase_eq ident.toList admitted, String.ofList_toList]

/-- Each predicate is its grammar, for every text, and each conversion leaves the texts in its style as they
are. -/
theorem casing_styles :
    IsStyle isSnake snake (delimitedTexts '_') ∧ IsStyle isKebab kebab (delimitedTexts '-') ∧
      IsStyle isCamel camel camelTexts ∧ IsStyle isPascal pascal pascalTexts := by
  refine ⟨isStyle_of (fun _ => isDelimitedLower_iff_mem rfl) ?_,
    isStyle_of (fun _ => isDelimitedLower_iff_mem rfl) ?_, isStyle_of (fun _ => isCamel_iff_mem) ?_,
    isStyle_of (fun _ => isPascal_iff_mem) ?_⟩
  · intro text delimited
    exact joinWith_words rfl ((isDelimitedLower_iff_mem rfl).mp delimited)
  · intro text delimited
    exact joinWith_words rfl ((isDelimitedLower_iff_mem rfl).mp delimited)
  · intro text camel
    exact toCamel_of_isCamel camel
  · intro text pascal
    exact toPascal_of_isPascal pascal

/-- Digits may stand anywhere but at the beginning, and a single capital at the end. -/
theorem styles_of_versions :
    snake "v2_api" = "v2_api" ∧ kebab "v2-api" = "v2-api" ∧ camel "v2ApiB" = "v2ApiB" ∧
      pascal "V2ApiB" = "V2ApiB" ∧ "parseXML".toList ∉ camelTexts := by
  obtain ⟨snakes, kebabs, camels, pascals⟩ := casing_styles
  refine ⟨snakes.recase_eq _ (by decide), kebabs.recase_eq _ (by decide), camels.recase_eq _ (by decide),
    pascals.recase_eq _ (by decide), ?_⟩
  intro member
  exact absurd ((camels.admits_iff _).mpr member) (by decide)

end Identifier

end NamingAudit
