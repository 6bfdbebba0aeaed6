import Mathlib.Data.List.Chain
import NamingAudit.Proofs.CamelCase
import NamingAudit.Proofs.SmallWords

/-! When words put together are in a casing style. Between delimiters it is enough that the first one begins
with a letter. Behind capitals, two capitals must not meet, and they do where a word is a single letter and
the next one begins with a letter. -/

namespace NamingAudit

namespace Text

variable {c : Char}

def isAsciiLetter (c : Char) : Bool := isAsciiUpper c || isAsciiLower c

theorem any_isAsciiLetter {head : Option Char}
    (kinds : head.any isAsciiUpper = true ∨ head.any isAsciiLower = true) :
    head.any isAsciiLetter = true := by
  cases head with
  | none => simp at kinds
  | some c => simpa [isAsciiLetter] using kinds

theorem isAsciiAlphanumeric_of_isAsciiLetter (letter : isAsciiLetter c = true) :
    isAsciiAlphanumeric c = true := by
  rw [isAsciiLetter] at letter
  rw [isAsciiAlphanumeric, letter, Bool.true_or]

theorem isAsciiUpper_asciiUpper_eq (small : isSmall c = true) :
    isAsciiUpper (asciiUpper c) = isAsciiLower c := by
  cases letter : isAsciiLower c with
  | true => exact isAsciiUpper_asciiUpper letter
  | false =>
    rw [asciiUpper, letter, if_neg Bool.false_ne_true]
    exact isAsciiUpper_of_isSmall small

theorem isAsciiAlphanumeric_asciiUpper (small : isSmall c = true) :
    isAsciiAlphanumeric (asciiUpper c) = true := by
  cases letter : isAsciiLower c with
  | true => simp [isAsciiAlphanumeric, isAsciiUpper_asciiUpper letter]
  | false =>
    rw [asciiUpper, letter, if_neg Bool.false_ne_true]
    exact isAsciiAlphanumeric_of_isSmall small

theorem lower_asciiUpper (small : isSmall c = true) : lower (asciiUpper c) = [c] := by
  have below := toNat_lt_of_isAsciiAlphanumeric (isAsciiAlphanumeric_asciiUpper small)
  rw [lower, if_pos below, asciiLower_asciiUpper small]

theorem isAsciiLower_asciiLower_eq (c : Char) : isAsciiLower (asciiLower c) = isAsciiLetter c := by
  cases capital : isAsciiUpper c with
  | true => simp [isAsciiLower_asciiLower capital, isAsciiLetter, capital]
  | false => simp [asciiLower, isAsciiLetter, capital]

end Text

namespace Casing
open NamingAudit.Text

variable {first second word : Word} {front rest text : List Char} {parts : List Word}

def beginsWithLetter (word : Word) : Bool := word.head?.any isAsciiLower

theorem anyAdjacent_eq_false_iff {related : Char → Char → Bool} :
    anyAdjacent related text = false ↔
      text.IsChain fun first second => related first second = false := by
  induction text with
  | nil => simp [anyAdjacent]
  | cons c rest ih =>
    cases rest with
    | nil => simp [anyAdjacent]
    | cons d rest => rw [anyAdjacent, Bool.or_eq_false_iff, ih, List.isChain_cons_cons]

theorem of_mem_of_isDelimitedLower {delimiter c : Char}
    (delimited : isDelimitedLower delimiter text = true) (inside : c ∈ text) :
    isSmall c = true ∨ c = delimiter := by
  simp only [isDelimitedLower, Bool.and_eq_true, List.all_eq_true] at delimited
  have kinds := delimited.2 c inside
  rwa [Bool.or_eq_true, beq_iff_eq] at kinds

section Delimited
variable {delimiter : Char} (solid : isSmall delimiter = false)
include solid

theorem ne_of_isSmall {c : Char} (small : isSmall c = true) : c ≠ delimiter := by
  rintro rfl
  rw [small] at solid
  contradiction

theorem delimiters_apart (small : ∀ word ∈ parts, IsSmallWord word) :
    (joinWith delimiter parts).IsChain (fun first second =>
      (first == delimiter && second == delimiter) = false) ∧
    (joinWith delimiter parts).head? ≠ some delimiter ∧
    (joinWith delimiter parts).getLast? ≠ some delimiter := by
  have inner {word : Word} (small : IsSmallWord word) : word.IsChain fun first second =>
      (first == delimiter && second == delimiter) = false := by
    refine (List.pairwise_of_forall_mem_list fun c inside d _ => ?_).isChain
    simp [ne_of_isSmall solid (small.2 c inside)]
  induction parts with
  | nil => simp [joinWith]
  | cons first rest ih =>
    rw [List.forall_mem_cons] at small
    have ends {c : Char} (inside : c ∈ first) : c ≠ delimiter :=
      ne_of_isSmall solid (small.1.2 c inside)
    cases rest with
    | nil =>
      rw [joinWith_singleton]
      exact ⟨inner small.1, fun begins => ends (List.mem_of_head? begins) rfl,
        fun ending => ends (List.mem_of_getLast? ending) rfl⟩
    | cons second rest =>
      obtain ⟨chain, begins, ending⟩ := ih small.2
      have filled : joinWith delimiter (second :: rest) ≠ [] := by
        cases rest with
        | nil => simpa using (small.2 second List.mem_cons_self).1
        | cons third rest => simp [joinWith_cons]
      rw [joinWith_cons]
      refine ⟨List.isChain_append.mpr ⟨inner small.1, List.isChain_cons.mpr ⟨?_, chain⟩, ?_⟩, ?_, ?_⟩
      · intro next nextBegins
        have other : next ≠ delimiter := fun same => begins (same ▸ nextBegins)
        simp [other]
      · intro last lastEnds _ _
        simp [ends (List.mem_of_getLast? lastEnds)]
      · rw [List.head?_append_of_ne_nil _ small.1.1]
        exact fun begins => ends (List.mem_of_head? begins) rfl
      · rwa [List.getLast?_append_of_ne_nil _ (List.cons_ne_nil _ _),
          List.getLast?_cons_of_ne_nil filled]

theorem isDelimitedLower_joinWith (small : ∀ word ∈ parts, IsSmallWord word) :
    isDelimitedLower delimiter (joinWith delimiter parts) = parts.head?.any beginsWithLetter := by
  obtain ⟨chain, _, ending⟩ := delimiters_apart solid small
  have single := anyAdjacent_eq_false_iff.mpr chain
  have letters : (joinWith delimiter parts).all (fun c =>
      isAsciiLower c || isAsciiDigit c || c == delimiter) = true := by
    refine List.all_eq_true.mpr fun c inside => ?_
    rcases mem_joinWith inside with rfl | ⟨word, member, inWord⟩
    · simp
    · have letter := (small word member).2 c inWord
      rw [isSmall] at letter
      rw [letter, Bool.true_or]
  have begins : (joinWith delimiter parts).head?.any isAsciiLower =
      parts.head?.any beginsWithLetter := by
    cases parts with
    | nil => rfl
    | cons first rest =>
      have nonempty := (small first List.mem_cons_self).1
      cases rest with
      | nil => simp [beginsWithLetter]
      | cons second rest =>
        rw [joinWith_cons, List.head?_append_of_ne_nil _ nonempty]
        rfl
  rw [isDelimitedLower, begins, single, letters, bne_iff_ne.mpr ending]
  simp

end Delimited

def isLetter : Word → Bool
  | [c] => isAsciiLower c
  | _ => false

def CapitalsApart (parts : List Word) : Prop :=
  parts.IsChain fun first second => ¬ (isLetter first = true ∧ beginsWithLetter second = true)

instance (parts : List Word) : Decidable (CapitalsApart parts) :=
  inferInstanceAs (Decidable (List.IsChain _ _))

def MayMeet (first second : Char) : Prop := isAsciiUpper first = true → isAsciiUpper second = false

theorem isCapitalizedWords_iff : isCapitalizedWords text = true ↔
    (∀ c ∈ text, isAsciiAlphanumeric c = true) ∧ text.IsChain MayMeet := by
  have chain : (text.IsChain fun first second => (isAsciiUpper first && isAsciiUpper second) = false) ↔
      text.IsChain MayMeet :=
    List.IsChain.iff fun first second => Bool.and_eq_false_imp
  rw [isCapitalizedWords, Bool.and_eq_true, Bool.not_eq_true', anyAdjacent_eq_false_iff, chain,
    List.all_eq_true]

theorem capitalize_cons {c : Char} (small : isSmall c = true) (more : Word) :
    capitalize (c :: more) = asciiUpper c :: more := by
  rw [capitalize, upper_of_isSmall small, List.singleton_append]

theorem isAsciiAlphanumeric_of_mem_capitalize (small : IsSmallWord word) :
    ∀ c ∈ capitalize word, isAsciiAlphanumeric c = true := by
  obtain ⟨nonempty, letters⟩ := small
  obtain ⟨c, more, rfl⟩ := List.exists_cons_of_ne_nil nonempty
  rw [List.forall_mem_cons] at letters
  rw [capitalize_cons letters.1, List.forall_mem_cons]
  exact ⟨isAsciiAlphanumeric_asciiUpper letters.1, fun d inside =>
    isAsciiAlphanumeric_of_isSmall (letters.2 d inside)⟩

theorem isChain_of_small (c : Char) (small : ∀ d ∈ rest, isSmall d = true) :
    (c :: rest).IsChain MayMeet := by
  induction rest generalizing c with
  | nil => exact List.isChain_singleton c
  | cons d rest ih =>
    rw [List.forall_mem_cons] at small
    rw [List.isChain_cons_cons]
    exact ⟨fun _ => isAsciiUpper_of_isSmall small.1, ih d small.2⟩

theorem isChain_capitalize (small : IsSmallWord word) : (capitalize word).IsChain MayMeet := by
  obtain ⟨nonempty, letters⟩ := small
  obtain ⟨c, more, rfl⟩ := List.exists_cons_of_ne_nil nonempty
  rw [List.forall_mem_cons] at letters
  rw [capitalize_cons letters.1]
  exact isChain_of_small (asciiUpper c) letters.2

theorem capitalize_ne_nil (small : IsSmallWord word) : capitalize word ≠ [] := by
  obtain ⟨nonempty, letters⟩ := small
  obtain ⟨c, more, rfl⟩ := List.exists_cons_of_ne_nil nonempty
  rw [capitalize_cons (letters c List.mem_cons_self)]
  exact List.cons_ne_nil _ _

theorem mayMeet_capitalize_iff (small : IsSmallWord first) (smallToo : IsSmallWord second) :
    (∀ last ∈ (capitalize first).getLast?, ∀ next ∈ (capitalize second).head?, MayMeet last next) ↔
      ¬ (isLetter first = true ∧ beginsWithLetter second = true) := by
  obtain ⟨nonempty, letters⟩ := small
  obtain ⟨nonemptyToo, lettersToo⟩ := smallToo
  obtain ⟨c, more, rfl⟩ := List.exists_cons_of_ne_nil nonempty
  obtain ⟨d, others, rfl⟩ := List.exists_cons_of_ne_nil nonemptyToo
  rw [List.forall_mem_cons] at letters lettersToo
  rw [capitalize_cons letters.1, capitalize_cons lettersToo.1]
  cases more with
  | nil =>
    simp [MayMeet, isLetter, beginsWithLetter, isAsciiUpper_asciiUpper_eq letters.1,
      isAsciiUpper_asciiUpper_eq lettersToo.1]
  | cons e more =>
    -- A longer word ends in a small character, which may stand before any capital.
    refine iff_of_true (fun last ending next _ capital => ?_) (by simp [isLetter])
    have inside : last ∈ e :: more := List.mem_of_getLast? (by simpa using ending)
    rw [isAsciiUpper_of_isSmall (letters.2 last inside)] at capital
    contradiction

theorem isCapitalizedWords_append_joinPascal (smallFront : ∀ c ∈ front, isSmall c = true)
    (small : ∀ word ∈ parts, IsSmallWord word) :
    isCapitalizedWords (front ++ joinPascal parts) = true ↔ CapitalsApart parts := by
  have ascii : ∀ c ∈ front ++ joinPascal parts, isAsciiAlphanumeric c = true := by
    intro c inside
    rcases List.mem_append.mp inside with before | behind
    · exact isAsciiAlphanumeric_of_isSmall (smallFront c before)
    · obtain ⟨word, member, inWord⟩ := List.mem_flatMap.mp behind
      exact isAsciiAlphanumeric_of_mem_capitalize (small word member) c inWord
  have chainFront : front.IsChain MayMeet := by
    cases front with
    | nil => exact List.isChain_nil
    | cons c rest => exact isChain_of_small c (List.forall_mem_cons.mp smallFront).2
  have seam : ∀ last ∈ front.getLast?, ∀ next ∈ (joinPascal parts).head?, MayMeet last next := by
    intro last ending next _ capital
    rw [isAsciiUpper_of_isSmall (smallFront last (List.mem_of_getLast? ending))] at capital
    contradiction
  have nonempty : [] ∉ parts.map capitalize := by
    intro member
    obtain ⟨word, present, empty⟩ := List.mem_map.mp member
    exact capitalize_ne_nil (small word present) empty
  have inner : ∀ piece ∈ parts.map capitalize, piece.IsChain MayMeet :=
    List.forall_mem_map.mpr fun word member => isChain_capitalize (small word member)
  have chain : (joinPascal parts).IsChain MayMeet ↔ CapitalsApart parts := by
    rw [joinPascal, List.flatMap_def, List.isChain_flatten nonempty, List.isChain_map]
    refine (and_iff_right inner).trans (List.IsChain.iff_of_mem_imp fun first second member memberToo => ?_)
    exact mayMeet_capitalize_iff (small first member) (small second memberToo)
  rw [isCapitalizedWords_iff, List.isChain_append, chain]
  constructor
  · intro held
    exact held.2.2.1
  · intro apart
    exact ⟨ascii, chainFront, apart, seam⟩

theorem isPascal_joinPascal_iff (small : ∀ word ∈ parts, IsSmallWord word) :
    isPascal (joinPascal parts) = true ↔
      parts.head?.any beginsWithLetter = true ∧ CapitalsApart parts := by
  have begins : (joinPascal parts).head?.any isAsciiUpper = parts.head?.any beginsWithLetter := by
    cases parts with
    | nil => rfl
    | cons first rest =>
      obtain ⟨nonempty, letters⟩ := small first List.mem_cons_self
      obtain ⟨c, more, rfl⟩ := List.exists_cons_of_ne_nil nonempty
      have smallFirst := letters c List.mem_cons_self
      simp [joinPascal, capitalize_cons smallFirst, isAsciiUpper_asciiUpper_eq smallFirst,
        beginsWithLetter]
  have apart : isCapitalizedWords ([] ++ joinPascal parts) = true ↔ CapitalsApart parts :=
    isCapitalizedWords_append_joinPascal (by simp) small
  rw [List.nil_append] at apart
  rw [isPascal, Bool.and_eq_true, begins, apart]

theorem head?_joinCamel (small : ∀ word ∈ parts, IsSmallWord word) :
    (joinCamel parts).head?.any isAsciiLower = parts.head?.any beginsWithLetter := by
  cases parts with
  | nil => rfl
  | cons first rest =>
    have nonempty := (small first List.mem_cons_self).1
    rw [joinCamel, List.head?_append_of_ne_nil _ nonempty]
    rfl

theorem isCamel_joinCamel_iff (small : ∀ word ∈ parts, IsSmallWord word) :
    isCamel (joinCamel parts) = true ↔
      parts.head?.any beginsWithLetter = true ∧ CapitalsApart parts.tail := by
  rw [isCamel, Bool.and_eq_true, head?_joinCamel small]
  refine and_congr_right fun _ => ?_
  cases parts with
  | nil => exact iff_of_true rfl List.isChain_nil
  | cons first rest =>
    rw [List.forall_mem_cons] at small
    exact isCapitalizedWords_append_joinPascal small.1.2 small.2

theorem wordsFrom_asciiUpper_nil {c : Char} (small : isSmall c = true) (previous : Option Char)
    (rest : List Char) : wordsFrom previous [] (asciiUpper c :: rest) =
      wordsFrom (some (asciiUpper c)) [c] rest := by
  have solid := isDelimiter_of_isAsciiAlphanumeric (isAsciiAlphanumeric_asciiUpper small)
  rw [wordsFrom, if_neg (by simp [solid]), if_neg (by simp), lower_asciiUpper small]
  rfl

structure IsRecasable (ident : List Char) : Prop where
  plain : IsPlainText ident
  letter : (ident.find? fun c => !isDelimiter c).any isAsciiLetter = true

instance (ident : List Char) : Decidable (IsRecasable ident) :=
  decidable_of_iff
    (IsPlainText ident ∧ (ident.find? fun c => !isDelimiter c).any isAsciiLetter = true)
    ⟨fun ⟨plain, letter⟩ => ⟨plain, letter⟩, fun recasable => ⟨recasable.plain, recasable.letter⟩⟩

theorem isRecasable_of_head? (plain : IsPlainText text) (begins : text.head?.any isAsciiLetter = true) :
    IsRecasable text := by
  refine ⟨plain, ?_⟩
  cases text with
  | nil => contradiction
  | cons c rest =>
    have letter : isAsciiLetter c = true := by simpa using begins
    have solid := isDelimiter_of_isAsciiAlphanumeric (isAsciiAlphanumeric_of_isAsciiLetter letter)
    simp [solid, letter]

theorem head?_words (plain : IsPlainText text) : (words text).head?.any beginsWithLetter =
    (text.find? fun c => !isDelimiter c).any isAsciiLetter := by
  have lowered := congrArg (fun joined => joined.head?.any isAsciiLower) (flatten_words text)
  have first : (words text).flatten.head?.any isAsciiLower =
      (words text).head?.any beginsWithLetter := by
    cases split : words text with
    | nil => rfl
    | cons word rest =>
      have nonempty : word ≠ [] := ne_nil_of_mem_words (split ▸ List.mem_cons_self)
      rw [List.flatten_cons, List.head?_append_of_ne_nil _ nonempty]
      rfl
  have kept : ((text.filter fun c => !isDelimiter c).flatMap lower).head?.any isAsciiLower =
      (text.find? fun c => !isDelimiter c).any isAsciiLetter := by
    rw [← List.head?_filter]
    cases inside : text.filter fun c => !isDelimiter c with
    | nil => rfl
    | cons c rest =>
      obtain ⟨present, solid⟩ := List.mem_filter.mp (inside ▸ List.mem_cons_self :
        c ∈ text.filter fun c => !isDelimiter c)
      have ascii := (plain c present).resolve_right (by simpa using solid)
      rw [List.flatMap_cons, lower, if_pos (toNat_lt_of_isAsciiAlphanumeric ascii)]
      exact isAsciiLower_asciiLower_eq c
  rw [← first, ← kept]
  exact lowered

namespace IsRecasable
variable (recasable : IsRecasable text)
include recasable

theorem small : ∀ word ∈ words text, IsSmallWord word :=
  fun _ member => isSmallWord_of_mem_words recasable.plain member

theorem begins : (words text).head?.any beginsWithLetter = true := by
  rw [head?_words recasable.plain, recasable.letter]

theorem isSnake_toSnake : isSnake (toSnake text) = true := by
  rw [isSnake, toSnake, isDelimitedLower_joinWith rfl recasable.small, recasable.begins]

theorem isKebab_toKebab : isKebab (toKebab text) = true := by
  rw [isKebab, toKebab, isDelimitedLower_joinWith rfl recasable.small, recasable.begins]

theorem isPascal_toPascal_iff : isPascal (toPascal text) = true ↔ CapitalsApart (words text) := by
  rw [toPascal, isPascal_joinPascal_iff recasable.small]
  exact and_iff_right recasable.begins

theorem isCamel_toCamel_iff : isCamel (toCamel text) = true ↔ CapitalsApart (words text).tail := by
  rw [toCamel, isCamel_joinCamel_iff recasable.small]
  exact and_iff_right recasable.begins

end IsRecasable

end Casing

end NamingAudit
