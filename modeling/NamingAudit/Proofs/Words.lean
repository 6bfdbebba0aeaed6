import NamingAudit.Casing
import NamingAudit.Proofs.LetterCase
import NamingAudit.Proofs.Pieces

/-! The words of an identifier. Put together they are the text without its delimiters, in small
letters, so a word holds no delimiter, and a character outside the letter case stands in a casing
style only if it stood in the text or joins the words. -/

namespace NamingAudit.Casing
open NamingAudit.Text

variable {ident : List Char} {word : Word} {c probe : Char}

theorem isCaseless_of_isDelimiter (delimiter : isDelimiter c = true) : isCaseless c = true := by
  simp only [isDelimiter, Bool.or_eq_true, beq_iff_eq] at delimiter
  rcases delimiter with ((rfl | rfl) | rfl) | blank
  · decide +kernel
  · decide +kernel
  · decide +kernel
  · exact isCaseless_of_isBlank blank

theorem isDelimiter_of_isAsciiAlphanumeric (ascii : isAsciiAlphanumeric c = true) :
    isDelimiter c = false := by
  have bounds := toNat_of_isAsciiAlphanumeric ascii
  cases delimiter : isDelimiter c with
  | false => rfl
  | true =>
    simp only [isDelimiter, Bool.or_eq_true, beq_iff_eq] at delimiter
    rcases delimiter with ((rfl | rfl) | rfl) | blank
    · revert bounds; decide
    · revert bounds; decide
    · revert bounds; decide
    · have code := toNat_mem_blankCodes blank
      simp only [blankCodes, List.mem_cons, List.not_mem_nil, or_false] at code
      omega

theorem flatten_flush (current : Word) : (flush current).flatten = current := by
  cases current <;> simp [flush]

theorem flatten_wordsFrom (previous : Option Char) (current : Word) (rest : List Char) :
    (wordsFrom previous current rest).flatten =
      current ++ (rest.filter fun c => !isDelimiter c).flatMap lower := by
  induction rest generalizing previous current with
  | nil => simp [wordsFrom, flatten_flush]
  | cons c rest ih =>
    rw [wordsFrom]
    split
    case isTrue delimiter => simp [ih, flatten_flush, delimiter]
    case isFalse inside =>
      split
      case isTrue => simp [ih, inside]
      case isFalse => simp [ih, inside]

theorem flatten_words (ident : List Char) :
    (words ident).flatten = (ident.filter fun c => !isDelimiter c).flatMap lower :=
  flatten_wordsFrom none [] ident

theorem ne_nil_of_mem_wordsFrom {previous : Option Char} {current : Word} {rest : List Char}
    (member : word ∈ wordsFrom previous current rest) : word ≠ [] := by
  have flushed {current : Word} (member : word ∈ flush current) : word ≠ [] := by
    cases current <;> simp_all [flush]
  induction rest generalizing previous current with
  | nil => exact flushed member
  | cons c rest ih =>
    rw [wordsFrom] at member
    split at member
    case isTrue => exact (List.mem_append.mp member).elim flushed ih
    case isFalse =>
      split at member
      case isTrue boundary =>
        rcases List.mem_cons.mp member with rfl | later
        · simp only [Bool.and_eq_true, Bool.not_eq_true'] at boundary
          exact List.isEmpty_eq_false_iff.mp boundary.1.2
        · exact ih later
      case isFalse => exact ih member

theorem ne_nil_of_mem_words (member : word ∈ words ident) : word ≠ [] :=
  ne_nil_of_mem_wordsFrom member

theorem origin_of_mem_word (member : word ∈ words ident) (inside : c ∈ word) :
    ∃ origin ∈ ident, isDelimiter origin = false ∧ c ∈ lower origin := by
  have image : c ∈ (ident.filter fun c => !isDelimiter c).flatMap lower := by
    rw [← flatten_words]
    exact List.mem_flatten_of_mem member inside
  obtain ⟨origin, kept, reached⟩ := List.mem_flatMap.mp image
  rw [List.mem_filter, Bool.not_eq_true'] at kept
  exact ⟨origin, kept.1, kept.2, reached⟩

theorem mem_of_caseless_mem_word (caseless : isCaseless probe = true)
    (member : word ∈ words ident) (inside : probe ∈ word) : probe ∈ ident := by
  obtain ⟨origin, present, _, reached⟩ := origin_of_mem_word member inside
  rwa [eq_of_mem_lower caseless reached]

theorem isDelimiter_of_mem_word (member : word ∈ words ident) (inside : c ∈ word) :
    isDelimiter c = false := by
  cases delimiter : isDelimiter c with
  | false => rfl
  | true =>
    obtain ⟨origin, _, kept, reached⟩ := origin_of_mem_word member inside
    rw [← eq_of_mem_lower (isCaseless_of_isDelimiter delimiter) reached, delimiter] at kept
    contradiction

theorem words_eq_nil_iff : words ident = [] ↔ ident.all isDelimiter = true := by
  constructor
  · intro none
    have lost := flatten_words ident
    rw [none, List.flatten_nil, eq_comm, List.flatMap_eq_nil_iff] at lost
    rw [List.all_eq_true]
    intro c present
    cases kept : isDelimiter c with
    | true => rfl
    | false => exact absurd (lost c (by simp [present, kept])) (lower_ne_nil c)
  · intro delimiters
    have kept : ident.filter (fun c => !isDelimiter c) = [] := by simpa using delimiters
    have lost := flatten_words ident
    rw [kept, List.flatMap_nil, List.flatten_eq_nil_iff] at lost
    rw [List.eq_nil_iff_forall_not_mem]
    exact fun word member => ne_nil_of_mem_words member (lost word member)

theorem toKebab_eq_nil_iff : toKebab ident = [] ↔ ident.all isDelimiter = true := by
  rw [← words_eq_nil_iff, toKebab]
  cases split : words ident with
  | nil => exact iff_of_true rfl rfl
  | cons first rest =>
    have nonempty : first ≠ [] := ne_nil_of_mem_words (split ▸ List.mem_cons_self)
    cases rest <;> simp [joinWith_cons, nonempty]

theorem mem_of_mem_capitalize (caseless : isCaseless probe = true)
    (member : probe ∈ capitalize word) : probe ∈ word := by
  cases word with
  | nil => exact member
  | cons first rest =>
    rcases List.mem_append.mp member with raised | later
    · rw [eq_of_mem_upper caseless raised]
      exact List.mem_cons_self
    · exact List.mem_cons_of_mem _ later

theorem mem_of_mem_toKebab (caseless : isCaseless probe = true) (other : probe ≠ '-')
    (member : probe ∈ toKebab ident) : probe ∈ ident := by
  obtain ⟨word, present, inside⟩ := (mem_joinWith member).resolve_left other
  exact mem_of_caseless_mem_word caseless present inside

theorem mem_of_mem_toCamel (caseless : isCaseless probe = true)
    (member : probe ∈ toCamel ident) : probe ∈ ident := by
  have found : ∃ word ∈ words ident, probe ∈ word := by
    rw [toCamel] at member
    cases split : words ident with
    | nil =>
      rw [split] at member
      exact absurd member List.not_mem_nil
    | cons first rest =>
      rw [split, joinCamel, joinPascal, List.mem_append, List.mem_flatMap] at member
      rcases member with inside | ⟨word, present, inside⟩
      · exact ⟨first, by simp, inside⟩
      · exact ⟨word, by simp [present], mem_of_mem_capitalize caseless inside⟩
  obtain ⟨word, present, inside⟩ := found
  exact mem_of_caseless_mem_word caseless present inside

end NamingAudit.Casing
