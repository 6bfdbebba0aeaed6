import Mathlib.Data.List.Basic
import NamingAudit.Proofs.Words

/-! Words of small letters and digits, which is what the words of an identifier in ASCII are. Joined by a
delimiter they are the words of what they make, and a capital in front of each can be taken back. -/

namespace NamingAudit

namespace Text

variable {c : Char}

def isSmall (c : Char) : Bool := isAsciiLower c || isAsciiDigit c

theorem isAsciiAlphanumeric_of_isSmall (small : isSmall c = true) :
    isAsciiAlphanumeric c = true := by
  rw [isSmall] at small
  rw [isAsciiAlphanumeric, Bool.or_assoc, small, Bool.or_true]

theorem isAsciiUpper_of_isSmall (small : isSmall c = true) : isAsciiUpper c = false := by
  have code : 97 ≤ c.toNat ∧ c.toNat ≤ 122 ∨ 48 ≤ c.toNat ∧ c.toNat ≤ 57 := by
    simp only [isSmall, Bool.or_eq_true, isAsciiLower_iff, isAsciiDigit, Bool.and_eq_true,
      decide_eq_true_eq] at small
    exact small
  rw [Bool.eq_false_iff, ne_eq, isAsciiUpper_iff]
  omega

theorem isSmall_asciiLower (ascii : isAsciiAlphanumeric c = true) :
    isSmall (asciiLower c) = true := by
  cases capital : isAsciiUpper c with
  | true => simp [isSmall, isAsciiLower_asciiLower capital]
  | false =>
    rw [isAsciiAlphanumeric, capital, Bool.false_or] at ascii
    rwa [asciiLower, capital, if_neg Bool.false_ne_true]

theorem upper_of_isSmall (small : isSmall c = true) :
    upper c = [asciiUpper c] := by
  have below := toNat_lt_of_isAsciiAlphanumeric (isAsciiAlphanumeric_of_isSmall small)
  rw [upper, if_pos below]

theorem asciiLower_of_isSmall (small : isSmall c = true) : asciiLower c = c := by
  rw [asciiLower, isAsciiUpper_of_isSmall small, if_neg Bool.false_ne_true]

theorem asciiLower_asciiUpper (small : isSmall c = true) : asciiLower (asciiUpper c) = c := by
  rw [asciiUpper]
  split
  · next letter =>
    have capital := isAsciiUpper_asciiUpper letter
    rw [asciiUpper, if_pos letter] at capital
    rw [asciiLower, if_pos capital]
    rw [isAsciiLower_iff] at letter
    rw [toNat_ofNat (Or.inl (by omega)), Nat.sub_add_cancel (by omega), Char.ofNat_toNat]
  · exact asciiLower_of_isSmall small

end Text

namespace Casing
open NamingAudit.Text

variable {ident : List Char} {word current : Word} {parts : List Word} {delimiter : Char}

def IsSmallWord (word : Word) : Prop := word ≠ [] ∧ ∀ c ∈ word, isSmall c = true

def IsPlainText (ident : List Char) : Prop :=
  ∀ c ∈ ident, isAsciiAlphanumeric c = true ∨ isDelimiter c = true

theorem isPlainText_iff : IsPlainText ident ↔
    (ident.all fun c => isAsciiAlphanumeric c || isDelimiter c) = true := by
  simp [IsPlainText]

instance (ident : List Char) : Decidable (IsPlainText ident) := decidable_of_iff _ isPlainText_iff.symm

theorem isSmallWord_of_mem_words (plain : IsPlainText ident) (member : word ∈ words ident) :
    IsSmallWord word := by
  refine ⟨ne_nil_of_mem_words member, fun c inside => ?_⟩
  obtain ⟨origin, present, kept, reached⟩ := origin_of_mem_word member inside
  have ascii : isAsciiAlphanumeric origin = true := (plain origin present).resolve_right fun same => by
    rw [kept] at same
    contradiction
  rw [lower, if_pos (toNat_lt_of_isAsciiAlphanumeric ascii), List.mem_singleton] at reached
  exact reached ▸ isSmall_asciiLower ascii

/-- A character that is no boundary and stays as it is in small letters. -/
structure IsSettled (c : Char) : Prop where
  solid : isDelimiter c = false
  uncapital : isUpper c = false
  lowered : lower c = [c]

theorem isSettled_of_isSmall {c : Char} (small : isSmall c = true) : IsSettled c := by
  have ascii := isAsciiAlphanumeric_of_isSmall small
  have uncapital := isAsciiUpper_of_isSmall small
  exact ⟨isDelimiter_of_isAsciiAlphanumeric ascii, (isUpper_eq_isAsciiUpper ascii).trans uncapital,
    lower_eq_self ascii uncapital⟩

theorem wordsFrom_append_settled (previous : Option Char) (current : Word)
    (settled : ∀ c ∈ word, IsSettled c) (rest : List Char) :
    wordsFrom previous current (word ++ rest) =
      wordsFrom (word.getLast?.or previous) (current ++ word) rest := by
  induction word generalizing previous current with
  | nil => simp
  | cons c word ih =>
    obtain ⟨first, later⟩ := List.forall_mem_cons.mp settled
    have last : (c :: word).getLast?.or previous = word.getLast?.or (some c) := by
      rw [List.getLast?_cons]
      cases word.getLast? <;> rfl
    rw [List.cons_append, wordsFrom, if_neg (by simp [first.solid]), if_neg (by simp [first.uncapital]),
      first.lowered, ih (some c) (current ++ [c]) later, last]
    simp

theorem wordsFrom_append_small (previous : Option Char) (current : Word)
    (small : ∀ c ∈ word, isSmall c = true) (rest : List Char) :
    wordsFrom previous current (word ++ rest) =
      wordsFrom (word.getLast?.or previous) (current ++ word) rest :=
  wordsFrom_append_settled previous current (fun c inside => isSettled_of_isSmall (small c inside)) rest

theorem wordsFrom_joinWith (boundary : isDelimiter delimiter = true)
    (filled : ∀ word ∈ parts, word ≠ []) (settled : ∀ word ∈ parts, ∀ c ∈ word, IsSettled c)
    (previous : Option Char) : wordsFrom previous [] (joinWith delimiter parts) = parts := by
  induction parts generalizing previous with
  | nil => rfl
  | cons first rest ih =>
    rw [List.forall_mem_cons] at filled settled
    have flushed : flush first = [first] := by simp [flush, filled.1]
    cases rest with
    | nil =>
      rw [joinWith_singleton, ← List.append_nil first,
        wordsFrom_append_settled previous [] settled.1, wordsFrom]
      simpa using flushed
    | cons second rest =>
      rw [joinWith_cons, wordsFrom_append_settled previous [] settled.1, wordsFrom, if_pos boundary,
        List.nil_append, flushed, ih filled.2 settled.2]
      rfl

/-- Small words are found again between delimiters. -/
theorem words_joinWith (boundary : isDelimiter delimiter = true)
    (small : ∀ word ∈ parts, IsSmallWord word) : words (joinWith delimiter parts) = parts :=
  wordsFrom_joinWith boundary (fun word member => (small word member).1)
    (fun word member c inside => isSettled_of_isSmall ((small word member).2 c inside)) none

theorem joinWith_eq_iff {other : List Word} (boundary : isDelimiter delimiter = true)
    (small : ∀ word ∈ parts, IsSmallWord word) (smallToo : ∀ word ∈ other, IsSmallWord word) :
    joinWith delimiter parts = joinWith delimiter other ↔ parts = other := by
  constructor
  · intro same
    rw [← words_joinWith boundary small, same, words_joinWith boundary smallToo]
  · rintro rfl
    rfl

theorem map_asciiLower_capitalize (small : IsSmallWord word) :
    (capitalize word).map asciiLower = word := by
  obtain ⟨nonempty, letters⟩ := small
  cases word with
  | nil => contradiction
  | cons first rest =>
    have smallFirst := letters first List.mem_cons_self
    have smallRest : rest.map asciiLower = rest.map id := List.map_congr_left fun c inside =>
      asciiLower_of_isSmall (letters c (List.mem_cons_of_mem first inside))
    rw [capitalize, upper_of_isSmall smallFirst, List.singleton_append, List.map_cons,
      asciiLower_asciiUpper smallFirst, smallRest, List.map_id]

theorem map_asciiLower_joinPascal (small : ∀ word ∈ parts, IsSmallWord word) :
    (joinPascal parts).map asciiLower = parts.flatten := by
  induction parts with
  | nil => rfl
  | cons first rest ih =>
    rw [joinPascal, List.flatMap_cons, List.map_append,
      map_asciiLower_capitalize (small first List.mem_cons_self), List.flatten_cons]
    exact congrArg (first ++ ·) (ih fun word member => small word (List.mem_cons_of_mem first member))

theorem map_asciiLower_eq_flatten (ascii : ∀ c ∈ ident, isAsciiAlphanumeric c = true) :
    ident.map asciiLower = (words ident).flatten := by
  have kept : ident.filter (fun c => !isDelimiter c) = ident := List.filter_eq_self.mpr
    fun c inside => by simp [isDelimiter_of_isAsciiAlphanumeric (ascii c inside)]
  have lowered : ident.flatMap lower = ident.flatMap fun c => [asciiLower c] :=
    List.flatMap_congr fun c inside => by
      rw [lower, if_pos (toNat_lt_of_isAsciiAlphanumeric (ascii c inside))]
  rw [flatten_words, kept, lowered, List.map_eq_flatMap]

theorem capitalize_inj {other : Word} (small : IsSmallWord word) (smallToo : IsSmallWord other) :
    capitalize word = capitalize other ↔ word = other := by
  constructor
  · intro same
    rw [← map_asciiLower_capitalize small, same, map_asciiLower_capitalize smallToo]
  · rintro rfl
    rfl

theorem joinPascal_concat (front : List Word) (last : Word) :
    joinPascal (front ++ [last]) = joinPascal front ++ capitalize last := by
  simp [joinPascal]

end Casing

end NamingAudit
