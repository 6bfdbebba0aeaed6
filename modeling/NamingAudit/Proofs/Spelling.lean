import NamingAudit.Proofs.Words

/-! The conversions as one pass over the text. Each character is written down in small letters, and the
casing style shows only in how a word that is not the first one begins. So texts can be put together around
a character that begins no word and has no other case: what is written on either side of it is its own. -/

namespace NamingAudit.Casing
open NamingAudit.Text

variable {lead : Word → List Char} {previous : Option Char} {current : Word} {c : Char}

inductive Position where
  | opening
  | between
  | inside

def Position.behindDelimiter : Position → Position
  | .opening => .opening
  | .between => .between
  | .inside => .between

def written (lead : Word → List Char) : Position → Bool → Word → List Char
  | .opening, _, text => text
  | .between, _, text => lead text
  | .inside, starts, text => if starts then lead text else text

def spellFrom (lead : Word → List Char) (position : Position) (previous : Option Char) :
    List Char → List Char
  | [] => []
  | c :: rest =>
    if isDelimiter c then spellFrom lead position.behindDelimiter (some c) rest
    else
      written lead position (isUpper c && startsWord previous rest.head?) (lower c)
        ++ spellFrom lead .inside (some c) rest

def joinLed (lead : Word → List Char) : List Word → List Char
  | [] => []
  | first :: rest => first ++ rest.flatMap lead

def IsLead (lead : Word → List Char) : Prop :=
  ∀ word more, word ≠ [] → lead (word ++ more) = lead word ++ more

theorem isLead_delimiter (delimiter : Char) : IsLead (delimiter :: ·) := fun _ _ _ => rfl

theorem isLead_capitalize : IsLead capitalize := by
  intro word more nonempty
  obtain ⟨c, rest, rfl⟩ := List.exists_cons_of_ne_nil nonempty
  rw [List.cons_append, capitalize, capitalize, List.append_assoc]

theorem joinWith_eq_joinLed (delimiter : Char) (parts : List Word) :
    joinWith delimiter parts = joinLed (delimiter :: ·) parts := by
  induction parts with
  | nil => rfl
  | cons first rest ih =>
    cases rest with
    | nil => simp [joinLed]
    | cons second rest => rw [joinWith_cons, ih, joinLed, joinLed, List.flatMap_cons, List.cons_append]

theorem joinCamel_eq_joinLed (parts : List Word) : joinCamel parts = joinLed capitalize parts := by
  cases parts <;> rfl

theorem wordsFrom_nil_cons (solid : isDelimiter c = false) (rest : List Char) :
    wordsFrom previous [] (c :: rest) = wordsFrom (some c) (lower c) rest := by
  rw [wordsFrom, if_neg (by simp [solid]), if_neg (by simp), List.nil_append]

theorem wordsFrom_cons (solid : isDelimiter c = false) (started : current ≠ []) (rest : List Char) :
    wordsFrom previous current (c :: rest) =
      if isUpper c && startsWord previous rest.head? then current :: wordsFrom (some c) (lower c) rest
      else wordsFrom (some c) (current ++ lower c) rest := by
  rw [wordsFrom, if_neg (by simp [solid]), List.isEmpty_eq_false_iff.mpr started, Bool.not_false,
    Bool.and_true]

theorem spellFrom_cons (solid : isDelimiter c = false) (position : Position) (rest : List Char) :
    spellFrom lead position previous (c :: rest) =
      written lead position (isUpper c && startsWord previous rest.head?) (lower c) ++
        spellFrom lead .inside (some c) rest := by
  rw [spellFrom, if_neg (by simp [solid])]

section Lead
variable (leads : IsLead lead)
include leads

theorem flatMap_wordsFrom (previous : Option Char) (current : Word) (text : List Char) :
    (wordsFrom previous current text).flatMap lead = (flush current).flatMap lead ++
      spellFrom lead (if current = [] then .between else .inside) previous text := by
  induction text generalizing previous current with
  | nil => simp [wordsFrom, spellFrom]
  | cons c rest ih =>
    have anew := ih (some c) (lower c)
    rw [if_neg (lower_ne_nil c)] at anew
    cases delimiter : isDelimiter c with
    | true =>
      have behind : (if current = [] then Position.between else .inside).behindDelimiter = .between := by
        split <;> rfl
      rw [wordsFrom, spellFrom, if_pos delimiter, if_pos delimiter, List.flatMap_append, ih, behind]
      rfl
    | false =>
      rw [spellFrom_cons delimiter]
      by_cases empty : current = []
      · subst empty
        rw [wordsFrom_nil_cons delimiter, anew]
        simp [flush, lower_ne_nil, written]
      · rw [wordsFrom_cons delimiter empty, if_neg empty]
        split
        · next starts =>
          rw [starts, List.flatMap_cons, anew]
          simp [flush, lower_ne_nil, empty, written]
        · next goesOn =>
          rw [Bool.eq_false_iff.mpr goesOn, ih]
          simp [flush, empty, written, leads current (lower c) empty]

theorem joinLed_wordsFrom (previous : Option Char) (current : Word) (text : List Char) :
    joinLed lead (wordsFrom previous current text) =
      current ++ spellFrom lead (if current = [] then .opening else .inside) previous text := by
  induction text generalizing previous current with
  | nil => cases current <;> simp [wordsFrom, spellFrom, flush, joinLed]
  | cons c rest ih =>
    cases delimiter : isDelimiter c with
    | true =>
      rw [wordsFrom, spellFrom, if_pos delimiter, if_pos delimiter]
      cases current with
      | nil => exact ih (some c) []
      | cons first more =>
        have later := flatMap_wordsFrom leads (some c) [] rest
        simpa [flush, joinLed, Position.behindDelimiter] using later
    | false =>
      rw [spellFrom_cons delimiter]
      by_cases empty : current = []
      · subst empty
        rw [wordsFrom_nil_cons delimiter, ih]
        simp [lower_ne_nil, written]
      · rw [wordsFrom_cons delimiter empty, if_neg empty]
        split
        · next starts =>
          rw [starts, joinLed, flatMap_wordsFrom leads]
          simp [flush, lower_ne_nil, written]
        · next goesOn =>
          rw [Bool.eq_false_iff.mpr goesOn, ih]
          simp [empty, written]

end Lead

theorem toKebab_eq_spellFrom (text : List Char) :
    toKebab text = spellFrom ('-' :: ·) .opening none text := by
  rw [toKebab, joinWith_eq_joinLed, words, joinLed_wordsFrom (isLead_delimiter '-')]
  rfl

theorem toCamel_eq_spellFrom (text : List Char) :
    toCamel text = spellFrom capitalize .opening none text := by
  rw [toCamel, joinCamel_eq_joinLed, words, joinLed_wordsFrom isLead_capitalize]
  rfl

theorem toPascal_eq_spellFrom (text : List Char) :
    toPascal text = spellFrom capitalize .between none text := by
  rw [toPascal, joinPascal, words, flatMap_wordsFrom isLead_capitalize]
  rfl

structure IsMark (c : Char) : Prop where
  solid : isDelimiter c = false
  noCapital : isUpper c = false
  noSmallLetter : isLower c = false
  lowered : lower c = [c]
  raised : upper c = [c]

namespace IsMark
variable (mark : IsMark c)
include mark

theorem spellFrom_inside_cons (previous : Option Char) (rest : List Char) :
    spellFrom lead .inside previous (c :: rest) = c :: spellFrom lead .inside (some c) rest := by
  rw [spellFrom_cons mark.solid, mark.noCapital, mark.lowered]
  rfl

theorem spellFrom_append {led : List Char} (leadMark : lead [c] = led ++ [c]) (position : Position)
    (previous : Option Char) (text : List Char) : ∃ seam, (seam = [] ∨ seam = led) ∧ ∀ rest,
      spellFrom lead position previous (text ++ c :: rest) =
        spellFrom lead position previous text ++ seam ++ c :: spellFrom lead .inside (some c) rest := by
  induction text generalizing position previous with
  | nil =>
    have begun (rest : List Char) : spellFrom lead position previous (c :: rest) =
        written lead position false [c] ++ spellFrom lead .inside (some c) rest := by
      rw [spellFrom_cons mark.solid, mark.noCapital, mark.lowered, Bool.false_and]
    cases position with
    | opening => exact ⟨[], .inl rfl, begun⟩
    | inside => exact ⟨[], .inl rfl, begun⟩
    | between =>
      refine ⟨led, .inr rfl, fun rest => ?_⟩
      rw [List.nil_append, begun, written, leadMark]
      simp [spellFrom]
  | cons d text ih =>
    cases delimiter : isDelimiter d with
    | true =>
      obtain ⟨seam, kinds, same⟩ := ih position.behindDelimiter (some d)
      refine ⟨seam, kinds, fun rest => ?_⟩
      rw [List.cons_append, spellFrom, spellFrom, if_pos delimiter, if_pos delimiter, same]
    | false =>
      obtain ⟨seam, kinds, same⟩ := ih .inside (some d)
      have sameStart (rest : List Char) : startsWord previous (text ++ c :: rest).head? =
          startsWord previous text.head? := by
        cases text with
        | cons next text => rfl
        | nil => simp [startsWord, mark.noSmallLetter]
      refine ⟨seam, kinds, fun rest => ?_⟩
      rw [List.cons_append, spellFrom_cons delimiter, spellFrom_cons delimiter, sameStart, same]
      simp

theorem toKebab_append (text : List Char) : ∃ seam, (seam = [] ∨ seam = ['-']) ∧ ∀ rest,
    toKebab (text ++ c :: rest) =
      toKebab text ++ seam ++ c :: spellFrom ('-' :: ·) .inside (some c) rest := by
  simp only [toKebab_eq_spellFrom]
  exact mark.spellFrom_append rfl .opening none text

theorem toCamel_append (text rest : List Char) :
    toCamel (text ++ c :: rest) = toCamel text ++ c :: spellFrom capitalize .inside (some c) rest := by
  have leadMark : capitalize [c] = [] ++ [c] := by simp [capitalize, mark.raised]
  obtain ⟨seam, kinds, same⟩ := mark.spellFrom_append leadMark .opening none text
  have none : seam = [] := kinds.elim id id
  rw [toCamel_eq_spellFrom, toCamel_eq_spellFrom, same, none, List.append_nil]

end IsMark

end NamingAudit.Casing
