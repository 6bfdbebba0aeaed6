import NamingAudit.Proofs.Spelling

/-! Camel case and Pascal case as fixed points. A text in either splits in front of its capitals and
nowhere else, and so it comes back from its words unchanged. A question mark at the end, which is no part
of a parameter, stays where it is. -/

namespace NamingAudit.Casing
open NamingAudit.Text

variable {lead : Word → List Char} {c : Char} {ident rest : List Char}

theorem isCapitalizedWords_cons_cons {first second : Char} :
    isCapitalizedWords (first :: second :: rest) = true ↔ isAsciiAlphanumeric first = true ∧
      (isAsciiUpper first = true → isAsciiUpper second = false) ∧
      isCapitalizedWords (second :: rest) = true := by
  simp only [isCapitalizedWords, anyAdjacent, List.all_cons, Bool.and_eq_true, Bool.not_eq_true',
    Bool.or_eq_false_iff, Bool.and_eq_false_imp]
  constructor
  · rintro ⟨⟨leading, others⟩, apart, adjacent⟩
    exact ⟨leading, apart, others, adjacent⟩
  · rintro ⟨leading, apart, others, adjacent⟩
    exact ⟨⟨leading, others⟩, apart, adjacent⟩

theorem startsWord_of_not_isAsciiUpper {previous : Char} (next : Option Char)
    (ascii : isAsciiAlphanumeric previous = true) (uncapital : isAsciiUpper previous = false) :
    startsWord (some previous) next = true := by
  have small : isLower previous = isAsciiLower previous := by
    rw [isLower, if_pos (toNat_lt_of_isAsciiAlphanumeric ascii)]
  simp only [isAsciiAlphanumeric, uncapital, Bool.false_or] at ascii
  simp [startsWord, small, ascii]

def respelled (lead : Word → List Char) (c : Char) : List Char :=
  if isAsciiUpper c then lead [asciiLower c] else [c]

theorem flatMap_respelled_capitalize (text : List Char) : text.flatMap (respelled capitalize) = text := by
  have single (c : Char) : respelled capitalize c = [c] := by
    rw [respelled]
    split
    · next capital => rw [capitalize, upper_asciiLower capital, List.append_nil]
    · rfl
  rw [funext single, List.flatMap_singleton']

theorem spellFrom_append_of_isCapitalizedWords
    (capitalized : isCapitalizedWords (c :: ident) = true) (rest : List Char) :
    spellFrom lead .inside (some c) (ident ++ rest) =
      ident.flatMap (respelled lead) ++ spellFrom lead .inside (c :: ident).getLast? rest := by
  induction ident generalizing c with
  | nil => rfl
  | cons d ident ih =>
    obtain ⟨previousAscii, apart, capitalizedRest⟩ := isCapitalizedWords_cons_cons.mp capitalized
    have ascii : isAsciiAlphanumeric d = true := by
      simp only [isCapitalizedWords, List.all_cons, Bool.and_eq_true] at capitalizedRest
      exact capitalizedRest.1.1
    have first : written lead .inside (isUpper d && startsWord (some c) (ident ++ rest).head?) (lower d) =
        respelled lead d := by
      rw [isUpper_eq_isAsciiUpper ascii, respelled]
      cases capital : isAsciiUpper d with
      | true =>
        have uncapital : isAsciiUpper c = false := Bool.eq_false_iff.mpr fun before => by
          rw [apart before] at capital
          contradiction
        rw [startsWord_of_not_isAsciiUpper _ previousAscii uncapital, lower,
          if_pos (toNat_lt_of_isAsciiAlphanumeric ascii)]
        rfl
      | false =>
        rw [lower_eq_self ascii capital, Bool.false_and]
        rfl
    rw [List.cons_append, spellFrom_cons (isDelimiter_of_isAsciiAlphanumeric ascii), first,
      ih capitalizedRest, List.flatMap_cons, List.append_assoc, List.getLast?_cons_cons]

/-- A text in camel case begins no word, so it is written in place where nothing has to. -/
theorem spellFrom_append_of_isCamel {position : Position}
    (continued : position = .opening ∨ position = .inside) (camel : isCamel ident = true)
    (previous : Option Char) (rest : List Char) :
    spellFrom lead position previous (ident ++ rest) =
      ident.flatMap (respelled lead) ++ spellFrom lead .inside ident.getLast? rest := by
  cases ident with
  | nil => contradiction
  | cons c ident =>
    simp only [isCamel, List.head?_cons, Option.any_some, Bool.and_eq_true] at camel
    obtain ⟨small, capitalized⟩ := camel
    have ascii : isAsciiAlphanumeric c = true := by simp [isAsciiAlphanumeric, small]
    have uncapital : isAsciiUpper c = false := Bool.eq_false_iff.mpr fun capital => by
      rw [isAsciiUpper_iff] at capital
      rw [isAsciiLower_iff] at small
      omega
    have first (starts : Bool) : written lead position (false && starts) (lower c) = respelled lead c := by
      rw [lower_eq_self ascii uncapital, respelled, uncapital]
      rcases continued with rfl | rfl <;> rfl
    rw [List.cons_append, spellFrom_cons (isDelimiter_of_isAsciiAlphanumeric ascii),
      isUpper_eq_isAsciiUpper ascii, uncapital, first, List.flatMap_cons, List.append_assoc,
      spellFrom_append_of_isCapitalizedWords capitalized]

theorem toCamel_of_isCamel (camel : isCamel ident = true) : toCamel ident = ident := by
  have spelled : spellFrom capitalize .opening none (ident ++ []) =
      ident.flatMap (respelled capitalize) ++ [] := spellFrom_append_of_isCamel (.inl rfl) camel none []
  rwa [List.append_nil, List.append_nil, ← toCamel_eq_spellFrom, flatMap_respelled_capitalize] at spelled

theorem toPascal_of_isPascal (pascal : isPascal ident = true) : toPascal ident = ident := by
  cases ident with
  | nil => contradiction
  | cons c ident =>
    simp only [isPascal, List.head?_cons, Option.any_some, Bool.and_eq_true] at pascal
    obtain ⟨capital, capitalized⟩ := pascal
    have ascii : isAsciiAlphanumeric c = true := by simp [isAsciiAlphanumeric, capital]
    have first (starts : Bool) : written capitalize .between starts (lower c) = [c] := by
      rw [lower, if_pos (toNat_lt_of_isAsciiAlphanumeric ascii), written, capitalize,
        upper_asciiLower capital, List.append_nil]
    have later : spellFrom capitalize .inside (some c) (ident ++ []) =
        ident.flatMap (respelled capitalize) ++ [] :=
      spellFrom_append_of_isCapitalizedWords capitalized []
    rw [List.append_nil, List.append_nil, flatMap_respelled_capitalize] at later
    rw [toPascal_eq_spellFrom, spellFrom_cons (isDelimiter_of_isAsciiAlphanumeric ascii), first, later,
      List.singleton_append]

theorem isMark_questionMark : IsMark '?' := ⟨rfl, rfl, rfl, rfl, rfl⟩

theorem toCamel_append_mark (ident : List Char) : toCamel (ident ++ ['?']) = toCamel ident ++ ['?'] :=
  isMark_questionMark.toCamel_append ident []

end NamingAudit.Casing
