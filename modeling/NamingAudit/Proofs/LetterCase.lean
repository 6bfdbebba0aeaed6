import NamingAudit.Text.Blank
import NamingAudit.Text.Letter

/-! The letter case of single characters. ASCII letters and digits map as ASCII has it. Neither mapping
leads to a character that is no ASCII letter and that no entry of the tables reaches, unless it starts
there. White space is such, and so are the marks that split identifiers and paths, so that a change of
case neither makes nor moves a boundary. -/

namespace NamingAudit.Text

theorem isAsciiUpper_iff {c : Char} : isAsciiUpper c = true ↔ 65 ≤ c.toNat ∧ c.toNat ≤ 90 := by
  simp only [isAsciiUpper, Bool.and_eq_true, decide_eq_true_eq]
  rfl

theorem isAsciiLower_iff {c : Char} : isAsciiLower c = true ↔ 97 ≤ c.toNat ∧ c.toNat ≤ 122 := by
  simp only [isAsciiLower, Bool.and_eq_true, decide_eq_true_eq]
  rfl

theorem toNat_ofNat {code : Nat} (valid : code.isValidChar) : (Char.ofNat code).toNat = code := by
  rw [Char.ofNat, dif_pos valid]
  rfl

theorem ofNat_eq_zero {code : Nat} (invalid : ¬ code.isValidChar) : Char.ofNat code = '\x00' := by
  rw [Char.ofNat, dif_neg invalid]
  rfl

theorem isAsciiLower_asciiLower {c : Char} (capital : isAsciiUpper c = true) :
    isAsciiLower (asciiLower c) = true := by
  rw [asciiLower, if_pos capital]
  rw [isAsciiUpper_iff] at capital
  rw [isAsciiLower_iff, toNat_ofNat (Or.inl (by omega))]
  omega

theorem isAsciiUpper_asciiUpper {c : Char} (small : isAsciiLower c = true) :
    isAsciiUpper (asciiUpper c) = true := by
  rw [asciiUpper, if_pos small]
  rw [isAsciiLower_iff] at small
  rw [isAsciiUpper_iff, toNat_ofNat (Or.inl (by omega))]
  omega

section Ascii
variable {c : Char}

theorem toNat_of_isAsciiAlphanumeric (ascii : isAsciiAlphanumeric c = true) :
    48 ≤ c.toNat ∧ c.toNat ≤ 57 ∨ 65 ≤ c.toNat ∧ c.toNat ≤ 90 ∨ 97 ≤ c.toNat ∧ c.toNat ≤ 122 := by
  simp only [isAsciiAlphanumeric, Bool.or_eq_true, isAsciiUpper_iff, isAsciiLower_iff] at ascii
  rcases ascii with (capital | small) | digit
  · exact Or.inr (Or.inl capital)
  · exact Or.inr (Or.inr small)
  · simp only [isAsciiDigit, Bool.and_eq_true, decide_eq_true_eq] at digit
    exact Or.inl digit

theorem toNat_lt_of_isAsciiAlphanumeric (ascii : isAsciiAlphanumeric c = true) : c.toNat < 0x80 := by
  have bounds := toNat_of_isAsciiAlphanumeric ascii
  omega

theorem isUpper_eq_isAsciiUpper (ascii : isAsciiAlphanumeric c = true) :
    isUpper c = isAsciiUpper c := by
  rw [isUpper, if_pos (toNat_lt_of_isAsciiAlphanumeric ascii)]

theorem lower_eq_self (ascii : isAsciiAlphanumeric c = true) (uncapital : isAsciiUpper c = false) :
    lower c = [c] := by
  simp [lower, toNat_lt_of_isAsciiAlphanumeric ascii, asciiLower, uncapital]

theorem upper_asciiLower (capital : isAsciiUpper c = true) : upper (asciiLower c) = [c] := by
  have small := isAsciiLower_asciiLower capital
  have bounds := isAsciiLower_iff.mp small
  rw [upper, if_pos (by omega), asciiUpper, if_pos small, asciiLower, if_pos capital]
  rw [isAsciiUpper_iff] at capital
  rw [toNat_ofNat (Or.inl (by omega)), Nat.add_sub_cancel, Char.ofNat_toNat]

end Ascii

def isUnreached (expansions : List (Nat × List Char)) (shifts : List ShiftedRun) (probe : Char) :
    Bool :=
  probe.toNat != 0 && expansions.all (fun entry => !entry.2.contains probe) &&
    shifts.all fun entry => !entry.run.contains ((probe.toNat : Int) - entry.shift).toNat

theorem eq_of_mem_mapByTables {expansions : List (Nat × List Char)} {shifts : List ShiftedRun}
    {probe c : Char} (unreached : isUnreached expansions shifts probe = true)
    (member : probe ∈ mapByTables expansions shifts c) : probe = c := by
  simp only [isUnreached, Bool.and_eq_true, bne_iff_ne, List.all_eq_true, Bool.not_eq_true',
    List.contains_eq_mem, decide_eq_false_iff_not] at unreached
  obtain ⟨⟨nonzero, unexpanded⟩, unshifted⟩ := unreached
  unfold mapByTables at member
  split at member
  case h_1 target expanded =>
    obtain ⟨before, behind, rfl, _⟩ := List.lookup_eq_some_iff.mp expanded
    exact absurd member (unexpanded (c.toNat, target) (by simp))
  case h_2 =>
    split at member
    case h_1 code shifted =>
      obtain ⟨entry, found, rfl⟩ := Option.map_eq_some_iff.mp shifted
      have reached : entry.run.contains c.toNat = true := by simpa using List.find?_some found
      have image : probe.toNat = ((c.toNat : Int) + entry.shift).toNat := by
        rw [List.mem_singleton.mp member] at nonzero ⊢
        by_cases valid : ((c.toNat : Int) + entry.shift).toNat.isValidChar
        · exact toNat_ofNat valid
        · rw [ofNat_eq_zero valid] at nonzero
          contradiction
      have origin : ((probe.toNat : Int) - entry.shift).toNat = c.toNat := by omega
      have missed := unshifted entry (List.mem_of_find?_eq_some found)
      rw [origin, reached] at missed
      contradiction
    case h_2 => exact List.mem_singleton.mp member

def isCaseless (probe : Char) : Bool :=
  !isAsciiUpper probe && !isAsciiLower probe &&
    isUnreached LetterTable.toLowerExpansions LetterTable.toLowerShifts probe &&
    isUnreached LetterTable.toUpperExpansions LetterTable.toUpperShifts probe

section Caseless
variable {probe c : Char} (caseless : isCaseless probe = true)
include caseless

theorem eq_of_mem_lower (member : probe ∈ lower c) : probe = c := by
  simp only [isCaseless, Bool.and_eq_true, Bool.not_eq_true'] at caseless
  obtain ⟨⟨⟨_, notSmall⟩, unreached⟩, _⟩ := caseless
  unfold lower at member
  split at member
  · have image := List.mem_singleton.mp member
    by_cases capital : isAsciiUpper c = true
    · rw [image, isAsciiLower_asciiLower capital] at notSmall
      contradiction
    · rw [image, asciiLower, if_neg capital]
  · exact eq_of_mem_mapByTables unreached member

theorem eq_of_mem_upper (member : probe ∈ upper c) : probe = c := by
  simp only [isCaseless, Bool.and_eq_true, Bool.not_eq_true'] at caseless
  obtain ⟨⟨⟨notCapital, _⟩, _⟩, unreached⟩ := caseless
  unfold upper at member
  split at member
  · have image := List.mem_singleton.mp member
    by_cases small : isAsciiLower c = true
    · rw [image, isAsciiUpper_asciiUpper small] at notCapital
      contradiction
    · rw [image, asciiUpper, if_neg small]
  · exact eq_of_mem_mapByTables unreached member

end Caseless

def blankCodes : List Nat :=
  [0x09, 0x0a, 0x0b, 0x0c, 0x0d, 0x20, 0x85, 0xa0, 0x1680, 0x2000, 0x2001, 0x2002, 0x2003, 0x2004,
   0x2005, 0x2006, 0x2007, 0x2008, 0x2009, 0x200a, 0x2028, 0x2029, 0x202f, 0x205f, 0x3000]

theorem toNat_mem_blankCodes {c : Char} (blank : isBlank c = true) : c.toNat ∈ blankCodes := by
  simp only [isBlank, Bool.or_eq_true, Bool.and_eq_true, decide_eq_true_eq, beq_iff_eq] at blank
  simp only [blankCodes, List.mem_cons, List.not_mem_nil, or_false]
  omega

theorem isCaseless_of_isBlank {c : Char} (blank : isBlank c = true) : isCaseless c = true := by
  have checked : ∀ code ∈ blankCodes, isCaseless (Char.ofNat code) = true := by decide +kernel
  rw [← Char.ofNat_toNat c]
  exact checked c.toNat (toNat_mem_blankCodes blank)

theorem lower_ne_nil (c : Char) : lower c ≠ [] := by
  have expanded : ∀ entry ∈ LetterTable.toLowerExpansions, entry.2 ≠ [] := by decide +kernel
  unfold lower mapByTables
  split
  · exact List.cons_ne_nil _ _
  · split
    case h_1 target found =>
      obtain ⟨before, behind, table, _⟩ := List.lookup_eq_some_iff.mp found
      exact expanded (c.toNat, target) (by simp [table])
    case h_2 => split <;> exact List.cons_ne_nil _ _

end NamingAudit.Text
