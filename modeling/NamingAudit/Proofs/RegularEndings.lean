import NamingAudit.Inflection
import NamingAudit.Proofs.Pieces

/-! The regular plural and the regular singular of a noun, as equations over what the noun ends in.
A singular that is taken again stays as it is. -/

namespace NamingAudit.Inflection
open NamingAudit.Casing NamingAudit.Text

variable {word noun stem : Word}

theorem exists_last_of_isSibilant (sibilant : isSibilant word = true) :
    ∃ front last, word = front ++ [last] ∧ (last = 's' ∨ last = 'x' ∨ last = 'z' ∨ last = 'h') := by
  simp only [isSibilant, Bool.or_eq_true, endsWith_iff] at sibilant
  rcases sibilant with (((⟨front, rfl⟩ | ⟨front, rfl⟩) | ⟨front, rfl⟩) | ⟨front, rfl⟩) | ⟨front, rfl⟩
  · exact ⟨front, 's', rfl, by simp⟩
  · exact ⟨front, 'x', rfl, by simp⟩
  · exact ⟨front, 'z', rfl, by simp⟩
  · exact ⟨front ++ ['c'], 'h', by simp, by simp⟩
  · exact ⟨front ++ ['s'], 'h', by simp, by simp⟩

theorem singularInS_endings : ∀ word ∈ singularInS, endsWith ['s'] word = true ∧
    regularSingular word = word ∧ (beforeEnding? ['s'] word).all (fun stem =>
      !(isSibilant stem || endsWith ['e'] stem || endsWith ['y'] stem)) = true := by
  decide +kernel

theorem isSibilant_of_takesEs (takes : takesEs word = true) : isSibilant word = true := by
  simp only [takesEs, Bool.or_eq_true, List.contains_iff_mem] at takes
  simp only [isSibilant, Bool.or_eq_true]
  rcases takes with (((((inTable | doubled) | us) | x) | z) | ch) | sh
  · simp [(singularInS_endings word inTable).1]
  · simp [endsWith_of_append ['s'] doubled]
  · simp [endsWith_of_append ['u'] us]
  · simp [x]
  · simp [z]
  · simp [ch]
  · simp [sh]

theorem takesEs_eq_false {front : Word} {last : Char}
    (other : last ≠ 's' ∧ last ≠ 'x' ∧ last ≠ 'z' ∧ last ≠ 'h') :
    takesEs (front ++ [last]) = false := by
  cases takes : takesEs (front ++ [last]) with
  | false => rfl
  | true =>
    obtain ⟨_, letter, same, kind⟩ := exists_last_of_isSibilant (isSibilant_of_takesEs takes)
    obtain ⟨_, same⟩ := List.append_inj' same rfl
    simp_all

theorem contains_singularInS_eq_false
    (other : (isSibilant stem || endsWith ['e'] stem || endsWith ['y'] stem) = true) :
    singularInS.contains (stem ++ ['s']) = false := by
  rw [List.contains_eq_mem, decide_eq_false_iff_not]
  intro inTable
  have kept := (singularInS_endings _ inTable).2.2
  rw [beforeEnding?_append, Option.all_some, other] at kept
  contradiction

theorem regularPlural_cases (noun : Word) :
    (∃ stem, noun = stem ++ ['y'] ∧ stem.getLast?.any isVowel = false ∧
      regularPlural noun = stem ++ ['i', 'e', 's']) ∨
    (isSibilant noun = true ∧ regularPlural noun = noun ++ ['e', 's']) ∨
    (isSibilant noun = false ∧ (∀ stem, noun = stem ++ ['y'] → stem.getLast?.any isVowel = true) ∧
      regularPlural noun = noun ++ ['s']) := by
  cases found : beforeEnding? ['y'] noun with
  | some stem =>
    obtain rfl := beforeEnding?_eq_some_iff.mp found
    cases vowel : stem.getLast?.any isVowel with
    | false => exact Or.inl ⟨stem, rfl, vowel, by simp [regularPlural, vowel]⟩
    | true =>
      refine Or.inr (Or.inr ⟨by simp [isSibilant], fun other same => ?_, ?_⟩)
      · rwa [← List.append_cancel_right same]
      · simp [regularPlural, vowel]
  | none =>
    cases sibilant : isSibilant noun with
    | true => exact Or.inr (Or.inl ⟨rfl, by simp [regularPlural, found, sibilant]⟩)
    | false =>
      refine Or.inr (Or.inr ⟨rfl, fun stem same => ?_, by simp [regularPlural, found, sibilant]⟩)
      rw [same, beforeEnding?_append] at found
      contradiction

theorem regularPlural_ne_nil (noun : Word) : regularPlural noun ≠ [] := by
  rcases regularPlural_cases noun with ⟨stem, rfl, _, regular⟩ | ⟨_, regular⟩ | ⟨_, _, regular⟩ <;>
    simp [regular]

theorem regularPlural_ne_self (noun : Word) : regularPlural noun ≠ noun := by
  intro same
  have lengths := congrArg List.length same
  rcases regularPlural_cases noun with ⟨stem, rfl, _, regular⟩ | ⟨_, regular⟩ | ⟨_, _, regular⟩ <;>
    simp [regular] at lengths

theorem regularPlural_of_isSibilant (sibilant : isSibilant noun = true) :
    regularPlural noun = noun ++ ['e', 's'] := by
  obtain ⟨front, last, rfl, letter⟩ := exists_last_of_isSibilant sibilant
  have notY : beforeEnding? ['y'] (front ++ [last]) = none := by
    rw [beforeEnding?_eq_none_iff, endsWith_last]
    rcases letter with rfl | rfl | rfl | rfl <;> decide
  simp [regularPlural, notY, sibilant]

theorem regularPlural_e (stem : Word) : regularPlural (stem ++ ['e']) = stem ++ ['e', 's'] := by
  have notY : beforeEnding? ['y'] (stem ++ ['e']) = none := beforeEnding?_eq_none_iff.mpr (by simp)
  simp [regularPlural, notY, isSibilant]

theorem regularPlural_y (stem : Word) : regularPlural (stem ++ ['y']) =
    if stem.getLast?.any isVowel then stem ++ ['y', 's'] else stem ++ ['i', 'e', 's'] := by
  simp [regularPlural]

theorem dropFinalS_of_not (hard : endsWith ['s'] word = false) : dropFinalS word = word := by
  have none : beforeEnding? ['s'] word = none := beforeEnding?_eq_none_iff.mpr hard
  rw [dropFinalS, none]
  split <;> rfl

theorem dropFinalS_concat (nonempty : stem ≠ []) :
    dropFinalS (stem ++ ['s']) =
      if endsWith ['s'] stem || endsWith ['u'] stem || endsWith ['i'] stem then stem ++ ['s']
      else stem := by
  simp [dropFinalS, isSingularEnding, nonempty]

theorem dropFinalS_cases (word : Word) :
    dropFinalS word = word ∨
      (word = dropFinalS word ++ ['s'] ∧ endsWith ['s'] (dropFinalS word) = false) := by
  cases hard : endsWith ['s'] word with
  | false => exact Or.inl (dropFinalS_of_not hard)
  | true =>
    obtain ⟨stem, rfl⟩ := endsWith_iff.mp hard
    by_cases empty : stem = []
    · subst empty
      exact Or.inl rfl
    rw [dropFinalS_concat empty]
    split
    · exact Or.inl rfl
    · next other => simp_all

theorem regularSingular_ies (nonempty : stem ≠ []) :
    regularSingular (stem ++ ['i', 'e', 's']) = stem ++ ['y'] := by
  have kept : (some stem).filter (fun stem => !stem.isEmpty) = some stem :=
    Option.filter_some_pos (by simpa using nonempty)
  rw [regularSingular, beforeEnding?_append, kept]

theorem regularSingular_es (other : endsWith ['i'] stem = false) :
    regularSingular (stem ++ ['e', 's']) = if takesEs stem then stem else stem ++ ['e'] := by
  have parted : stem ++ ['e', 's'] = (stem ++ ['e']) ++ ['s'] := by simp
  have notIes : beforeEnding? ['i', 'e', 's'] (stem ++ ['e', 's']) = none := by
    rw [beforeEnding?_eq_none_iff, parted, endsWith_lastThree]
    simpa using other
  have notListed : singularInS.contains (stem ++ ['e', 's']) = false := by
    rw [parted]
    exact contains_singularInS_eq_false (by simp)
  have dropped : dropFinalS (stem ++ ['e', 's']) = stem ++ ['e'] := by
    rw [parted, dropFinalS_concat (by simp)]
    simp
  rw [regularSingular, notIes, Option.filter_none, notListed, singularOfEs, beforeEnding?_append,
    dropped]
  rfl

theorem regularSingular_s (nonempty : noun ≠ []) (other : endsWith ['e'] noun = false) :
    regularSingular (noun ++ ['s']) =
      if singularInS.contains (noun ++ ['s']) || endsWith ['s'] noun || endsWith ['u'] noun ||
        endsWith ['i'] noun then noun ++ ['s'] else noun := by
  have notIes : beforeEnding? ['i', 'e', 's'] (noun ++ ['s']) = none := by
    rw [beforeEnding?_eq_none_iff, endsWith_lastThree]
    cases ie : endsWith ['i', 'e'] noun with
    | false => rfl
    | true =>
      rw [endsWith_of_append ['i'] ie] at other
      contradiction
  have notEs : beforeEnding? ['e', 's'] (noun ++ ['s']) = none := by
    rw [beforeEnding?_eq_none_iff]
    simpa using other
  rw [regularSingular, notIes, Option.filter_none, singularOfEs, notEs]
  simp only [dropFinalS_concat nonempty]
  cases singularInS.contains (noun ++ ['s']) <;> simp

theorem regularSingular_of_not_s (other : endsWith ['s'] word = false) :
    regularSingular word = word := by
  have notIes : beforeEnding? ['i', 'e', 's'] word = none := by
    rw [beforeEnding?_eq_none_iff]
    exact Bool.eq_false_iff.mpr fun ies => by simp [endsWith_of_append ['i', 'e'] ies] at other
  have notEs : beforeEnding? ['e', 's'] word = none := by
    rw [beforeEnding?_eq_none_iff]
    exact Bool.eq_false_iff.mpr fun es => by simp [endsWith_of_append ['e'] es] at other
  simp [regularSingular, notIes, singularOfEs, notEs, dropFinalS_of_not other]

theorem regularSingular_of_takesEs (takes : takesEs word = true) : regularSingular word = word := by
  cases hard : endsWith ['s'] word with
  | false => exact regularSingular_of_not_s hard
  | true =>
    obtain ⟨stem, rfl⟩ := endsWith_iff.mp hard
    simp only [takesEs, Bool.or_eq_true, List.contains_iff_mem] at takes
    by_cases inTable : stem ++ ['s'] ∈ singularInS
    · exact (singularInS_endings _ inTable).2.1
    have doubled : endsWith ['s'] stem = true ∨ endsWith ['u'] stem = true := by
      simpa [inTable] using takes
    simp only [endsWith_iff] at doubled
    rcases doubled with ⟨front, rfl⟩ | ⟨front, rfl⟩ <;>
    · rw [regularSingular_s (by simp) (by simp)]
      simp

theorem regularSingular_cases (word : Word) :
    regularSingular word = word ∨
    (∃ stem, stem ≠ [] ∧ word = stem ++ ['i', 'e', 's'] ∧ regularSingular word = stem ++ ['y']) ∨
    (word = regularSingular word ++ ['e', 's'] ∧ takesEs (regularSingular word) = true) ∨
    (word = regularSingular word ++ ['s'] ∧ endsWith ['s'] (regularSingular word) = false) := by
  rw [regularSingular]
  split
  · next stem found =>
    obtain ⟨ending, kept⟩ := Option.filter_eq_some_iff.mp found
    exact Or.inr (Or.inl ⟨stem, by simpa using kept, beforeEnding?_eq_some_iff.mp ending, rfl⟩)
  split
  · exact Or.inl rfl
  rw [singularOfEs]
  split
  · next stem found =>
    split
    · next takes => exact Or.inr (Or.inr (Or.inl ⟨beforeEnding?_eq_some_iff.mp found, takes⟩))
    · exact (dropFinalS_cases word).imp_right fun dropped => Or.inr (Or.inr dropped)
  · exact (dropFinalS_cases word).imp_right fun dropped => Or.inr (Or.inr dropped)

theorem dropFinalS_ne_nil (nonempty : word ≠ []) : dropFinalS word ≠ [] := by
  unfold dropFinalS
  split
  · exact nonempty
  split
  · split
    · exact nonempty
    · next kept => simpa using kept
  · exact nonempty

theorem regularSingular_ne_nil (nonempty : word ≠ []) : regularSingular word ≠ [] := by
  unfold regularSingular
  split
  · simp
  split
  · exact nonempty
  unfold singularOfEs
  split
  · split
    · next takes =>
      rintro rfl
      exact absurd takes (by decide)
    · exact dropFinalS_ne_nil nonempty
  · exact dropFinalS_ne_nil nonempty

theorem regularSingular_regularSingular (word : Word) :
    regularSingular (regularSingular word) = regularSingular word := by
  rcases regularSingular_cases word with same | ⟨stem, _, _, same⟩ | ⟨_, takes⟩ | ⟨_, other⟩
  · exact congrArg regularSingular same
  · rw [same]
    exact regularSingular_of_not_s (by simp)
  · exact regularSingular_of_takesEs takes
  · exact regularSingular_of_not_s other

end NamingAudit.Inflection
