import NamingAudit.Proofs.RegularEndings

/-! A noun and its plural. The plural of a noun is read back as that noun, as another noun, or as a
singular, depending on its last letters, and the tables settle the nouns that they know. So there is
an exact condition on a noun under which its plural is brought back to it, and another one under which
its plural, brought back or not, has itself for a plural. -/

namespace NamingAudit.Inflection
open NamingAudit.Casing NamingAudit.Text

variable {word noun stem found : Word}

def listedPlurals : List Word := uncountable ++ irregular.map Prod.snd

def listed : List Word := listedPlurals ++ irregular.map Prod.fst

theorem listedPlurals_cases (member : word ∈ listedPlurals) :
    word ∈ uncountable ∨ ∃ entry ∈ irregular, entry.2 = word :=
  (List.mem_append.mp member).imp_right List.mem_map.mp

theorem listed_cases (member : word ∈ listed) :
    word ∈ uncountable ∨ (∃ entry ∈ irregular, entry.2 = word) ∨
      ∃ entry ∈ irregular, entry.1 = word := by
  rcases List.mem_append.mp member with plural | singular
  · exact (listedPlurals_cases plural).imp_right Or.inl
  · exact Or.inr (Or.inr (List.mem_map.mp singular))

theorem pluralize_uncountable (member : word ∈ uncountable) : pluralize word = word := by
  simp [pluralize, isUncountable, member]

theorem singularize_uncountable (member : word ∈ uncountable) : singularize word = word := by
  simp [singularize, isUncountable, member]

theorem numbers_irregular : ∀ entry ∈ irregular,
    pluralize entry.1 = entry.2 ∧ pluralize entry.2 = entry.2 ∧
      singularize entry.2 = entry.1 ∧ singularize entry.1 = entry.1 := by
  decide +kernel

theorem irregular_endings : ∀ entry ∈ irregular, entry.2 ≠ entry.1 ∧
    (endsWith ['s'] entry.1 = true → endsWith ['i', 's'] entry.1 = true) := by
  decide +kernel

theorem singularize_irregular (member : word ∈ irregular.map Prod.fst) : singularize word = word := by
  obtain ⟨entry, present, rfl⟩ := List.mem_map.mp member
  exact (numbers_irregular entry present).2.2.2

theorem pluralize_singularize_listed (member : word ∈ listedPlurals) :
    pluralize (singularize word) = word := by
  rcases listedPlurals_cases member with uncounted | ⟨entry, present, rfl⟩
  · rw [singularize_uncountable uncounted, pluralize_uncountable uncounted]
  · obtain ⟨plural, _, singular, _⟩ := numbers_irregular entry present
    rw [singular, plural]

theorem pluralize_mem_listedPlurals (member : word ∈ listed) : pluralize word ∈ listedPlurals := by
  have plural {entry : Word × Word} (present : entry ∈ irregular) : entry.2 ∈ listedPlurals :=
    List.mem_append_right _ (List.mem_map_of_mem present)
  rcases listed_cases member with uncounted | ⟨entry, present, rfl⟩ | ⟨entry, present, rfl⟩
  · rw [pluralize_uncountable uncounted]
    exact List.mem_append_left _ uncounted
  · rw [(numbers_irregular entry present).2.1]
    exact plural present
  · rw [(numbers_irregular entry present).1]
    exact plural present

theorem singularize_mem_listed (member : word ∈ listed) : singularize word ∈ listed := by
  have singular {entry : Word × Word} (present : entry ∈ irregular) : entry.1 ∈ listed :=
    List.mem_append_right _ (List.mem_map_of_mem present)
  rcases listed_cases member with uncounted | ⟨entry, present, rfl⟩ | ⟨entry, present, rfl⟩
  · rw [singularize_uncountable uncounted]
    exact List.mem_append_left _ (List.mem_append_left _ uncounted)
  · rw [(numbers_irregular entry present).2.2.1]
    exact singular present
  · rw [(numbers_irregular entry present).2.2.2]
    exact singular present

theorem singularize_singularize_listed (member : word ∈ listed) :
    singularize (singularize word) = singularize word := by
  rcases listed_cases member with uncounted | ⟨entry, present, rfl⟩ | ⟨entry, present, rfl⟩
  · rw [singularize_uncountable uncounted, singularize_uncountable uncounted]
  · obtain ⟨_, _, singular, same⟩ := numbers_irregular entry present
    rw [singular, same]
  · obtain ⟨_, _, _, same⟩ := numbers_irregular entry present
    rw [same, same]

theorem singularize_pluralize_listed (member : word ∈ listed) (singular : singularize word = word) :
    singularize (pluralize word) = word := by
  rcases listed_cases member with uncounted | ⟨entry, present, rfl⟩ | ⟨entry, present, rfl⟩
  · rw [pluralize_uncountable uncounted, singular]
  · rw [(numbers_irregular entry present).2.1, singular]
  · obtain ⟨plural, _, back, _⟩ := numbers_irregular entry present
    rw [plural, back]

theorem nil_not_mem_listed : [] ∉ listed := by
  simp [listed, listedPlurals, uncountable, irregular]

theorem pluralize_of_not_listed (nonempty : word ≠ []) (unlisted : word ∉ listed) :
    pluralize word = regularPlural word := by
  simp only [listed, listedPlurals, List.mem_append, List.mem_map, not_or, not_exists,
    not_and] at unlisted
  obtain ⟨⟨countable, notPlural⟩, notSingular⟩ := unlisted
  have absent : irregular.find? (fun entry => entry.1 == word) = none :=
    List.find?_eq_none.mpr fun entry member same => notSingular entry member (beq_iff_eq.mp same)
  have absentToo : (irregular.any fun entry => entry.2 == word) = false :=
    List.any_eq_false.mpr fun entry member same => notPlural entry member (beq_iff_eq.mp same)
  simp [pluralize, nonempty, isUncountable, countable, absent, absentToo]

theorem singularize_of_not_listed (nonempty : word ≠ []) (unlisted : word ∉ listed) :
    singularize word = regularSingular word := by
  simp only [listed, listedPlurals, List.mem_append, List.mem_map, not_or, not_exists,
    not_and] at unlisted
  obtain ⟨⟨countable, notPlural⟩, notSingular⟩ := unlisted
  have absent : irregular.find? (fun entry => entry.2 == word) = none :=
    List.find?_eq_none.mpr fun entry member same => notPlural entry member (beq_iff_eq.mp same)
  have absentToo : (irregular.any fun entry => entry.1 == word) = false :=
    List.any_eq_false.mpr fun entry member same => notSingular entry member (beq_iff_eq.mp same)
  simp [singularize, nonempty, isUncountable, countable, absent, absentToo]

theorem pluralize_ne_nil (nonempty : word ≠ []) : pluralize word ≠ [] := by
  by_cases inTable : word ∈ listed
  · have plural : pluralize word ∈ listed :=
      List.mem_append_left _ (pluralize_mem_listedPlurals inTable)
    exact fun empty => nil_not_mem_listed (empty ▸ plural)
  · rw [pluralize_of_not_listed nonempty inTable]
    exact regularPlural_ne_nil word

theorem singularize_ne_nil (nonempty : word ≠ []) : singularize word ≠ [] := by
  by_cases inTable : word ∈ listed
  · exact fun empty => nil_not_mem_listed (empty ▸ singularize_mem_listed inTable)
  · rw [singularize_of_not_listed nonempty inTable]
    exact regularSingular_ne_nil nonempty

/-- A singular is left as it is, unless it is one of the plurals of the tables, as that of `peoples`
is. -/
theorem singularize_singularize (word : Word) :
    singularize (singularize word) = singularize word ∨ singularize word ∈ listedPlurals := by
  by_cases empty : word = []
  · subst empty
    exact Or.inl rfl
  by_cases inTable : word ∈ listed
  · exact Or.inl (singularize_singularize_listed inTable)
  rw [singularize_of_not_listed empty inTable]
  by_cases listedToo : regularSingular word ∈ listed
  · rcases List.mem_append.mp listedToo with plural | singular
    · exact Or.inr plural
    · exact Or.inl (singularize_irregular singular)
  rw [singularize_of_not_listed (regularSingular_ne_nil empty) listedToo]
  exact Or.inl (regularSingular_regularSingular word)

/-- The noun and an `s` are taken for a singular, as `menus` and `taxis` are. -/
def pluralLooksSingular (noun : Word) : Bool :=
  endsWith ['u'] noun || endsWith ['i'] noun || singularInS.contains (noun ++ ['s'])

/-- The endings of a noun whose regular plural is read as that of another one: `cache` as if it were
`cach`, `birdie` as `birdy`, `iris` as `irise`, and the letter `y` as `ie`. -/
def sharesPlural (noun : Word) : Bool :=
  (beforeEnding? ['e'] noun).any takesEs
    || (beforeEnding? ['i', 'e'] noun).any (fun stem => !stem.isEmpty)
    || isSibilant noun && !takesEs noun || noun == ['y']

inductive ReadsAs (noun : Word) : Word → Prop where
  | plural (looks : pluralLooksSingular noun = true)
      (regular : regularPlural noun = noun ++ ['s']) : ReadsAs noun (noun ++ ['s'])
  | silentE {stem : Word} (ending : noun = stem ++ ['e']) (takes : takesEs stem = true) :
      ReadsAs noun stem
  | ie {stem : Word} (ending : noun = stem ++ ['i', 'e']) (nonempty : stem ≠ []) :
      ReadsAs noun (stem ++ ['y'])
  | sibilant (sibilant : isSibilant noun = true) (takesNone : takesEs noun = false) :
      ReadsAs noun (noun ++ ['e'])
  | letter (alone : noun = ['y']) : ReadsAs noun ['i', 'e']
  | noun (looksPlural : pluralLooksSingular noun = false) (own : sharesPlural noun = false) :
      ReadsAs noun noun

theorem sharesPlural_concat {front : Word} {last : Char} (notE : last ≠ 'e') :
    sharesPlural (front ++ [last]) =
      (isSibilant (front ++ [last]) && !takesEs (front ++ [last]) || front ++ [last] == ['y']) := by
  have notE' : beforeEnding? ['e'] (front ++ [last]) = none :=
    beforeEnding?_eq_none_iff.mpr (by simpa using notE.symm)
  have notIe : beforeEnding? ['i', 'e'] (front ++ [last]) = none :=
    beforeEnding?_eq_none_iff.mpr (by simp [notE.symm])
  rw [sharesPlural, notE', notIe]
  rfl

theorem pluralLooksSingular_eq_false {front : Word} {last : Char} (notU : last ≠ 'u')
    (notI : last ≠ 'i')
    (other : (isSibilant (front ++ [last]) || 'e' == last || 'y' == last) = true) :
    pluralLooksSingular (front ++ [last]) = false := by
  have unlisted : singularInS.contains (front ++ [last] ++ ['s']) = false :=
    contains_singularInS_eq_false (by simpa using other)
  rw [pluralLooksSingular, unlisted]
  simp [notU.symm, notI.symm]

theorem readsAs_of_y (consonant : stem.getLast?.any isVowel = false) :
    ReadsAs (stem ++ ['y']) (regularSingular (stem ++ ['i', 'e', 's'])) := by
  by_cases empty : stem = []
  · subst empty
    exact .letter rfl
  · rw [regularSingular_ies empty]
    refine .noun (pluralLooksSingular_eq_false (by decide) (by decide) (by simp)) ?_
    rw [sharesPlural_concat (by decide)]
    simp [isSibilant, empty]

theorem readsAs_of_isSibilant (sibilant : isSibilant noun = true) :
    ReadsAs noun (regularSingular (noun ++ ['e', 's'])) := by
  obtain ⟨front, last, rfl, letter⟩ := exists_last_of_isSibilant sibilant
  have others : last ≠ 'u' ∧ last ≠ 'i' ∧ last ≠ 'e' ∧ last ≠ 'y' := by
    rcases letter with rfl | rfl | rfl | rfl <;> decide
  obtain ⟨notU, notI, notE, notY⟩ := others
  rw [regularSingular_es (by simpa using notI.symm)]
  cases takes : takesEs (front ++ [last]) with
  | false => exact .sibilant sibilant takes
  | true =>
    refine .noun (pluralLooksSingular_eq_false notU notI (by simp [sibilant])) ?_
    rw [sharesPlural_concat notE, takes]
    simp [List.append_eq_singleton_iff, notY]

theorem readsAs_of_e (stem : Word) :
    ReadsAs (stem ++ ['e']) (regularSingular (stem ++ ['e'] ++ ['s'])) := by
  have looks : pluralLooksSingular (stem ++ ['e']) = false :=
    pluralLooksSingular_eq_false (by decide) (by decide) (by simp)
  cases i : endsWith ['i'] stem with
  | true =>
    obtain ⟨front, rfl⟩ := endsWith_iff.mp i
    by_cases empty : front = []
    · subst empty
      exact .noun looks rfl
    · have parted : front ++ ['i'] ++ ['e'] ++ ['s'] = front ++ ['i', 'e', 's'] := by simp
      rw [parted, regularSingular_ies empty]
      exact .ie (by simp) empty
  | false =>
    have parted : stem ++ ['e'] ++ ['s'] = stem ++ ['e', 's'] := by simp
    rw [parted, regularSingular_es i]
    cases takes : takesEs stem with
    | true => exact .silentE rfl takes
    | false =>
      refine .noun looks ?_
      have notIe : beforeEnding? ['i', 'e'] (stem ++ ['e']) = none :=
        beforeEnding?_eq_none_iff.mpr (by simpa using i)
      rw [sharesPlural, beforeEnding?_append, notIe]
      simp [takes, isSibilant, List.append_eq_singleton_iff]

theorem readsAs_of_hard (nonempty : noun ≠ []) (hard : isSibilant noun = false)
    (notY : noun ≠ ['y']) (notE : endsWith ['e'] noun = false)
    (regular : regularPlural noun = noun ++ ['s']) :
    ReadsAs noun (regularSingular (noun ++ ['s'])) := by
  have notS : endsWith ['s'] noun = false := by
    simp only [isSibilant, Bool.or_eq_false_iff] at hard
    exact hard.1.1.1.1
  have condition : (singularInS.contains (noun ++ ['s']) || endsWith ['s'] noun ||
      endsWith ['u'] noun || endsWith ['i'] noun) = pluralLooksSingular noun := by
    rw [notS, pluralLooksSingular]
    cases singularInS.contains (noun ++ ['s']) <;> simp
  rw [regularSingular_s nonempty notE, condition]
  cases looks : pluralLooksSingular noun with
  | true => exact .plural looks regular
  | false =>
    refine .noun looks ?_
    have notIe : endsWith ['i', 'e'] noun = false := by
      cases ie : endsWith ['i', 'e'] noun with
      | false => rfl
      | true =>
        rw [endsWith_of_append ['i'] ie] at notE
        contradiction
    rw [sharesPlural, beforeEnding?_eq_none_iff.mpr notE, beforeEnding?_eq_none_iff.mpr notIe]
    simp [hard, notY]

theorem readsAs_regularPlural (nonempty : noun ≠ []) :
    ReadsAs noun (regularSingular (regularPlural noun)) := by
  rcases regularPlural_cases noun with ⟨stem, rfl, consonant, regular⟩ | ⟨sibilant, regular⟩ |
    ⟨hard, vowel, regular⟩
  · rw [regular]
    exact readsAs_of_y consonant
  · rw [regular]
    exact readsAs_of_isSibilant sibilant
  · rw [regular]
    cases notE : endsWith ['e'] noun with
    | true =>
      obtain ⟨stem, rfl⟩ := endsWith_iff.mp notE
      exact readsAs_of_e stem
    | false =>
      refine readsAs_of_hard nonempty hard ?_ notE regular
      rintro rfl
      exact absurd (vowel [] rfl) (by decide)

theorem ReadsAs.eq_noun_iff (reads : ReadsAs noun found) :
    found = noun ↔ (pluralLooksSingular noun || sharesPlural noun) = false := by
  cases reads with
  | plural looks _ => simp [looks]
  | silentE ending takes =>
    subst ending
    simp [sharesPlural, takes]
  | ie ending nonempty =>
    subst ending
    simp [sharesPlural, nonempty]
  | sibilant sibilant takesNone => simp [sharesPlural, sibilant, takesNone]
  | letter alone => simp [alone, sharesPlural]
  | noun looks own => simp [looks, own]

theorem pluralLooksSingular_of_irregular (inTable : regularPlural noun ∈ irregular.map Prod.fst) :
    pluralLooksSingular noun = true := by
  have ending : endsWith ['s'] (regularPlural noun) = true →
      endsWith ['i', 's'] (regularPlural noun) = true := by
    obtain ⟨entry, present, same⟩ := List.mem_map.mp inTable
    exact same ▸ (irregular_endings entry present).2
  have notEs (stem : Word) (same : regularPlural noun = stem ++ ['e', 's']) : False := by
    have parted : stem ++ ['e', 's'] = stem ++ ['e'] ++ ['s'] := by simp
    rw [same, parted, endsWith_last, endsWith_lastTwo, endsWith_last] at ending
    exact absurd (ending rfl) (by decide)
  rcases regularPlural_cases noun with ⟨stem, _, _, regular⟩ | ⟨_, regular⟩ | ⟨_, _, regular⟩
  · exact (notEs (stem ++ ['i']) (by simp [regular])).elim
  · exact (notEs noun regular).elim
  · rw [regular, endsWith_last, endsWith_lastTwo] at ending
    have looks : endsWith ['i'] noun = true := by simpa using ending
    simp [pluralLooksSingular, looks]

/-- The plural of the noun is not brought back to it: it is a plural of the tables that belongs to
another noun, or it is read as a singular or as the plural of another noun. -/
def losesSingular (noun : Word) : Bool :=
  !listed.contains noun &&
    (listedPlurals.contains (regularPlural noun) || pluralLooksSingular noun || sharesPlural noun)

/-- The plural of the noun has another plural: it is taken for a singular, or read as the plural of a
noun with an exceptional plural, as `indexe` would be, or of one in a vowel and `y`. -/
def losesPlural (noun : Word) : Bool :=
  pluralLooksSingular noun
    || (beforeEnding? ['e'] noun).any (fun stem => takesEs stem && listed.contains stem)
    || (beforeEnding? ['i', 'e'] noun).any fun stem => stem.getLast?.any isVowel

theorem listed_endings : ∀ word ∈ listed,
    losesPlural word = false ∧
      (word ∈ listedPlurals →
        (beforeEnding? ['s'] word).all (fun noun => !losesPlural noun) = true) ∧
      (takesEs word = true → word ++ ['e', 's'] ∉ listedPlurals) ∧
      (beforeEnding? ['y'] word).all (fun stem => stem.getLast?.any isVowel &&
        !listedPlurals.contains (stem ++ ['i', 'e', 's'])) = true ∧
      (beforeEnding? ['e'] word).all (fun noun =>
        !(isSibilant noun && !takesEs noun && singularize noun == noun)) = true := by
  decide +kernel

theorem short_words : losesSingular [] = false ∧ losesPlural [] = false ∧
    losesPlural ['y'] = false ∧ pluralize ['i', 'e'] = ['i', 'e', 's'] := by
  decide +kernel

theorem singularize_pluralize_iff (singular : singularize noun = noun) :
    singularize (pluralize noun) = noun ↔ losesSingular noun = false := by
  by_cases empty : noun = []
  · subst empty
    exact iff_of_true rfl short_words.1
  by_cases inTable : noun ∈ listed
  · have kept : losesSingular noun = false := by simp [losesSingular, inTable]
    exact iff_of_true (singularize_pluralize_listed inTable singular) kept
  rw [pluralize_of_not_listed empty inTable]
  by_cases ofAnother : regularPlural noun ∈ listedPlurals
  · have lost : losesSingular noun = true := by simp [losesSingular, inTable, ofAnother]
    refine iff_of_false (fun same => inTable ?_) (by simp [lost])
    exact same ▸ singularize_mem_listed (List.mem_append_left _ ofAnother)
  have condition : losesSingular noun = (pluralLooksSingular noun || sharesPlural noun) := by
    simp [losesSingular, inTable, ofAnother]
  rw [condition]
  by_cases singularToo : regularPlural noun ∈ irregular.map Prod.fst
  · rw [singularize_irregular singularToo, pluralLooksSingular_of_irregular singularToo]
    simp [regularPlural_ne_self]
  have unlisted : regularPlural noun ∉ listed := by
    simp [listed, ofAnother, singularToo]
  rw [singularize_of_not_listed (regularPlural_ne_nil noun) unlisted]
  exact (readsAs_regularPlural empty).eq_noun_iff

theorem losesPlural_concat {front : Word} {last : Char} (notE : last ≠ 'e') :
    losesPlural (front ++ [last]) = pluralLooksSingular (front ++ [last]) := by
  have notE' : beforeEnding? ['e'] (front ++ [last]) = none :=
    beforeEnding?_eq_none_iff.mpr (by simpa using notE.symm)
  have notIe : beforeEnding? ['i', 'e'] (front ++ [last]) = none :=
    beforeEnding?_eq_none_iff.mpr (by simp [notE.symm])
  rw [losesPlural, notE', notIe]
  simp

theorem losesPlural_of_isSibilant (sibilant : isSibilant noun = true) :
    losesPlural noun = false := by
  obtain ⟨front, last, rfl, letter⟩ := exists_last_of_isSibilant sibilant
  have others : last ≠ 'u' ∧ last ≠ 'i' ∧ last ≠ 'e' := by
    rcases letter with rfl | rfl | rfl | rfl <;> decide
  obtain ⟨notU, notI, notE⟩ := others
  rw [losesPlural_concat notE]
  exact pluralLooksSingular_eq_false notU notI (by simp [sibilant])

theorem losesPlural_e (stem : Word) : losesPlural (stem ++ ['e']) =
    (takesEs stem && listed.contains stem ||
      (beforeEnding? ['i'] stem).any fun front => front.getLast?.any isVowel) := by
  have looks : pluralLooksSingular (stem ++ ['e']) = false :=
    pluralLooksSingular_eq_false (by decide) (by decide) (by simp)
  have parted : beforeEnding? ['i', 'e'] (stem ++ ['e']) = beforeEnding? ['i'] stem :=
    beforeEnding?_concat ['i'] stem 'e'
  rw [losesPlural, looks, beforeEnding?_append, parted]
  rfl

theorem losesPlural_of_own (looks : pluralLooksSingular noun = false)
    (own : sharesPlural noun = false) : losesPlural noun = false := by
  simp only [sharesPlural, Bool.or_eq_false_iff] at own
  obtain ⟨⟨⟨notSilent, notIe⟩, _⟩, _⟩ := own
  rw [losesPlural, looks]
  cases e : beforeEnding? ['e'] noun <;> cases ie : beforeEnding? ['i', 'e'] noun <;> simp_all

theorem losesPlural_of_listedPlural (plural : regularPlural noun ∈ listedPlurals) :
    losesPlural noun = false := by
  rcases regularPlural_cases noun with ⟨stem, rfl, _, _⟩ | ⟨sibilant, _⟩ | ⟨_, _, regular⟩
  · rw [losesPlural_concat (by decide)]
    exact pluralLooksSingular_eq_false (by decide) (by decide) (by simp)
  · exact losesPlural_of_isSibilant sibilant
  · rw [regular] at plural
    simpa using (listed_endings _ (List.mem_append_left _ plural)).2.1 plural

theorem pluralize_stem_iff (takes : takesEs stem = true) :
    pluralize stem = regularPlural (stem ++ ['e']) ↔ losesPlural (stem ++ ['e']) = false := by
  have sibilant := isSibilant_of_takesEs takes
  have condition : losesPlural (stem ++ ['e']) = listed.contains stem := by
    obtain ⟨front, last, rfl, letter⟩ := exists_last_of_isSibilant sibilant
    have notI : beforeEnding? ['i'] (front ++ [last]) = none := by
      rw [beforeEnding?_eq_none_iff, endsWith_last]
      rcases letter with rfl | rfl | rfl | rfl <;> decide
    rw [losesPlural_e, takes, notI]
    simp
  rw [condition, regularPlural_e]
  by_cases inTable : stem ∈ listed
  · have exception : pluralize stem ≠ stem ++ ['e', 's'] := fun same =>
      (listed_endings stem inTable).2.2.1 takes (same ▸ pluralize_mem_listedPlurals inTable)
    simpa [inTable] using exception
  · have nonempty : stem ≠ [] := by
      rintro rfl
      exact absurd takes (by decide)
    rw [pluralize_of_not_listed nonempty inTable, regularPlural_of_isSibilant sibilant]
    simp [inTable]

theorem pluralize_y_iff (stem : Word) :
    pluralize (stem ++ ['y']) = regularPlural (stem ++ ['i', 'e']) ↔
      losesPlural (stem ++ ['i', 'e']) = false := by
  have parted : stem ++ ['i', 'e'] = stem ++ ['i'] ++ ['e'] := by simp
  have condition : losesPlural (stem ++ ['i', 'e']) = stem.getLast?.any isVowel := by
    rw [parted, losesPlural_e, takesEs_eq_false (by decide), beforeEnding?_append]
    simp
  rw [condition, parted, regularPlural_e]
  by_cases inTable : stem ++ ['y'] ∈ listed
  · have exception := (listed_endings _ inTable).2.2.2.1
    simp only [beforeEnding?_append, Option.all_some, Bool.and_eq_true, Bool.not_eq_true',
      List.contains_eq_mem, decide_eq_false_iff_not] at exception
    have other : pluralize (stem ++ ['y']) ≠ stem ++ ['i', 'e', 's'] := fun same =>
      exception.2 (same ▸ pluralize_mem_listedPlurals inTable)
    simpa [exception.1] using other
  · rw [pluralize_of_not_listed (by simp) inTable, regularPlural_y]
    cases stem.getLast?.any isVowel <;> simp

theorem pluralize_e_of_isSibilant (sibilant : isSibilant noun = true)
    (takesNone : takesEs noun = false) (singular : singularize noun = noun) :
    pluralize (noun ++ ['e']) = regularPlural noun := by
  have unlisted : noun ++ ['e'] ∉ listed := fun inTable => by
    simpa [sibilant, takesNone, singular] using (listed_endings _ inTable).2.2.2.2
  rw [pluralize_of_not_listed (by simp) unlisted, regularPlural_e,
    regularPlural_of_isSibilant sibilant]

theorem ReadsAs.pluralize_eq_iff (reads : ReadsAs noun found) (singular : singularize noun = noun)
    (nonempty : noun ≠ []) (inTable : noun ∉ listed) (unlisted : regularPlural noun ∉ listed) :
    pluralize found = regularPlural noun ↔ losesPlural noun = false := by
  cases reads with
  | plural looks regular =>
    rw [← regular, pluralize_of_not_listed (regularPlural_ne_nil noun) unlisted]
    simp [regularPlural_ne_self, losesPlural, looks]
  | silentE ending takes =>
    subst ending
    exact pluralize_stem_iff takes
  | ie ending nonempty =>
    subst ending
    exact pluralize_y_iff _
  | sibilant sibilant takesNone =>
    exact iff_of_true (pluralize_e_of_isSibilant sibilant takesNone singular)
      (losesPlural_of_isSibilant sibilant)
  | letter alone =>
    subst alone
    exact iff_of_true short_words.2.2.2 short_words.2.2.1
  | noun looks own =>
    exact iff_of_true (pluralize_of_not_listed nonempty inTable) (losesPlural_of_own looks own)

theorem pluralize_singularize_iff (singular : singularize noun = noun ∨ noun ∈ listedPlurals) :
    pluralize (singularize (pluralize noun)) = pluralize noun ↔ losesPlural noun = false := by
  by_cases empty : noun = []
  · subst empty
    exact iff_of_true rfl short_words.2.1
  by_cases inTable : noun ∈ listed
  · exact iff_of_true (pluralize_singularize_listed (pluralize_mem_listedPlurals inTable))
      (listed_endings noun inTable).1
  rw [pluralize_of_not_listed empty inTable]
  by_cases ofAnother : regularPlural noun ∈ listedPlurals
  · exact iff_of_true (pluralize_singularize_listed ofAnother)
      (losesPlural_of_listedPlural ofAnother)
  by_cases singularToo : regularPlural noun ∈ irregular.map Prod.fst
  · have looks := pluralLooksSingular_of_irregular singularToo
    rw [singularize_irregular singularToo]
    obtain ⟨entry, present, same⟩ := List.mem_map.mp singularToo
    rw [← same, (numbers_irregular entry present).1]
    exact iff_of_false (irregular_endings entry present).1 (by simp [losesPlural, looks])
  have unlisted : regularPlural noun ∉ listed := by
    simp [listed, ofAnother, singularToo]
  have regular : singularize noun = noun :=
    singular.resolve_right fun plural => inTable (List.mem_append_left _ plural)
  rw [singularize_of_not_listed (regularPlural_ne_nil noun) unlisted]
  exact (readsAs_regularPlural empty).pluralize_eq_iff regular empty inTable unlisted

end NamingAudit.Inflection
