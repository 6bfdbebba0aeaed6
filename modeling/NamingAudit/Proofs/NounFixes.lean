import NamingAudit.Proofs.ModelNames
import NamingAudit.Proofs.PascalRuns
import NamingAudit.Proofs.Recasing

/-! Fixes that put a noun into the singular. The singular is its own singular, save for ten plurals with
another `s` behind them, and a name in Pascal case comes apart into the words that it was put together
from. So a model or a controller is renamed once. -/

namespace NamingAudit

namespace Inflection
open NamingAudit.Casing NamingAudit.Text

variable {word : Word}

def doubledPlurals : List Word :=
  ["peoples", "childrens", "mens", "womens", "mices", "geeses", "feets", "teeths", "oxens",
    "criterias"].map String.toList

theorem doubledPlurals_eq : doubledPlurals =
    (irregular.filter fun entry => !endsWith ['s'] entry.2).map fun entry => entry.2 ++ ['s'] := by
  decide +kernel

theorem mem_doubledPlurals_iff : word ∈ doubledPlurals ↔
    ∃ entry ∈ irregular, endsWith ['s'] entry.2 = false ∧ entry.2 ++ ['s'] = word := by
  simp only [doubledPlurals_eq, List.mem_map, List.mem_filter, Bool.not_eq_true', and_assoc]

theorem irregular_plurals : ∀ entry ∈ irregular,
    endsWith ['y'] entry.2 = false ∧ takesEs entry.2 = false := by
  decide +kernel

theorem irregular_ne : ∀ entry ∈ irregular, entry.1 ≠ entry.2 := by
  decide +kernel

theorem singularize_doubled : ∀ entry ∈ irregular, endsWith ['s'] entry.2 = false →
    singularize (entry.2 ++ ['s']) = entry.2 ∧ singularize entry.2 = entry.1 := by
  decide +kernel

theorem singularize_doubledPlurals (member : word ∈ doubledPlurals) :
    singularize (singularize word) ≠ singularize word := by
  obtain ⟨entry, present, unending, rfl⟩ := mem_doubledPlurals_iff.mp member
  obtain ⟨once, again⟩ := singularize_doubled entry present unending
  rw [once, again]
  exact irregular_ne entry present

theorem mem_doubledPlurals_of_regularSingular {entry : Word × Word} (present : entry ∈ irregular)
    (other : word ≠ entry.2) (same : regularSingular word = entry.2) : word ∈ doubledPlurals := by
  obtain ⟨notY, notEs⟩ := irregular_plurals entry present
  -- By their last letters, the ways that end in `y` or take off `es` do not lead to a listed plural.
  have cases := regularSingular_cases word
  rw [same] at cases
  rcases cases with unchanged | ⟨stem, _, _, y⟩ | ⟨_, takes⟩ | ⟨ending, notS⟩
  · exact absurd unchanged.symm other
  · rw [y] at notY
    simp at notY
  · rw [takes] at notEs
    contradiction
  · exact mem_doubledPlurals_iff.mpr ⟨entry, present, notS, ending.symm⟩

theorem singularize_singularize_iff :
    singularize (singularize word) = singularize word ↔ word ∉ doubledPlurals := by
  constructor
  · intro same member
    exact singularize_doubledPlurals member same
  intro undoubled
  by_cases empty : word = []
  · subst empty
    rfl
  by_cases inTable : word ∈ listed
  · exact singularize_singularize_listed inTable
  rcases singularize_singularize word with same | plural
  · exact same
  rcases listedPlurals_cases plural with uncounted | ⟨entry, present, same⟩
  · exact singularize_uncountable uncounted
  · have other : word ≠ entry.2 := by
      rintro rfl
      exact inTable (List.mem_append_left _ (List.mem_append_right _ (List.mem_map_of_mem present)))
    rw [singularize_of_not_listed empty inTable] at same
    exact absurd (mem_doubledPlurals_of_regularSingular present other same.symm) undoubled

/-- A singular is its own singular unless it was taken of one of the exceptional plurals that do not end in
`s`, ten in number, with an `s` behind it. There the first step takes off the `s` and the second one leads to
the exceptional singular. -/
theorem singularize_twice :
    doubledPlurals = (irregular.filter fun entry => !endsWith ['s'] entry.2).map
        (fun entry => entry.2 ++ ['s']) ∧
      (∀ word, singularize (singularize word) = singularize word ↔ word ∉ doubledPlurals) ∧
      ∀ entry ∈ irregular, endsWith ['s'] entry.2 = false →
        singularize (entry.2 ++ ['s']) = entry.2 ∧
          singularize (singularize (entry.2 ++ ['s'])) = entry.1 := by
  refine ⟨doubledPlurals_eq, fun word => singularize_singularize_iff, ?_⟩
  intro entry present unending
  obtain ⟨once, again⟩ := singularize_doubled entry present unending
  rw [once]
  exact ⟨rfl, again⟩

theorem singularize_twice_addresses :
    "addresses".toList ∉ doubledPlurals ∧
      singularize (singularize "addresses".toList) = singularize "addresses".toList ∧
      singularize "peoples".toList = "people".toList ∧
      singularize (singularize "peoples".toList) = "person".toList := by
  obtain ⟨_, settles, doubled⟩ := singularize_twice
  have undoubled : "addresses".toList ∉ doubledPlurals := by decide +kernel
  have listed : ("person".toList, "people".toList) ∈ irregular := by decide +kernel
  have peoples : "people".toList ++ ['s'] = "peoples".toList := by decide +kernel
  have twice := doubled _ listed (by decide +kernel)
  rw [peoples] at twice
  exact ⟨undoubled, (settles _).mpr undoubled, twice⟩

theorem head?_regularSingular (nonempty : word ≠ []) : (regularSingular word).head? = word.head? := by
  have filled := regularSingular_ne_nil nonempty
  rcases regularSingular_cases word with same | ⟨stem, some, ending, same⟩ | ⟨ending, _⟩ | ⟨ending, _⟩
  · rw [same]
  · rw [same, ending, List.head?_append_of_ne_nil _ some, List.head?_append_of_ne_nil _ some]
  · rw [← List.head?_append_of_ne_nil _ filled, ← ending]
  · rw [← List.head?_append_of_ne_nil _ filled, ← ending]

theorem beginsWithLetter_singularize_listed : ∀ word ∈ listed,
    beginsWithLetter (singularize word) = true := by
  decide +kernel

theorem beginsWithLetter_singularize (begins : beginsWithLetter word = true) :
    beginsWithLetter (singularize word) = true := by
  by_cases inTable : word ∈ listed
  · exact beginsWithLetter_singularize_listed word inTable
  · have nonempty : word ≠ [] := by
      rintro rfl
      contradiction
    rw [singularize_of_not_listed nonempty inTable, beginsWithLetter, head?_regularSingular nonempty]
    exact begins

end Inflection

namespace Casing

theorem isLetter_of_length {word : Word} (long : 2 ≤ word.length) : isLetter word = false := by
  match word, long with
  | _ :: _ :: _, _ => rfl

theorem capitalsApart_concat {front : List Word} (long : ∀ word ∈ front, 2 ≤ word.length)
    (last : Word) : CapitalsApart (front ++ [last]) := by
  induction front with
  | nil => exact List.isChain_singleton last
  | cons first front ih =>
    rw [List.forall_mem_cons] at long
    have apart (next : Word) : ¬ (isLetter first = true ∧ beginsWithLetter next = true) := by
      simp [isLetter_of_length long.1]
    cases front with
    | nil => exact List.isChain_pair.mpr (apart last)
    | cons second front => exact List.isChain_cons_cons.mpr ⟨apart second, ih long.2⟩

end Casing

namespace Identifier
open NamingAudit.Casing NamingAudit.Inflection NamingAudit.Text

variable {name : String}

/-- A name of letters, digits and delimiters with a word in it, whose words begin with a letter and are
longer than that, the last one not being one of the ten plurals. -/
structure HasFullWords (name : String) : Prop where
  plain : IsPlainText name.toList
  nonempty : Casing.words name.toList ≠ []
  full : ∀ word ∈ Casing.words name.toList, beginsWithLetter word = true ∧ 2 ≤ word.length
  last : lastWord name ∉ doubledPlurals

instance (name : String) : Decidable (HasFullWords name) :=
  decidable_of_iff
    (IsPlainText name.toList ∧ Casing.words name.toList ≠ [] ∧
      (∀ word ∈ Casing.words name.toList, beginsWithLetter word = true ∧ 2 ≤ word.length) ∧
      lastWord name ∉ doubledPlurals)
    ⟨fun ⟨plain, nonempty, full, last⟩ => ⟨plain, nonempty, full, last⟩,
      fun words => ⟨words.plain, words.nonempty, words.full, words.last⟩⟩

namespace HasFullWords
variable (fullWords : HasFullWords name)
include fullWords

theorem exists_split : ∃ front last, Casing.words name.toList = front ++ [last] ∧
    last ∉ doubledPlurals := by
  rcases List.eq_nil_or_concat (Casing.words name.toList) with none | ⟨front, last, split⟩
  · exact absurd none fullWords.nonempty
  · have undoubled := fullWords.last
    rw [lastWord, split, List.concat_eq_append, List.getLastD_concat] at undoubled
    exact ⟨front, last, by rw [split, List.concat_eq_append], undoubled⟩

theorem words_singularPascal : Casing.words (singularPascal name).toList =
    mapLast singularize (Casing.words name.toList) := by
  have small : ∀ word ∈ Casing.words name.toList, IsSmallWord word := fun word =>
    isSmallWord_of_mem_words fullWords.plain
  have smallToo := isSmallWord_of_mem_mapLast (fun word => isSmallWord_singularize) small
  obtain ⟨front, last, split, _⟩ := fullWords.exists_split
  have full := fullWords.full
  rw [split, List.forall_mem_append] at full
  rw [singularPascal_eq, String.toList_ofList]
  rw [split, mapLast_concat] at smallToo ⊢
  have letters : ∀ word ∈ front ++ [singularize last], beginsWithLetter word = true := by
    refine List.forall_mem_append.mpr ⟨fun word member => (full.1 word member).1, ?_⟩
    simpa using beginsWithLetter_singularize (full.2 last (by simp)).1
  exact words_joinPascal smallToo letters
    (capitalsApart_concat (fun word member => (full.1 word member).2) (singularize last))

theorem singularPascal_singularPascal : singularPascal (singularPascal name) = singularPascal name := by
  obtain ⟨front, last, split, undoubled⟩ := fullWords.exists_split
  rw [singularPascal_eq (singularPascal name), fullWords.words_singularPascal, singularPascal_eq, split,
    mapLast_concat, mapLast_concat, singularize_singularize_iff.mpr undoubled]

theorem singularPascal_ne_empty : singularPascal name ≠ "" := by
  intro empty
  obtain ⟨front, last, split, _⟩ := fullWords.exists_split
  have words := fullWords.words_singularPascal
  rw [empty, split, mapLast_concat] at words
  exact absurd words.symm (by simp [Casing.words, wordsFrom, flush])

end HasFullWords

end Identifier

namespace Rules
open NamingAudit.Text NamingAudit.Identifier

variable {decl : ClassDecl} {suffix fix : String}

/-- What a name has before the suffix; all of it when it does not end in the suffix. -/
def nounPart (suffix name : String) : String :=
  String.ofList ((beforeEnding? suffix.toList name.toList).getD name.toList)

theorem eq_of_modelName_suggests (suggests : (modelName decl).Suggests fix) :
    fix = singularPascal decl.name := by
  rw [modelName] at suggests
  split at suggests
  · exact absurd suggests (Verdict.not_suggests_pass fix)
  dsimp only at suggests
  split at suggests
  · exact absurd suggests (Verdict.not_suggests_pass fix)
  split at suggests
  · exact absurd (Verdict.suggests_violation_iff.mp suggests) (Option.some_ne_none fix).symm
  · rw [Verdict.suggests_violation_iff] at suggests
    exact (Option.some.inj suggests).symm

theorem eq_of_controllerStem_suggests {name stem : String}
    (suggests : (controllerStem suffix name stem).Suggests fix) :
    fix = singularPascal stem ++ suffix := by
  rw [controllerStem] at suggests
  split at suggests
  · exact absurd (Verdict.suggests_violation_iff.mp suggests) (Option.some_ne_none fix).symm
  dsimp only at suggests
  split at suggests
  · exact absurd suggests (Verdict.not_suggests_pass fix)
  · rw [Verdict.suggests_violation_iff] at suggests
    exact (Option.some.inj suggests).symm

theorem eq_of_controllerName_suggests (suggests : (controllerName suffix decl).Suggests fix) :
    fix = singularPascal (nounPart suffix decl.name) ++ suffix := by
  rw [controllerName] at suggests
  split at suggests
  · exact absurd suggests (Verdict.not_suggests_pass fix)
  rw [nounPart]
  cases found : beforeEnding? suffix.toList decl.name.toList with
  | none =>
    rw [found] at suggests
    rw [missingSuffix, Verdict.suggests_violation_iff] at suggests
    rw [Option.getD_none, String.ofList_toList]
    exact (Option.some.inj suggests).symm
  | some stem =>
    rw [found] at suggests
    exact eq_of_controllerStem_suggests suggests

theorem controllerStem_eq_pass_iff {name stem : String} : controllerStem suffix name stem = .pass ↔
    stem ≠ "" ∧ singularPascal stem ++ suffix = name := by
  rw [controllerStem]
  split
  · next empty => simp [beq_iff_eq.mp empty]
  · next filled =>
    rw [beq_iff_eq] at filled
    dsimp only
    split
    · next same => exact iff_of_true rfl ⟨filled, beq_iff_eq.mp same⟩
    · next other =>
      rw [beq_iff_eq] at other
      simp [other]

theorem controllerName_eq_pass_iff : controllerName suffix decl = .pass ↔
    decl.role ≠ .controller ∨
      ∃ stem, stem ≠ "" ∧ decl.name = stem ++ suffix ∧ singularPascal stem = stem := by
  have ending {stem : String} : decl.name = stem ++ suffix ↔
      beforeEnding? suffix.toList decl.name.toList = some stem.toList := by
    rw [beforeEnding?_eq_some_iff, ← String.toList_append, String.toList_inj]
  rw [controllerName]
  split
  · next other => exact iff_of_true rfl (.inl (by simpa using other))
  · next isController =>
    have noOther : ¬ decl.role ≠ .controller := by simpa using isController
    rw [or_iff_right noOther]
    cases found : beforeEnding? suffix.toList decl.name.toList with
    | none => simp [ending, found, missingSuffix]
    | some stem =>
      have named : decl.name = String.ofList stem ++ suffix := by
        rw [ending, String.toList_ofList, found]
      have same {other : String} (fits : decl.name = other ++ suffix) : other = String.ofList stem := by
        rw [ending, found] at fits
        rw [Option.some.inj fits, String.ofList_toList]
      constructor
      · intro passes
        obtain ⟨filled, made⟩ := controllerStem_eq_pass_iff.mp passes
        exact ⟨String.ofList stem, filled, named, same made.symm⟩
      · rintro ⟨other, filled, fits, singular⟩
        obtain rfl := same fits
        exact controllerStem_eq_pass_iff.mpr ⟨filled, by rw [singular, named]⟩

/-- A model or a controller with the name that is suggested in place of a name with full words needs no
other one, whatever the suffix of controllers. -/
theorem noun_fix_accepted :
    (∀ (decl : ClassDecl) (fix : String), HasFullWords decl.name → (modelName decl).Suggests fix →
      modelName { decl with name := fix } = .pass) ∧
    ∀ (suffix : String) (decl : ClassDecl) (fix : String), HasFullWords (nounPart suffix decl.name) →
      (controllerName suffix decl).Suggests fix →
        controllerName suffix { decl with name := fix } = .pass := by
  constructor
  · intro decl fix fullWords suggests
    rw [modelName_eq_pass_iff, eq_of_modelName_suggests suggests]
    exact .inr fullWords.singularPascal_singularPascal
  · intro suffix decl fix fullWords suggests
    rw [controllerName_eq_pass_iff]
    exact .inr ⟨singularPascal (nounPart suffix decl.name), fullWords.singularPascal_ne_empty,
      eq_of_controllerName_suggests suggests, fullWords.singularPascal_singularPascal⟩

theorem accepted_nouns :
    modelName ⟨"BlogPost", .model, none⟩ = .pass ∧
      controllerName "Controller" ⟨"SalesPersonController", .controller, none⟩ = .pass := by
  obtain ⟨ofModel, ofController⟩ := noun_fix_accepted
  refine ⟨ofModel ⟨"blog_posts", .model, none⟩ "BlogPost" ?_ ?_,
    ofController "Controller" ⟨"SalesPeopleController", .controller, none⟩ "SalesPersonController" ?_ ?_⟩
    <;> decide +kernel

end Rules

end NamingAudit
