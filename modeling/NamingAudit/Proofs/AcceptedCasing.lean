import NamingAudit.Proofs.NounFixes

/-! What the rules for nouns accept, as to its casing. They compare a name with the noun in the style they
ask for and never look at the style itself. A model or a controller that passes is in Pascal case exactly
when its capitals stand apart, and a table in snake case exactly when it begins with a letter, other
characters than letters and digits aside. -/

namespace NamingAudit

namespace Casing
open NamingAudit.Text

variable {text : List Char}

/-- Letters and digits, a letter first, and no word of a single letter with another letter behind it. -/
structure IsSpelledApart (text : List Char) : Prop where
  ascii : ∀ c ∈ text, isAsciiAlphanumeric c = true
  begins : text.head?.any isAsciiLetter = true
  apart : CapitalsApart (words text)

instance (text : List Char) : Decidable (IsSpelledApart text) :=
  decidable_of_iff
    (text.all isAsciiAlphanumeric = true ∧ text.head?.any isAsciiLetter = true ∧
      CapitalsApart (words text))
    ⟨fun ⟨ascii, begins, apart⟩ => ⟨List.all_eq_true.mp ascii, begins, apart⟩,
      fun spelled => ⟨List.all_eq_true.mpr spelled.ascii, spelled.begins, spelled.apart⟩⟩

theorem isPascal_iff_of_toPascal
    (recased : (∀ c ∈ text, isAsciiAlphanumeric c = true) → toPascal text = text) :
    isPascal text = true ↔ IsSpelledApart text := by
  constructor
  · intro pascal
    have given := pascal
    rw [isPascal, Bool.and_eq_true, isCapitalizedWords_iff] at given
    obtain ⟨capital, ascii, _⟩ := given
    have begins := any_isAsciiLetter (.inl capital)
    have recasable := isRecasable_of_head? (fun c inside => .inl (ascii c inside)) begins
    rw [← recased ascii] at pascal
    exact ⟨ascii, begins, recasable.isPascal_toPascal_iff.mp pascal⟩
  · rintro ⟨ascii, begins, apart⟩
    have recasable := isRecasable_of_head? (fun c inside => .inl (ascii c inside)) begins
    have pascal := recasable.isPascal_toPascal_iff.mpr apart
    rwa [recased ascii] at pascal

end Casing

namespace Identifier
open NamingAudit.Casing NamingAudit.Inflection NamingAudit.Text

variable {name stem : String}

theorem mapLast_singularize_words (ascii : ∀ c ∈ name.toList, isAsciiAlphanumeric c = true)
    (accepted : singularPascal name = name) :
    mapLast singularize (Casing.words name.toList) = Casing.words name.toList := by
  have singular := singularize_lastWord ascii accepted
  rw [lastWord] at singular
  rcases List.eq_nil_or_concat (Casing.words name.toList) with none | ⟨front, last, split⟩
  · rw [none]
    rfl
  · rw [split, List.concat_eq_append, List.getLastD_concat] at singular
    rw [split, List.concat_eq_append, mapLast_concat, singular]

theorem toPascal_of_singularPascal (ascii : ∀ c ∈ name.toList, isAsciiAlphanumeric c = true)
    (accepted : singularPascal name = name) : toPascal name.toList = name.toList := by
  rw [singularPascal_eq, mapLast_singularize_words ascii accepted] at accepted
  rw [toPascal, ← String.toList_ofList (l := joinPascal _), accepted]

theorem toPascal_append {suffix : String} {c d : Char} {more : Word}
    (suffixWord : suffix.toList = capitalize (c :: d :: more)) (small : IsSmallWord (c :: d :: more))
    (letter : isAsciiLower c = true) (letterNext : isAsciiLower d = true)
    (ascii : ∀ c ∈ (stem ++ suffix).toList, isAsciiAlphanumeric c = true)
    (accepted : singularPascal stem = stem) :
    toPascal (stem ++ suffix).toList = (stem ++ suffix).toList := by
  rw [String.toList_append] at ascii ⊢
  have asciiStem := (List.forall_mem_append.mp ascii).1
  have plainStem : IsPlainText stem.toList := fun c inside => .inl (asciiStem c inside)
  have recased := toPascal_of_singularPascal asciiStem accepted
  rw [toPascal] at recased
  rw [suffixWord, toPascal, words_append_capitalize small letter letterNext plainStem,
    joinPascal_concat, recased]

theorem isSnake_iff_of_pluralSnake (accepted : pluralSnake name = name) : isSnake name = true ↔
    IsPlain name ∧ name.toList.head?.any isAsciiLetter = true := by
  constructor
  · intro snake
    have plain : IsPlain name := fun c inside =>
      (of_mem_of_isDelimitedLower snake inside).imp_left isAsciiAlphanumeric_of_isSmall
    rw [isSnake, Casing.isSnake, isDelimitedLower] at snake
    simp only [Bool.and_eq_true] at snake
    exact ⟨plain, any_isAsciiLetter (.inr snake.1.1.1)⟩
  · rintro ⟨plain, begins⟩
    have recasable := isRecasable_of_head? plain.isPlainText begins
    have small := isSmallWord_of_mem_mapLast isSmallWord_conventional fun _ => recasable.small _
    have joined : isDelimitedLower '_' (pluralSnake name).toList =
        (Casing.words name.toList).head?.any beginsWithLetter := by
      rw [pluralSnake_eq, String.toList_ofList, isDelimitedLower_joinWith rfl small,
        ← words_pluralSnake plain, accepted]
    rw [accepted, recasable.begins] at joined
    exact joined

end Identifier

namespace Rules
open NamingAudit.Identifier NamingAudit.Casing NamingAudit.Text

/-- A model or a controller that passes is in Pascal case exactly when it consists of letters and digits,
begins with a letter and has no word of a single letter with another letter behind it; a table that passes
is in snake case exactly when it consists of letters, digits and underscores and begins with a letter. -/
theorem accepted_casing_iff (decl : ClassDecl) (table : TableDecl) :
    (decl.role = .model → modelName decl = .pass →
      (isPascal decl.name = true ↔ IsSpelledApart decl.name.toList)) ∧
    (decl.role = .controller →
      controllerName RuleOptions.standard.controllerSuffix decl = .pass →
        (isPascal decl.name = true ↔ IsSpelledApart decl.name.toList)) ∧
    (table.isPivot = false → tableName table = .pass →
      (isSnake table.name = true ↔
        IsPlain table.name ∧ table.name.toList.head?.any isAsciiLetter = true)) := by
  refine ⟨?_, ?_, ?_⟩
  · intro ofModel passes
    have accepted := (modelName_eq_pass_iff.mp passes).resolve_left fun other => other ofModel
    exact isPascal_iff_of_toPascal fun ascii => toPascal_of_singularPascal ascii accepted
  · intro ofController passes
    obtain ⟨stem, _, named, singular⟩ :=
      (controllerName_eq_pass_iff.mp passes).resolve_left fun other => other ofController
    have suffixWord : RuleOptions.standard.controllerSuffix.toList =
        capitalize ['c', 'o', 'n', 't', 'r', 'o', 'l', 'l', 'e', 'r'] := rfl
    have small : IsSmallWord ['c', 'o', 'n', 't', 'r', 'o', 'l', 'l', 'e', 'r'] :=
      ⟨List.cons_ne_nil _ _, List.all_eq_true.mp rfl⟩
    refine isPascal_iff_of_toPascal fun ascii => ?_
    rw [named] at ascii ⊢
    exact toPascal_append suffixWord small rfl rfl ascii singular
  · intro ordinary passes
    have accepted := (tableName_eq_pass_iff.mp passes).resolve_left fun pivot => by
      rw [ordinary] at pivot
      contradiction
    exact isSnake_iff_of_pluralSnake accepted

theorem accepted_blog :
    isPascal "BlogPost" = true ∧ isPascal "BlogPostController" = true ∧
      isSnake "blog_posts" = true := by
  obtain ⟨ofModel, _, ofTable⟩ :=
    accepted_casing_iff ⟨"BlogPost", .model, none⟩ ⟨"blog_posts", none, false⟩
  obtain ⟨_, ofController, _⟩ :=
    accepted_casing_iff ⟨"BlogPostController", .controller, none⟩ ⟨"blog_posts", none, false⟩
  refine ⟨(ofModel rfl ?_).mpr ?_, (ofController rfl ?_).mpr ?_, (ofTable rfl ?_).mpr ?_⟩ <;>
    decide +kernel

/-- The first word of `IPhone` and of `XController` is a letter, and a table may begin with a digit. -/
theorem iPhone_passes :
    (modelName ⟨"IPhone", .model, none⟩ = .pass ∧ isPascal "IPhone" = false) ∧
    (controllerName RuleOptions.standard.controllerSuffix ⟨"XController", .controller, none⟩ = .pass ∧
      isPascal "XController" = false) ∧
    tableName ⟨"2fa_codes", none, false⟩ = .pass ∧ isSnake "2fa_codes" = false := by
  decide +kernel

end Rules

end NamingAudit
