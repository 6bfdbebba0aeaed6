import NamingAudit.Proofs.Names
import NamingAudit.Proofs.Plurals
import NamingAudit.Proofs.SmallWords
import NamingAudit.Rules.Database

/-! Table names made by convention. Such a name can be taken apart into its words again, and whether it is
its own plural depends on the last of them. -/

namespace NamingAudit

namespace Inflection
open NamingAudit.Casing NamingAudit.Text

variable {word : Word}

theorem isSmallWord_pluralize (small : IsSmallWord word) : IsSmallWord (pluralize word) :=
  ⟨pluralize_ne_nil small.1, fun c member =>
    (mem_pluralize member).elim (small.2 c) fun letter => by simp [isSmall, letter]⟩

theorem isSmallWord_singularize (small : IsSmallWord word) : IsSmallWord (singularize word) :=
  ⟨singularize_ne_nil small.1, fun c member =>
    (mem_singularize member).elim (small.2 c) fun letter => by simp [isSmall, letter]⟩

end Inflection

namespace Identifier
open NamingAudit.Casing NamingAudit.Inflection NamingAudit.Text

variable {change : Word → Word} {name : String}

theorem mapLast_concat (change : Word → Word) (front : List Word) (last : Word) :
    mapLast change (front ++ [last]) = front ++ [change last] := by
  induction front with
  | nil => rfl
  | cons first front ih =>
    cases front with
    | nil => rfl
    | cons second front => exact congrArg (first :: ·) ih

theorem dropLast_mapLast (change : Word → Word) (words : List Word) :
    (mapLast change words).dropLast = words.dropLast := by
  rcases List.eq_nil_or_concat words with rfl | ⟨front, last, rfl⟩
  · rfl
  · rw [List.concat_eq_append, mapLast_concat, List.dropLast_concat, List.dropLast_concat]

theorem isSmallWord_of_mem_mapLast
    (changed : ∀ word, IsSmallWord word → IsSmallWord (change word)) {words : List Word}
    (small : ∀ word ∈ words, IsSmallWord word) :
    ∀ word ∈ mapLast change words, IsSmallWord word := by
  intro word member
  obtain ⟨origin, present, rfl | rfl⟩ := exists_of_mem_mapLast member
  · exact small _ present
  · exact changed _ (small _ present)

def conventional (word : Word) : Word := pluralize (singularize word)

theorem pluralSnake_eq (name : String) :
    pluralSnake name =
      String.ofList (joinWith '_' (mapLast conventional (Casing.words name.toList))) := rfl

theorem isSmallWord_conventional (word : Word) (small : IsSmallWord word) :
    IsSmallWord (conventional word) :=
  isSmallWord_pluralize (isSmallWord_singularize small)

def IsPlain (name : String) : Prop :=
  ∀ c ∈ name.toList, isAsciiAlphanumeric c = true ∨ c = '_'

instance (name : String) : Decidable (IsPlain name) :=
  decidable_of_iff ((name.toList.all fun c => isAsciiAlphanumeric c || c == '_') = true)
    (by simp [IsPlain])

theorem IsPlain.isPlainText (plain : IsPlain name) : IsPlainText name.toList :=
  fun c inside => (plain c inside).imp_right fun same => by simp [same, isDelimiter]

theorem words_pluralSnake (plain : IsPlain name) :
    Casing.words (pluralSnake name).toList = mapLast conventional (Casing.words name.toList) := by
  rw [pluralSnake_eq, String.toList_ofList]
  exact words_joinWith rfl (isSmallWord_of_mem_mapLast isSmallWord_conventional
    fun word => isSmallWord_of_mem_words plain.isPlainText)

def lastWord (name : String) : Word := (Casing.words name.toList).getLastD []

theorem pluralSnake_pluralSnake_iff (plain : IsPlain name) :
    pluralSnake (pluralSnake name) = pluralSnake name ↔
      losesPlural (singularize (lastWord name)) = false := by
  have small := isSmallWord_of_mem_mapLast isSmallWord_conventional
    fun word => isSmallWord_of_mem_words plain.isPlainText
  have again := isSmallWord_of_mem_mapLast isSmallWord_conventional small
  have sameWords : pluralSnake (pluralSnake name) = pluralSnake name ↔
      mapLast conventional (mapLast conventional (Casing.words name.toList)) =
        mapLast conventional (Casing.words name.toList) := by
    have boundary : isDelimiter '_' = true := rfl
    rw [pluralSnake_eq (pluralSnake name), words_pluralSnake plain, pluralSnake_eq,
      String.ofList_inj, joinWith_eq_iff boundary again small]
  rw [sameWords, lastWord]
  rcases List.eq_nil_or_concat (Casing.words name.toList) with none | ⟨front, last, split⟩
  · rw [none]
    exact iff_of_true rfl short_words.2.1
  · rw [split, List.concat_eq_append, List.getLastD_concat, mapLast_concat, mapLast_concat,
      List.append_cancel_left_eq]
    simpa [conventional] using pluralize_singularize_iff (singularize_singularize last)

end Identifier

namespace Rules
open NamingAudit.Identifier NamingAudit.Inflection

theorem tableName_eq_pass_iff {decl : TableDecl} :
    tableName decl = .pass ↔ decl.isPivot = true ∨ pluralSnake decl.name = decl.name := by
  rw [tableName]
  split
  · next pivot => simp [pivot]
  · next ordinary =>
    dsimp only
    split
    · next same => simp [beq_iff_eq.mp same]
    · next other =>
      rw [beq_iff_eq] at other
      simp [ordinary, other]

/-- The conventional table of a name is its own conventional table, and so passes as the name of a
table, exactly when the last word of the name does not lose its plural. Pivot tables pass in any
case. -/
theorem tableName_conventional_iff {name : String} (plain : IsPlain name) :
    (pluralSnake (pluralSnake name) = pluralSnake name ↔
      losesPlural (singularize (lastWord name)) = false) ∧
    ∀ decl : TableDecl, decl.name = pluralSnake name →
      (tableName decl = .pass ↔
        decl.isPivot = true ∨ losesPlural (singularize (lastWord name)) = false) := by
  refine ⟨pluralSnake_pluralSnake_iff plain, fun decl named => ?_⟩
  rw [tableName_eq_pass_iff, named, pluralSnake_pluralSnake_iff plain]

theorem blogCategories_pass :
    pluralSnake (pluralSnake "BlogCategory") = pluralSnake "BlogCategory" ∧
      tableName ⟨"blog_categories", some "BlogCategory", false⟩ = .pass := by
  have ascii : ∀ c ∈ "BlogCategory".toList, Text.isAsciiAlphanumeric c = true :=
    List.all_eq_true.mp rfl
  have plain : IsPlain "BlogCategory" := fun c member => Or.inl (ascii c member)
  obtain ⟨settled_iff, pass_iff⟩ := tableName_conventional_iff plain
  have kept : losesPlural (singularize (lastWord "BlogCategory")) = false := by decide +kernel
  exact ⟨settled_iff.mpr kept, (pass_iff ⟨"blog_categories", some "BlogCategory", false⟩
    (by decide +kernel)).mpr (Or.inr kept)⟩

/-- `menus` is what the rule asks for in place of `menu`, and it refuses that too. -/
theorem menus_flagged :
    pluralSnake "menu" = "menus" ∧ pluralSnake "menus" = "menuses" ∧
      tableName ⟨"menus", none, false⟩ =
        .violation
          (.replacing "Table names must be plural snake_case: expected `menuses`" "menuses") := by
  decide +kernel

end Rules

end NamingAudit
