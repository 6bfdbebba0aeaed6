import NamingAudit.Proofs.DeclaredModels
import NamingAudit.Proofs.ForeignKeys
import NamingAudit.Proofs.TableNames
import NamingAudit.Rules.ClassNames

/-! From a model to its conventional table and back. A Pascal case name has its words for what they are
written in, so the way back ends at the model exactly when the plural of its last word is brought back
to that word. Without declarations this decides whether a column and a relation find one model. -/

namespace NamingAudit

namespace Identifier
open NamingAudit.Casing NamingAudit.Inflection NamingAudit.Text

variable {model : String}

theorem singularPascal_eq (name : String) :
    singularPascal name = String.ofList (joinPascal (mapLast singularize (Casing.words name.toList))) :=
  rfl

theorem singularize_lastWord (ascii : ∀ c ∈ model.toList, isAsciiAlphanumeric c = true)
    (accepted : singularPascal model = model) : singularize (lastWord model) = lastWord model := by
  have small : ∀ word ∈ Casing.words model.toList, IsSmallWord word := fun word =>
    isSmallWord_of_mem_words fun c inside => Or.inl (ascii c inside)
  have smallToo := isSmallWord_of_mem_mapLast (fun word => isSmallWord_singularize) small
  have letters := congrArg (fun name => name.toList.map asciiLower) accepted
  simp only [singularPascal_eq, String.toList_ofList, map_asciiLower_joinPascal smallToo,
    map_asciiLower_eq_flatten ascii] at letters
  rw [lastWord]
  rcases List.eq_nil_or_concat (Casing.words model.toList) with none | ⟨front, last, split⟩
  · rw [none]
    rfl
  · rw [split, List.concat_eq_append, mapLast_concat] at letters
    rw [split, List.concat_eq_append, List.getLastD_concat]
    simpa using letters

theorem singularPascal_pluralSnake_iff (ascii : ∀ c ∈ model.toList, isAsciiAlphanumeric c = true)
    (accepted : singularPascal model = model) :
    singularPascal (pluralSnake model) = model ↔ losesSingular (lastWord model) = false := by
  have plain : IsPlain model := fun c inside => Or.inl (ascii c inside)
  have singular := singularize_lastWord ascii accepted
  have small : ∀ word ∈ Casing.words model.toList, IsSmallWord word := fun word =>
    isSmallWord_of_mem_words plain.isPlainText
  have sameWords : singularPascal (pluralSnake model) = model ↔
      joinPascal (mapLast singularize (mapLast conventional (Casing.words model.toList))) =
        joinPascal (mapLast singularize (Casing.words model.toList)) := by
    rw [singularPascal_eq, words_pluralSnake plain, ← String.ofList_inj, ← singularPascal_eq model,
      accepted]
  rw [sameWords]
  rw [lastWord] at singular ⊢
  rcases List.eq_nil_or_concat (Casing.words model.toList) with none | ⟨front, last, split⟩
  · rw [none]
    exact iff_of_true rfl short_words.1
  · rw [split, List.concat_eq_append, List.getLastD_concat] at singular
    have smallLast : IsSmallWord last := small last (by simp [split])
    have smallBack := isSmallWord_singularize (isSmallWord_pluralize smallLast)
    simp only [split, List.concat_eq_append, List.getLastD_concat, mapLast_concat, conventional,
      singular, joinPascal_concat, List.append_cancel_left_eq, capitalize_inj smallBack smallLast]
    exact singularize_pluralize_iff singular

end Identifier

namespace Rules
open NamingAudit.Identifier

theorem modelName_eq_pass_iff {decl : ClassDecl} :
    modelName decl = .pass ↔ decl.role ≠ .model ∨ singularPascal decl.name = decl.name := by
  rw [modelName]
  split
  · next other => simp_all
  · next ofModel =>
    dsimp only
    split
    · next same => simp [beq_iff_eq.mp same]
    · next other =>
      rw [beq_iff_eq] at other
      split <;> simp_all

end Rules

namespace Composite
open NamingAudit.Identifier NamingAudit.Inflection NamingAudit.Text

structure DeclaresNothing (facts : List Fact) : Prop where
  noTable : ∀ fact ∈ facts, ∀ decl, fact.payload ≠ .table decl
  noModel : ∀ fact ∈ facts, ∀ decl, fact.payload = .classDecl decl → decl.role ≠ .model

namespace DeclaresNothing

variable {facts : List Fact} (nothing : DeclaresNothing facts)
include nothing

theorem not_declared (table model : String) : ¬ ModelIndex.Declared facts table model := by
  rintro ⟨fact, member, decl, content, _⟩
  exact nothing.noTable fact member decl content

theorem modelFor_eq (table : String) :
    (ModelIndex.ofFacts facts).modelFor table = singularPascal table := by
  have least := ModelIndex.modelOfTable_isLeast facts table
  rw [ModelIndex.modelFor]
  cases found : (ModelIndex.ofFacts facts).modelOfTable.get? table with
  | none => rfl
  | some model =>
    rw [found] at least
    rcases least.1 with declared | ⟨⟨fact, member, decl, content, ofModel, _⟩, _⟩
    · exact absurd declared (nothing.not_declared table model)
    · exact absurd ofModel (nothing.noModel fact member decl content)

theorem tableFor_eq (model : String) :
    (ModelIndex.ofFacts facts).tableFor model = pluralSnake model := by
  have least := ModelIndex.tableOfModel_isLeast facts model
  rw [ModelIndex.tableFor]
  cases found : (ModelIndex.ofFacts facts).tableOfModel.get? model with
  | none => rfl
  | some table =>
    rw [found] at least
    exact absurd least.1 (nothing.not_declared table model)

end DeclaresNothing

/-- Each of them has a key in the join, and both keys name one model. -/
def NameOneModel (facts : List Fact) (one other : Fact.Payload) : Prop :=
  ∃ key keyToo, Brings facts one key ∧ Brings facts other keyToo ∧
    key.referencedModel = keyToo.referencedModel

theorem nameOneModel_iff {facts : List Fact} (nothing : DeclaresNothing facts)
    {column : Fact.Column} {relation : Fact.Relation}
    (presentColumn : ∃ fact ∈ facts, fact.payload = .column column)
    (presentRelation : ∃ fact ∈ facts, fact.payload = .relation relation) {referenced name : String}
    (refers : column.references = some referenced) (toOne : relation.relation = .belongsTo)
    (keyed : relation.foreignKey = some name) :
    NameOneModel facts (.column column) (.relation relation) ↔
      pluralSnake relation.model ≠ "" ∧ singularPascal referenced = relation.related := by
  have specified := join_isJoin facts
  have ofColumn (given : ForeignKeyRef) : GivesKey (.ofFacts facts) (.column column) given ↔
      given = ⟨column.table, column.name, singularPascal referenced⟩ := by
    rw [givesKey_column_iff refers, nothing.modelFor_eq]
  have ofRelation (given : ForeignKeyRef) : GivesKey (.ofFacts facts) (.relation relation) given ↔
      given = ⟨pluralSnake relation.model, name, relation.related⟩ := by
    rw [givesKey_relation_iff toOne keyed, nothing.tableFor_eq]
  constructor
  · rintro ⟨key, keyToo, ⟨given, _⟩, ⟨givenToo, joined⟩, same⟩
    obtain rfl := (ofColumn key).mp given
    obtain rfl := (ofRelation keyToo).mp givenToo
    exact ⟨((specified.key_iff _).mp joined).1, same⟩
  · rintro ⟨tableNamed, same⟩
    obtain ⟨columnFact, columnMember, columnContent⟩ := presentColumn
    obtain ⟨relationFact, relationMember, relationContent⟩ := presentRelation
    have modelNamed : relation.related ≠ "" := relation.relatedNamed.1
    have givesColumn := (ofColumn _).mpr rfl
    have givesRelation := (ofRelation _).mpr rfl
    exact ⟨_, _,
      ⟨givesColumn, (specified.key_iff _).mpr ⟨column.inTable.1,
        same ▸ modelNamed, columnFact, columnMember, columnContent ▸ givesColumn⟩⟩,
      ⟨givesRelation, (specified.key_iff _).mpr ⟨tableNamed, modelNamed, relationFact,
        relationMember, relationContent ▸ givesRelation⟩⟩, same⟩

/-- A model name of letters and digits, as it is in Pascal case, that passes is the singular of its
conventional table exactly when its last word does not lose its singular. Without declarations a column
that refers to this table and a relation to the model then name one model in the join, provided that
the model of the relation has a table. -/
theorem conventional_model_iff {decl : ClassDecl} (ofModel : decl.role = .model)
    (ascii : ∀ c ∈ decl.name.toList, isAsciiAlphanumeric c = true)
    (accepted : Rules.modelName decl = .pass) :
    (singularPascal (pluralSnake decl.name) = decl.name ↔
      losesSingular (lastWord decl.name) = false) ∧
    ∀ facts, DeclaresNothing facts → ∀ column relation name,
      (∃ fact ∈ facts, fact.payload = .column column) →
      (∃ fact ∈ facts, fact.payload = .relation relation) →
      column.references = some (pluralSnake decl.name) →
      relation.relation = .belongsTo → relation.related = decl.name →
      relation.foreignKey = some name →
      (NameOneModel facts (.column column) (.relation relation) ↔
        pluralSnake relation.model ≠ "" ∧ losesSingular (lastWord decl.name) = false) := by
  have singular : singularPascal decl.name = decl.name :=
    (Rules.modelName_eq_pass_iff.mp accepted).resolve_left fun other => other ofModel
  refine ⟨singularPascal_pluralSnake_iff ascii singular, ?_⟩
  intro facts nothing column relation name presentColumn presentRelation refers toOne toModel keyed
  rw [nameOneModel_iff nothing presentColumn presentRelation refers toOne keyed, toModel,
    singularPascal_pluralSnake_iff ascii singular]

def columnAndRelation (column : Fact.Column) (relation : Fact.Relation) : List Fact :=
  [⟨⟨⟨"app/Models/Comment.php"⟩, 15, 5⟩, .relation relation⟩,
    ⟨⟨⟨"database/schema.sql"⟩, 30, 3⟩, .column column⟩]

theorem blogCategory_named_twice :
    let column : Fact.Column := .mk ⟨"comments", "parent_id", some "blog_categories"⟩
    let relation : Fact.Relation :=
      .mk ⟨"Comment", "BlogCategory", .belongsTo, none, some "parent_id"⟩
    singularPascal (pluralSnake "BlogCategory") = "BlogCategory" ∧
      NameOneModel (columnAndRelation column relation) (.column column) (.relation relation) := by
  intro column relation
  have ascii : ∀ c ∈ "BlogCategory".toList, isAsciiAlphanumeric c = true :=
    List.all_eq_true.mp rfl
  have kept : losesSingular (lastWord "BlogCategory") = false := by decide +kernel
  have nothing : DeclaresNothing (columnAndRelation column relation) := by
    constructor <;> simp [columnAndRelation]
  obtain ⟨back_iff, named_iff⟩ :=
    @conventional_model_iff ⟨"BlogCategory", .model, none⟩ rfl ascii (by decide +kernel)
  refine ⟨back_iff.mpr kept, (named_iff _ nothing _ _ "parent_id" ?_ ?_ ?_ rfl rfl rfl).mpr
    ⟨by decide +kernel, kept⟩⟩
  · exact ⟨_, List.mem_cons_of_mem _ List.mem_cons_self, rfl⟩
  · exact ⟨_, List.mem_cons_self, rfl⟩
  · decide +kernel

/-- `Cache` passes as a model, and `caches` is read as the plural of `cach`. -/
theorem cache_named_cach :
    Rules.modelName ⟨"Cache", .model, none⟩ = .pass ∧ pluralSnake "Cache" = "caches" ∧
      singularPascal "caches" = "Cach" ∧
      join (columnAndRelation (.mk ⟨"comments", "parent_id", some "caches"⟩)
          (.mk ⟨"Comment", "Cache", .belongsTo, none, some "parent_id"⟩)) =
        [⟨⟨⟨"database/schema.sql"⟩, 30, 3⟩, .foreignKey (.mk ⟨"comments", "parent_id", "Cach"⟩)⟩,
          ⟨⟨⟨"app/Models/Comment.php"⟩, 15, 5⟩, .foreignKey (.mk ⟨"comments", "parent_id", "Cache"⟩)⟩] := by
  decide +kernel

end Composite

end NamingAudit
