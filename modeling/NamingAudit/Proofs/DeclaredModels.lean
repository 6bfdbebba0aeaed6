import NamingAudit.Proofs.JoinSpecification

/-! The two ways from names to names agree on models that the facts know. The table of such a model is
one that the model claims, by a declaration or by convention, so the model behind that table is the
same model unless another one claims the table too. Then a relation to the model and a column that
refers to its table are about one foreign key. -/

namespace NamingAudit.Composite
open Std

namespace ModelIndex

variable {facts : List Fact} {table model : String}

def Claims (facts : List Fact) (table model : String) : Prop :=
  Declared facts table model ∨ Conventional facts table model

def HasModel (facts : List Fact) (model : String) : Prop :=
  (∃ table, Declared facts table model) ∨
    ∃ fact ∈ facts, ∃ decl, fact.payload = .classDecl decl ∧ decl.role = .model ∧ decl.name = model

theorem HasModel.claims_tableFor (known : HasModel facts model) :
    Claims facts ((ofFacts facts).tableFor model) model := by
  have least := tableOfModel_isLeast facts model
  rw [tableFor]
  cases found : (ofFacts facts).tableOfModel.get? model with
  | some table =>
    rw [found] at least
    exact Or.inl least.1
  | none =>
    rw [found] at least
    rcases known with ⟨table, declared⟩ | inClass
    · exact absurd declared (least table)
    · exact Or.inr ⟨inClass, least, rfl⟩

theorem modelFor_of_sole_claim (claims : Claims facts table model)
    (sole : ∀ rival, Claims facts table rival → rival = model) :
    (ofFacts facts).modelFor table = model := by
  have least := modelOfTable_isLeast facts table
  rw [modelFor]
  cases found : (ofFacts facts).modelOfTable.get? table with
  | some winner =>
    rw [found] at least
    exact sole winner least.1
  | none =>
    rw [found] at least
    exact absurd claims (least model)

end ModelIndex

/-- Both facts give the key and no other, and it comes out of the join in one place, which is no later
than the places of the two. -/
structure Shares (facts : List Fact) (one other : Fact) (key : ForeignKeyRef) : Prop where
  given_iff : ∀ given, GivesKey (.ofFacts facts) one.payload given ↔ given = key
  givenToo_iff : ∀ given, GivesKey (.ofFacts facts) other.payload given ↔ given = key
  joined : ∃ place, (∀ found, HasKey (join facts) found key ↔ found = place) ∧
    (compare place one.location).isLE ∧ (compare place other.location).isLE

theorem givesKey_relation_iff {index : ModelIndex} {relation : Fact.Relation} {name : String}
    (toOne : relation.relation = .belongsTo) (keyed : relation.foreignKey = some name)
    (given : ForeignKeyRef) :
    GivesKey index (.relation relation) given ↔
      given = ⟨index.tableFor relation.model, name, relation.related⟩ := by
  constructor
  · intro gives
    cases gives with
    | relation _ keyedToo =>
      cases keyed.symm.trans keyedToo
      rfl
  · rintro rfl
    exact .relation toOne keyed

theorem givesKey_column_iff {index : ModelIndex} {column : Fact.Column} {referenced : String}
    (refers : column.references = some referenced) (given : ForeignKeyRef) :
    GivesKey index (.column column) given ↔
      given = ⟨column.table, column.name, index.modelFor referenced⟩ := by
  constructor
  · intro gives
    cases gives with
    | column refersToo =>
      cases refers.symm.trans refersToo
      rfl
  · rintro rfl
    exact .column refers

theorem shares_of_given {facts : List Fact} {one other : Fact} (present : one ∈ facts)
    (presentToo : other ∈ facts) {key : ForeignKeyRef}
    (given_iff : ∀ given, GivesKey (.ofFacts facts) one.payload given ↔ given = key)
    (givenToo_iff : ∀ given, GivesKey (.ofFacts facts) other.payload given ↔ given = key)
    (tableNamed : key.table ≠ "") (modelNamed : key.referencedModel ≠ "") :
    Shares facts one other key := by
  refine ⟨given_iff, givenToo_iff, ?_⟩
  have specified := join_isJoin facts
  have gives := (given_iff key).mpr rfl
  have givesToo := (givenToo_iff key).mpr rfl
  obtain ⟨place, joined⟩ :=
    (specified.key_iff key).mpr ⟨tableNamed, modelNamed, one, present, gives⟩
  have least := specified.key_least place key joined
  refine ⟨place, fun found => ⟨fun joinedToo => ?_, fun same => same ▸ joined⟩,
    least.2 _ ⟨one, present, gives, rfl⟩, least.2 _ ⟨other, presentToo, givesToo, rfl⟩⟩
  let names : Names := ⟨key.table, key.column, key.referencedModel⟩
  have stands := ((hasKey_join_iff facts names place).mp joined).1
  have standsToo := ((hasKey_join_iff facts names found).mp joinedToo).1
  exact Option.some.inj (standsToo.symm.trans stands)

/-- A model that the facts know and that alone claims its table is the model behind that table. So a
relation to the model with an explicit key and the column of that name, which refers to the table of
the model, share one foreign key. -/
theorem known_model_behind_its_table {facts : List Fact} {model : String}
    (known : ModelIndex.HasModel facts model)
    (sole : ∀ rival, ModelIndex.Claims facts ((ModelIndex.ofFacts facts).tableFor model) rival →
      rival = model) :
    (ModelIndex.ofFacts facts).modelFor ((ModelIndex.ofFacts facts).tableFor model) = model ∧
      (∀ one ∈ facts, ∀ other ∈ facts, ∀ relation column name,
        one.payload = .relation relation → relation.relation = .belongsTo →
        relation.related = model → relation.foreignKey = some name →
        other.payload = .column column → column.name = name →
        column.table = (ModelIndex.ofFacts facts).tableFor relation.model →
        column.references = some ((ModelIndex.ofFacts facts).tableFor model) →
        Shares facts one other ⟨column.table, name, model⟩) := by
  have behind := ModelIndex.modelFor_of_sole_claim known.claims_tableFor sole
  refine ⟨behind, ?_⟩
  intro one present other presentToo relation column name related toOne toModel keyed referring
    named inTable refers
  refine shares_of_given present presentToo (fun given => ?_) (fun given => ?_) ?_ ?_
  · rw [related, givesKey_relation_iff toOne keyed, toModel, inTable]
  · rw [referring, givesKey_column_iff refers, behind, named]
  · exact column.inTable.1
  · rw [← toModel]
    exact relation.relatedNamed.1

def modelsWithTables : List Fact :=
  [⟨⟨⟨"database/schema.sql"⟩, 1, 1⟩, .table (.mk ⟨"posts", some "Article", false⟩)⟩,
    ⟨⟨⟨"database/schema.sql"⟩, 8, 1⟩, .table (.mk ⟨"articles_archive", some "Article", false⟩)⟩,
    ⟨⟨⟨"app/Models/Article.php"⟩, 3, 1⟩, .classDecl (.mk ⟨"Article", .model, none⟩)⟩,
    ⟨⟨⟨"app/Models/Comment.php"⟩, 3, 1⟩, .classDecl (.mk ⟨"Comment", .model, none⟩)⟩,
    ⟨⟨⟨"app/Models/Comment.php"⟩, 9, 5⟩,
      .relation (.mk ⟨"Comment", "Article", .belongsTo, none, some "article_id"⟩)⟩,
    ⟨⟨⟨"database/schema.sql"⟩, 21, 3⟩,
      .column (.mk ⟨"comments", "article_id", some "articles_archive"⟩)⟩]

theorem article_behind_archive :
    (ModelIndex.ofFacts modelsWithTables).tableFor "Article" = "articles_archive" ∧
      (ModelIndex.ofFacts modelsWithTables).modelFor "articles_archive" = "Article" ∧
      Shares modelsWithTables modelsWithTables[4] modelsWithTables[5]
        ⟨"comments", "article_id", "Article"⟩ := by
  have table : (ModelIndex.ofFacts modelsWithTables).tableFor "Article" = "articles_archive" := by
    decide +kernel
  have declared : ModelIndex.Declared modelsWithTables "articles_archive" "Article" :=
    ModelIndex.mem_declared_iff.mp (by decide)
  have sole : ∀ rival, ModelIndex.Claims modelsWithTables
      ((ModelIndex.ofFacts modelsWithTables).tableFor "Article") rival → rival = "Article" := by
    rw [table]
    rintro rival (claimed | ⟨inClass, _, plural⟩)
    · rw [← ModelIndex.mem_declared_iff] at claimed
      simpa [modelsWithTables, ModelIndex.declared?] using claimed
    · obtain ⟨fact, member, decl, content, _, rfl⟩ := inClass
      simp only [modelsWithTables, List.mem_cons, List.not_mem_nil, or_false] at member
      rcases member with rfl | rfl | rfl | rfl | rfl | rfl <;> cases content <;>
        exact absurd plural (by decide +kernel)
  obtain ⟨behind, shared⟩ := known_model_behind_its_table (Or.inl ⟨_, declared⟩) sole
  refine ⟨table, table ▸ behind, ?_⟩
  exact shared _ (List.getElem_mem _) _ (List.getElem_mem _)
    (.mk ⟨"Comment", "Article", .belongsTo, none, some "article_id"⟩)
    (.mk ⟨"comments", "article_id", some "articles_archive"⟩) "article_id" rfl rfl rfl rfl rfl rfl
    (by decide +kernel) (congrArg some table.symm)

end NamingAudit.Composite
