import NamingAudit.Proofs.JoinSpecification

/-! What the foreign keys of a join can be relied on for. A declared model of a table gives way to a
lesser one that stands for the table by convention, and a column has several keys as soon as two
facts disagree on its model. -/

namespace NamingAudit.Composite
open Std

/-- The key that such a fact gives, when the join brings it out. -/
def Brings (facts : List Fact) (payload : Fact.Payload) (key : ForeignKeyRef) : Prop :=
  GivesKey (.ofFacts facts) payload key ∧ ∃ place, HasKey (join facts) place key

theorem modelFor_eq_declared_iff {facts : List Fact} {table model : String}
    (least : SortedMap.IsLeast compare (ModelIndex.Declared facts table) (some model)) :
    (ModelIndex.ofFacts facts).modelFor table = model ↔
      ∀ rival, ModelIndex.Conventional facts table rival → model ≤ rival := by
  obtain ⟨origin, below⟩ := ModelIndex.modelFor_isLeast least.1
  constructor
  · rintro rfl rival conventional
    exact isLE_compare.mp (below rival (Or.inr conventional))
  · intro unbeaten
    refine LawfulEqOrd.eq_of_compare (OrientedCmp.isLE_antisymm (below model (Or.inl least.1)) ?_)
    rcases origin with declared | conventional
    · exact least.2 _ declared
    · exact isLE_compare.mpr (unbeaten _ conventional)

theorem isIdentifier_modelFor {facts : List Fact} {table model : String}
    (declared : ModelIndex.Declared facts table model) :
    IsIdentifier ((ModelIndex.ofFacts facts).modelFor table) := by
  rcases (ModelIndex.modelFor_isLeast declared).1 with declared | conventional
  · exact (isIdentifier_of_declared declared).2
  · exact isIdentifier_of_conventional conventional

/-- A column that refers to a table with declared models has a key, and it names the least of those
models exactly when no lesser one stands for the table by convention. -/
theorem declared_model_wins_iff {facts : List Fact} {table model : String}
    (least : SortedMap.IsLeast compare (ModelIndex.Declared facts table) (some model))
    {column : Fact.Column} (present : ∃ fact ∈ facts, fact.payload = .column column)
    (refers : column.references = some table) :
    (∃ key, Brings facts (.column column) key) ∧
      ∀ key, Brings facts (.column column) key →
        (key.referencedModel = model ↔
          ∀ rival, ModelIndex.Conventional facts table rival → model ≤ rival) := by
  have gives : GivesKey (.ofFacts facts) (.column column) _ := .column refers
  obtain ⟨fact, member, content⟩ := present
  constructor
  · have modelNamed := (isIdentifier_modelFor least.1).1
    exact ⟨_, gives, ((join_isJoin facts).key_iff _).mpr
      ⟨column.inTable.1, modelNamed, fact, member, content ▸ gives⟩⟩
  · rintro key ⟨given, _⟩
    cases given with
    | column refersToo =>
      cases refers.symm.trans refersToo
      exact modelFor_eq_declared_iff least

def declaredBeforeClass : List Fact :=
  [⟨⟨⟨"database/schema.sql"⟩, 1, 1⟩, .table (.mk ⟨"people", some "Author", false⟩)⟩,
    ⟨⟨⟨"app/Models/Person.php"⟩, 3, 1⟩, .classDecl (.mk ⟨"Person", .model, none⟩)⟩,
    ⟨⟨⟨"database/schema.sql"⟩, 9, 3⟩, .column (.mk ⟨"posts", "author_id", some "people"⟩)⟩]

theorem declared_author_beats_person :
    ∃ key, Brings declaredBeforeClass (.column (.mk ⟨"posts", "author_id", some "people"⟩)) key ∧
      key.referencedModel = "Author" := by
  have declared (model : String) :
      ModelIndex.Declared declaredBeforeClass "people" model ↔ model = "Author" := by
    rw [← ModelIndex.mem_declared_iff]
    simp [declaredBeforeClass, ModelIndex.declared?]
  have least : SortedMap.IsLeast compare (ModelIndex.Declared declaredBeforeClass "people")
      (some "Author") := by
    refine ⟨(declared _).mpr rfl, fun model other => ?_⟩
    rw [(declared _).mp other]
    exact ReflCmp.isLE_rfl
  obtain ⟨⟨key, brings⟩, wins⟩ := declared_model_wins_iff least
    ⟨declaredBeforeClass[2], by simp [declaredBeforeClass], rfl⟩ rfl
  refine ⟨key, brings, (wins key brings).mpr ?_⟩
  rintro rival ⟨⟨fact, member, decl, content, _, rfl⟩, _⟩
  simp only [declaredBeforeClass, List.mem_cons, List.not_mem_nil, or_false] at member
  rcases member with rfl | rfl | rfl <;> cases content
  decide

def declaredAfterClass : List Fact :=
  [⟨⟨⟨"database/schema.sql"⟩, 1, 1⟩, .table (.mk ⟨"blog_entries", some "Post", false⟩)⟩,
    ⟨⟨⟨"app/Models/BlogEntry.php"⟩, 3, 1⟩, .classDecl (.mk ⟨"BlogEntry", .model, none⟩)⟩,
    ⟨⟨⟨"database/schema.sql"⟩, 9, 3⟩, .column (.mk ⟨"comments", "post_id", some "blog_entries"⟩)⟩]

/-- A class beats the only model that is declared for the table, since its name comes first. -/
theorem class_beats_declared_model :
    (∀ model, ModelIndex.Declared declaredAfterClass "blog_entries" model ↔ model = "Post") ∧
      join declaredAfterClass = [⟨⟨⟨"database/schema.sql"⟩, 9, 3⟩,
        .foreignKey (.mk ⟨"comments", "post_id", "BlogEntry"⟩)⟩] := by
  refine ⟨fun model => ?_, by decide +kernel⟩
  rw [← ModelIndex.mem_declared_iff]
  simp [declaredAfterClass, ModelIndex.declared?]

def SameColumn (one other : ForeignKeyRef) : Prop :=
  one.table = other.table ∧ one.column = other.column

def OnePerColumn (composites : List Fact) : Prop :=
  composites.Pairwise fun first second => ∀ one other, first.payload = .foreignKey one →
    second.payload = .foreignKey other → ¬ SameColumn one.toForeignKeyRef other.toForeignKeyRef

/-- Some fact gives the key, and neither its table nor its model is empty. -/
def IsGiven (facts : List Fact) (key : ForeignKeyRef) : Prop :=
  key.table ≠ "" ∧ key.referencedModel ≠ "" ∧
    ∃ fact ∈ facts, GivesKey (.ofFacts facts) fact.payload key

theorem onePerColumn_iff_of_ascending {composites : List Fact}
    (ascending : composites.Pairwise fun first second => compareNames first second = .lt) :
    OnePerColumn composites ↔ ∀ first ∈ composites, ∀ second ∈ composites, ∀ one other,
      first.payload = .foreignKey one → second.payload = .foreignKey other →
      SameColumn one.toForeignKeyRef other.toForeignKeyRef → one = other := by
  constructor
  · intro distinct first firstMember second secondMember one other firstKey secondKey same
    by_cases alike : first = second
    · subst alike
      exact Fact.Payload.foreignKey.inj (firstKey.symm.trans secondKey)
    · have symmetric : Symm fun first second : Fact => ∀ one other,
          first.payload = .foreignKey one → second.payload = .foreignKey other →
          ¬ SameColumn one.toForeignKeyRef other.toForeignKeyRef :=
        ⟨fun _ _ apart one other oneKey otherKey same =>
          apart other one otherKey oneKey ⟨same.1.symm, same.2.symm⟩⟩
      exact absurd same
        (distinct.forall firstMember secondMember alike one other firstKey secondKey)
  · intro agree
    refine ascending.imp_of_mem fun {first second} firstMember secondMember less one other firstKey
      secondKey same => ?_
    have keys := agree first firstMember second secondMember one other firstKey secondKey same
    have tie : compareNames first second = .eq := by
      simp [compareNames, compareLex, compareOn, Fact.kind, namesOf, firstKey, secondKey, keys,
        ReflCmp.compare_self]
    rw [tie] at less
    contradiction

theorem join_onePerColumn_iff (facts : List Fact) :
    OnePerColumn (join facts) ↔ ∀ one other, IsGiven facts one → IsGiven facts other →
      SameColumn one other → one.referencedModel = other.referencedModel := by
  rw [onePerColumn_iff_of_ascending (join_ascending facts)]
  have joined (key : ForeignKeyRef) := (join_isJoin facts).key_iff key
  constructor
  · intro agree one other oneGiven otherGiven same
    obtain ⟨place, first, rfl, member⟩ := (joined one).mpr oneGiven
    obtain ⟨otherPlace, second, rfl, otherMember⟩ := (joined other).mpr otherGiven
    rw [agree _ member _ otherMember first second rfl rfl same]
  · rintro agree ⟨place, _⟩ member ⟨otherPlace, _⟩ otherMember one other rfl rfl same
    have models := agree _ _ ((joined _).mp ⟨place, one, rfl, member⟩)
      ((joined _).mp ⟨otherPlace, other, rfl, otherMember⟩) same
    exact Fact.Key.eq_of_parts (ForeignKeyRef.ext same.1 same.2 models)

def keysOfComments : List Fact :=
  [⟨⟨⟨"app/Models/Comment.php"⟩, 9, 5⟩,
      .relation (.mk ⟨"Comment", "Post", .belongsTo, none, some "post_id"⟩)⟩,
    ⟨⟨⟨"database/schema.sql"⟩, 21, 3⟩, .column (.mk ⟨"comments", "post_id", some "posts"⟩)⟩,
    ⟨⟨⟨"database/schema.sql"⟩, 22, 3⟩, .column (.mk ⟨"comments", "author_id", some "users"⟩)⟩]

theorem onePerColumn_keysOfComments :
    OnePerColumn (join keysOfComments) ∧
      ∀ one other, IsGiven keysOfComments one → IsGiven keysOfComments other →
        SameColumn one other → one.referencedModel = other.referencedModel := by
  have joined : join keysOfComments =
      [⟨⟨⟨"database/schema.sql"⟩, 22, 3⟩, .foreignKey (.mk ⟨"comments", "author_id", "User"⟩)⟩,
        ⟨⟨⟨"app/Models/Comment.php"⟩, 9, 5⟩, .foreignKey (.mk ⟨"comments", "post_id", "Post"⟩)⟩] := by
    decide +kernel
  have distinct : OnePerColumn (join keysOfComments) := by
    rw [joined]
    simp [OnePerColumn, SameColumn]
  exact ⟨distinct, (join_onePerColumn_iff keysOfComments).mp distinct⟩

def keyWithTwoModels : List Fact :=
  [⟨⟨⟨"app/Models/Request.php"⟩, 15, 5⟩,
      .relation (.mk ⟨"Request", "HTTPClient", .belongsTo, none, some "client_id"⟩)⟩,
    ⟨⟨⟨"database/schema.sql"⟩, 30, 3⟩, .column (.mk ⟨"requests", "client_id", some "http_clients"⟩)⟩]

/-- The model that the relation names is spelled otherwise than the one behind the table. -/
theorem two_keys_for_one_column :
    join keyWithTwoModels =
        [⟨⟨⟨"app/Models/Request.php"⟩, 15, 5⟩, .foreignKey (.mk ⟨"requests", "client_id", "HTTPClient"⟩)⟩,
          ⟨⟨⟨"database/schema.sql"⟩, 30, 3⟩,
            .foreignKey (.mk ⟨"requests", "client_id", "HttpClient"⟩)⟩] ∧
      ¬ OnePerColumn (join keyWithTwoModels) := by
  have joined : join keyWithTwoModels =
      [⟨⟨⟨"app/Models/Request.php"⟩, 15, 5⟩, .foreignKey (.mk ⟨"requests", "client_id", "HTTPClient"⟩)⟩,
        ⟨⟨⟨"database/schema.sql"⟩, 30, 3⟩,
          .foreignKey (.mk ⟨"requests", "client_id", "HttpClient"⟩)⟩] := by
    decide +kernel
  refine ⟨joined, ?_⟩
  rw [joined]
  simp [OnePerColumn, SameColumn]

end NamingAudit.Composite
