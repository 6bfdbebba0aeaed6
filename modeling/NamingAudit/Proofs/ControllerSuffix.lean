import NamingAudit.Proofs.NounFixes

/-! How often the suffix of controllers stands in a suggested name. It is looked for in the text of the name,
but the noun before it is put together from the words. So the word comes a second time where the name ends in
another spelling of it, has its plural before it, or has its letters among the words one by one. -/

namespace NamingAudit

namespace Rules
open NamingAudit.Casing NamingAudit.Identifier NamingAudit.Inflection NamingAudit.Text

variable {decl : ClassDecl} {name : String} {parts front : List Word} {last : Word} {stem : List Char}

def controllerWord : Word := ['c', 'o', 'n', 't', 'r', 'o', 'l', 'l', 'e', 'r']

/-- Words of one letter each that spell the suffix and run on in Pascal case. -/
def SpellsController (parts : List Word) : Prop :=
  controllerWord.map (fun c => [c]) ∈ parts.splitBy runsOn

instance (parts : List Word) : Decidable (SpellsController parts) :=
  inferInstanceAs (Decidable (_ ∈ _))

theorem isSmallWord_controllerWord : IsSmallWord controllerWord :=
  ⟨List.cons_ne_nil _ _, List.all_eq_true.mp rfl⟩

theorem words_append_suffix (plain : IsPlainText stem) :
    Casing.words (stem ++ "Controller".toList) = Casing.words stem ++ [controllerWord] := by
  have capital : "Controller".toList = capitalize controllerWord := rfl
  rw [capital]
  exact words_append_capitalize isSmallWord_controllerWord rfl rfl plain

/-- No word runs on into the suffix, so that it is a word wherever it is the last one. -/
theorem controllerWord_mem_words_joinPascal_iff
    (small : ∀ word ∈ parts, IsSmallWord word)
    (others : ∀ word ∈ parts.dropLast, word ≠ controllerWord) :
    controllerWord ∈ Casing.words (joinPascal parts) ↔
      controllerWord ∈ parts ∨ SpellsController parts := by
  have letters : ∀ c ∈ controllerWord, isAsciiLower c = true := List.all_eq_true.mp rfl
  rw [mem_words_joinPascal_iff small letters, SpellsController]
  refine or_congr_left ⟨fun run => ?_, fun member => ?_⟩
  · rw [← List.flatten_splitBy runsOn parts]
    exact List.mem_flatten_of_mem run List.mem_cons_self
  · rcases List.eq_nil_or_concat parts with rfl | ⟨front, other, rfl⟩
    · exact absurd member List.not_mem_nil
    rw [List.concat_eq_append, List.dropLast_concat] at others
    rw [List.concat_eq_append, List.mem_append, List.mem_singleton] at member
    have same : controllerWord = other := member.resolve_left fun inside =>
      others controllerWord inside rfl
    subst same
    have seam : ∀ word ∈ front.getLast?, runsOn word controllerWord = false := by
      intro word _
      simp [runsOn, beginsWithLetter, controllerWord, isAsciiLower]
    rw [List.concat_eq_append, List.splitBy_append_cons [] seam]
    exact List.mem_append_right _ List.mem_cons_self

theorem isPlainText_joinPascal (small : ∀ word ∈ parts, IsSmallWord word) :
    IsPlainText (joinPascal parts) := by
  intro c inside
  obtain ⟨word, member, inWord⟩ := List.mem_flatMap.mp inside
  exact .inl (isAsciiAlphanumeric_of_mem_capitalize (small word member) c inWord)

theorem words_nounPart (plain : IsPlain name) (split : Casing.words name.toList = front ++ [last])
    (ends : endsWith "Controller".toList name.toList = true) :
    Casing.words (nounPart "Controller" name).toList = front := by
  obtain ⟨stem, spelled⟩ := endsWith_iff.mp ends
  have plainName := plain.isPlainText
  rw [spelled] at split plainName
  rw [words_append_suffix (List.forall_mem_append.mp plainName).1] at split
  rw [nounPart, spelled, beforeEnding?_append, Option.getD_some, String.toList_ofList]
  exact (List.append_inj' split rfl).1

theorem controllerWord_mem_of_not_endsWith (small : ∀ word ∈ front, IsSmallWord word) :
    controllerWord ∈ Casing.words (joinPascal (front ++ [controllerWord])) := by
  have capital : capitalize controllerWord = "Controller".toList := rfl
  rw [joinPascal_concat, capital, words_append_suffix (isPlainText_joinPascal small)]
  exact List.mem_append_right _ List.mem_cons_self

/-- The fix for a name whose last word is the suffix names the noun and has the suffix behind it. There is no
suffix in the noun as well, save from an earlier word, exactly when the name ends in the suffix as the rule
spells it, the word before is no plural of it, and no ten letters among the words spell it. -/
theorem controller_fix_single_iff {fix : String} (plain : IsPlain decl.name)
    (split : Casing.words decl.name.toList = front ++ [last]) (named : singularize last = controllerWord)
    (suggests : (controllerName RuleOptions.standard.controllerSuffix decl).Suggests fix) :
    ∃ noun, fix = noun ++ "Controller" ∧
      ((controllerWord ∈ Casing.words noun.toList → controllerWord ∈ front) ↔
        controllerWord ∈ front ∨ endsWith "Controller".toList decl.name.toList = true ∧
          controllerWord ∉ mapLast singularize front ∧
          ¬ SpellsController (mapLast singularize front)) := by
  refine ⟨singularPascal (nounPart "Controller" decl.name), eq_of_controllerName_suggests suggests, ?_⟩
  by_cases earlier : controllerWord ∈ front
  · exact iff_of_true (fun _ => earlier) (.inl earlier)
  rw [or_iff_right earlier, imp_iff_not earlier, singularPascal_eq, String.toList_ofList]
  have small : ∀ word ∈ front ++ [last], IsSmallWord word := fun word member =>
    isSmallWord_of_mem_words plain.isPlainText (split ▸ member)
  have smallFront := (List.forall_mem_append.mp small).1
  cases ends : endsWith "Controller".toList decl.name.toList with
  | true =>
    have smallNoun := isSmallWord_of_mem_mapLast (fun word => isSmallWord_singularize) smallFront
    have others : ∀ word ∈ (mapLast singularize front).dropLast, word ≠ controllerWord := by
      rintro word member rfl
      rw [dropLast_mapLast] at member
      exact earlier (List.mem_of_mem_dropLast member)
    rw [words_nounPart plain split ends, controllerWord_mem_words_joinPascal_iff smallNoun others, not_or,
      and_iff_right rfl]
  | false =>
    have whole : nounPart "Controller" decl.name = decl.name := by
      rw [nounPart, beforeEnding?_eq_none_iff.mpr ends, Option.getD_none, String.ofList_toList]
    refine iff_of_false (not_not_intro ?_) (by simp)
    rw [whole, split, mapLast_concat, named]
    exact controllerWord_mem_of_not_endsWith smallFront

theorem postsController_single : ∃ noun, "PostController" = noun ++ "Controller" ∧
    (controllerWord ∈ Casing.words noun.toList → controllerWord ∈ ["posts".toList]) := by
  obtain ⟨noun, same, single⟩ := @controller_fix_single_iff ⟨"PostsController", .controller, none⟩
    ["posts".toList] controllerWord "PostController" (by decide +kernel) (by decide +kernel)
    (by decide +kernel) (by decide +kernel)
  exact ⟨noun, same, single.mpr (.inr (by decide +kernel))⟩

/-- The suffix of `post_controller` is not the text that is looked for, so it is taken for a part of the
noun. -/
theorem postController_doubled :
    IsPlain "post_controller" ∧
      Casing.words "post_controller".toList = ["post".toList] ++ [controllerWord] ∧
      singularize controllerWord = controllerWord ∧
      (controllerName RuleOptions.standard.controllerSuffix
        ⟨"post_controller", .controller, none⟩).Suggests ("PostController" ++ "Controller") ∧
      ¬ (controllerWord ∈ Casing.words "PostController".toList → controllerWord ∈ ["post".toList]) := by
  decide +kernel

end Rules

end NamingAudit
