import NamingAudit.Identifier
import NamingAudit.Proofs.Words

/-! Names that are derived from other names hold no white space. A change of number adds small ASCII
letters at most, and the words of an identifier have none, whatever the identifier is. So a derived
name is fit for a fact unless it is empty. -/

namespace NamingAudit

namespace Inflection
open NamingAudit.Casing NamingAudit.Text

variable {word : Word} {c : Char}

theorem irregular_letters :
    ∀ entry ∈ irregular, entry.1.all isAsciiLower = true ∧ entry.2.all isAsciiLower = true := by
  decide +kernel

private theorem mem_dropFinalS (member : c ∈ dropFinalS word) : c ∈ word := by
  unfold dropFinalS at member
  split at member
  · exact member
  · split at member
    case h_1 stem found =>
      rw [beforeEnding?_eq_some_iff.mp found]
      split at member
      · rwa [← beforeEnding?_eq_some_iff.mp found]
      · exact List.mem_append_left _ member
    case h_2 => exact member

private theorem mem_singularOfEs (member : c ∈ singularOfEs word) : c ∈ word := by
  unfold singularOfEs at member
  split at member
  case h_1 stem found =>
    split at member
    · rw [beforeEnding?_eq_some_iff.mp found]
      exact List.mem_append_left _ member
    · exact mem_dropFinalS member
  case h_2 => exact mem_dropFinalS member

theorem mem_singularize (member : c ∈ singularize word) : c ∈ word ∨ isAsciiLower c = true := by
  unfold singularize at member
  split at member
  · exact Or.inl member
  · split at member
    case h_1 singular plural found =>
      have letters := (irregular_letters _ (List.mem_of_find?_eq_some found)).1
      exact Or.inr (List.all_eq_true.mp letters c member)
    case h_2 =>
      split at member
      · exact Or.inl member
      · unfold regularSingular at member
        split at member
        case h_1 stem found =>
          have fits := (Option.filter_eq_some_iff.mp found).1
          rw [beforeEnding?_eq_some_iff.mp fits]
          rcases List.mem_append.mp member with inside | last
          · exact Or.inl (List.mem_append_left _ inside)
          · rw [List.mem_singleton.mp last]
            exact Or.inr rfl
        case h_2 =>
          split at member
          · exact Or.inl member
          · exact Or.inl (mem_singularOfEs member)

theorem mem_pluralize (member : c ∈ pluralize word) : c ∈ word ∨ isAsciiLower c = true := by
  have appended {front ending : Word} (letters : ending.all isAsciiLower = true)
      (kept : ∀ c ∈ front, c ∈ word) (member : c ∈ front ++ ending) :
      c ∈ word ∨ isAsciiLower c = true :=
    (List.mem_append.mp member).imp (kept c) (List.all_eq_true.mp letters c)
  unfold pluralize at member
  split at member
  · exact Or.inl member
  · split at member
    case h_1 singular plural found =>
      have letters := (irregular_letters _ (List.mem_of_find?_eq_some found)).2
      exact Or.inr (List.all_eq_true.mp letters c member)
    case h_2 =>
      split at member
      · exact Or.inl member
      · unfold regularPlural at member
        split at member
        case h_1 stem found =>
          split at member
          · exact appended rfl (fun _ => id) member
          · refine appended rfl (fun d inside => ?_) member
            rw [beforeEnding?_eq_some_iff.mp found]
            exact List.mem_append_left _ inside
        case h_2 => split at member <;> exact appended rfl (fun _ => id) member

end Inflection

namespace Identifier
open NamingAudit.Casing NamingAudit.Inflection NamingAudit.Text

variable {word : Word} {words : List Word}

def IsBlankless (word : Word) : Prop := ∀ c ∈ word, isBlank c = false

theorem isBlank_of_isAsciiLower {c : Char} (small : isAsciiLower c = true) : isBlank c = false := by
  cases blank : isBlank c with
  | false => rfl
  | true =>
    have caseless := isCaseless_of_isBlank blank
    simp [isCaseless, small] at caseless

theorem isBlankless_singularize (blankless : IsBlankless word) : IsBlankless (singularize word) :=
  fun c member => (mem_singularize member).elim (blankless c) isBlank_of_isAsciiLower

theorem isBlankless_pluralize (blankless : IsBlankless word) : IsBlankless (pluralize word) :=
  fun c member => (mem_pluralize member).elim (blankless c) isBlank_of_isAsciiLower

theorem isBlankless_of_mem_words {ident : List Char} (member : word ∈ Casing.words ident) :
    IsBlankless word := by
  intro c inside
  have kept := isDelimiter_of_mem_word member inside
  simp only [isDelimiter, Bool.or_eq_false_iff] at kept
  exact kept.2

theorem exists_of_mem_mapLast {change : Word → Word} (member : word ∈ mapLast change words) :
    ∃ origin ∈ words, word = origin ∨ word = change origin := by
  induction words with
  | nil => exact absurd member List.not_mem_nil
  | cons first rest ih =>
    cases rest with
    | nil => exact ⟨first, by simp, Or.inr (List.mem_singleton.mp member)⟩
    | cons second rest =>
      rcases List.mem_cons.mp member with rfl | later
      · exact ⟨word, by simp, Or.inl rfl⟩
      · obtain ⟨origin, present, made⟩ := ih later
        exact ⟨origin, List.mem_cons_of_mem first present, made⟩

theorem isBlankless_of_mem_mapLast {change : Word → Word}
    (changed : ∀ word, IsBlankless word → IsBlankless (change word))
    (blankless : ∀ word ∈ words, IsBlankless word) (member : word ∈ mapLast change words) :
    IsBlankless word := by
  obtain ⟨origin, present, rfl | rfl⟩ := exists_of_mem_mapLast member
  · exact blankless _ present
  · exact changed _ (blankless _ present)

theorem isBlankless_joinWith {separator : Char} (solid : isBlank separator = false)
    (blankless : ∀ word ∈ words, IsBlankless word) : IsBlankless (joinWith separator words) := by
  intro c member
  rcases mem_joinWith member with rfl | ⟨word, present, inside⟩
  · exact solid
  · exact blankless word present c inside

theorem isBlankless_joinPascal (blankless : ∀ word ∈ words, IsBlankless word) :
    IsBlankless (joinPascal words) := by
  intro c member
  cases blank : isBlank c with
  | false => rfl
  | true =>
    obtain ⟨word, present, inside⟩ := List.mem_flatMap.mp member
    have kept := blankless word present c
      (mem_of_mem_capitalize (isCaseless_of_isBlank blank) inside)
    rw [blank] at kept
    contradiction

theorem isBlankless_singularPascal (ident : String) :
    IsBlankless (singularPascal ident).toList := by
  rw [singularPascal, String.toList_ofList]
  exact isBlankless_joinPascal fun _ => isBlankless_of_mem_mapLast
    (fun _ => isBlankless_singularize) (fun _ => isBlankless_of_mem_words)

theorem isBlankless_singularSnake (ident : String) : IsBlankless (singularSnake ident).toList := by
  rw [singularSnake, String.toList_ofList]
  exact isBlankless_joinWith rfl fun _ => isBlankless_of_mem_mapLast
    (fun _ => isBlankless_singularize) (fun _ => isBlankless_of_mem_words)

theorem isBlankless_pluralSnake (ident : String) : IsBlankless (pluralSnake ident).toList := by
  rw [pluralSnake, String.toList_ofList]
  exact isBlankless_joinWith rfl fun _ => isBlankless_of_mem_mapLast
    (fun _ blankless => isBlankless_pluralize (isBlankless_singularize blankless))
    (fun _ => isBlankless_of_mem_words)

theorem isBlankless_iff {value : String} : IsBlankless value.toList ↔ hasBlank value = false := by
  simp [IsBlankless, hasBlank]

theorem hasBlank_pluralSnake (ident : String) : hasBlank (pluralSnake ident) = false :=
  isBlankless_iff.mp (isBlankless_pluralSnake ident)

theorem hasBlank_singularPascal (ident : String) : hasBlank (singularPascal ident) = false :=
  isBlankless_iff.mp (isBlankless_singularPascal ident)

end Identifier

end NamingAudit
