import NamingAudit.Text.Pieces

/-! Splitting and joining. Joining undoes splitting for every text, and splitting undoes joining when
there are pieces and none of them holds the separator. What stands before an ending, followed by the
ending, is the text, and endings are compared from the last letter on. -/

namespace NamingAudit.Text

variable {separator c : Char} {text : List Char} {pieces : List (List Char)}

theorem splitOn_eq (separator : Char) (text : List Char) :
    splitOn separator text = text.splitOn separator := by
  induction text with
  | nil => rfl
  | cons c rest ih =>
    rw [splitOn, ih, List.splitOn_eq_splitOnP, List.splitOn_eq_splitOnP,
      List.splitOnP_cons_eq_if_modifyHead]
    split
    case isTrue => rfl
    case isFalse =>
      split
      case h_1 none => exact absurd none (List.splitOn_ne_nil separator rest)
      case h_2 first others found => rw [found, List.modifyHead_cons]

theorem joinWith_splitOn (separator : Char) (text : List Char) :
    joinWith separator (splitOn separator text) = text := by
  rw [splitOn_eq, joinWith, List.intercalate_splitOn]

theorem splitOn_joinWith (clean : ∀ piece ∈ pieces, separator ∉ piece) (nonempty : pieces ≠ []) :
    splitOn separator (joinWith separator pieces) = pieces := by
  rw [splitOn_eq, joinWith, List.splitOn_intercalate separator clean nonempty]

theorem splitOn_ne_nil (separator : Char) (text : List Char) : splitOn separator text ≠ [] := by
  rw [splitOn_eq]
  exact List.splitOn_ne_nil separator text

theorem separator_not_mem {piece : List Char} (member : piece ∈ splitOn separator text) :
    separator ∉ piece := by
  induction text generalizing piece with
  | nil =>
    rw [splitOn, List.mem_singleton] at member
    rw [member]
    exact List.not_mem_nil
  | cons c rest ih =>
    rw [splitOn] at member
    split at member
    case isTrue =>
      rcases List.mem_cons.mp member with rfl | later
      · exact List.not_mem_nil
      · exact ih later
    case isFalse other =>
      have apart : separator ≠ c := fun same => other (by simp [same])
      split at member
      case h_1 =>
        rw [List.mem_singleton.mp member]
        simpa using apart
      case h_2 first others found =>
        have firstClean := ih (by simp [found] : first ∈ splitOn separator rest)
        rcases List.mem_cons.mp member with rfl | later
        · simp [apart, firstClean]
        · exact ih (by simp [found, later])

theorem joinWith_cons (separator : Char) (first second : List Char) (rest : List (List Char)) :
    joinWith separator (first :: second :: rest) =
      first ++ separator :: joinWith separator (second :: rest) := by
  simp [joinWith]

@[simp] theorem joinWith_singleton (separator : Char) (piece : List Char) :
    joinWith separator [piece] = piece := List.intercalate_singleton

theorem joinWith_cons_head (separator first : Char) (more : List Char) (rest : List (List Char)) :
    joinWith separator ((first :: more) :: rest) = first :: joinWith separator (more :: rest) := by
  cases rest <;> simp [joinWith_cons]

theorem mem_joinWith (member : c ∈ joinWith separator pieces) :
    c = separator ∨ ∃ piece ∈ pieces, c ∈ piece := by
  induction pieces with
  | nil => exact absurd member List.not_mem_nil
  | cons first rest ih =>
    cases rest with
    | nil =>
      rw [joinWith_singleton] at member
      exact Or.inr ⟨first, by simp, member⟩
    | cons second rest =>
      rw [joinWith_cons, List.mem_append, List.mem_cons] at member
      rcases member with inside | rfl | later
      · exact Or.inr ⟨first, by simp, inside⟩
      · exact Or.inl rfl
      · rcases ih later with same | ⟨piece, present, inside⟩
        · exact Or.inl same
        · exact Or.inr ⟨piece, by simp [present], inside⟩

theorem mem_joinWith_of_mem {piece : List Char} (present : piece ∈ pieces) (inside : c ∈ piece) :
    c ∈ joinWith separator pieces := by
  induction pieces with
  | nil => contradiction
  | cons first rest ih =>
    cases rest with
    | nil =>
      rw [joinWith_singleton]
      exact List.mem_singleton.mp present ▸ inside
    | cons second rest =>
      rw [joinWith_cons]
      rcases List.mem_cons.mp present with rfl | later
      · exact List.mem_append_left _ inside
      · exact List.mem_append_right _ (List.mem_cons_of_mem _ (ih later))

theorem mem_of_mem_splitOn {piece : List Char} (present : piece ∈ splitOn separator text)
    (inside : c ∈ piece) : c ∈ text := by
  rw [← joinWith_splitOn separator text]
  exact mem_joinWith_of_mem present inside

theorem splitOn_append_separator (separator : Char) (front rest : List Char) :
    splitOn separator (front ++ separator :: rest) =
      splitOn separator front ++ splitOn separator rest := by
  induction front with
  | nil => simp [splitOn]
  | cons c front ih =>
    rw [List.cons_append, splitOn, splitOn, ih]
    split
    · rfl
    · cases pieces : splitOn separator front with
      | nil => exact absurd pieces (splitOn_ne_nil separator front)
      | cons first others => rfl

theorem length_splitOn (separator : Char) (text : List Char) :
    (splitOn separator text).length = text.count separator + 1 := by
  induction text with
  | nil => rfl
  | cons c rest ih =>
    rw [splitOn, List.count_cons]
    split
    · rw [List.length_cons, ih]
    · cases pieces : splitOn separator rest with
      | nil => exact absurd pieces (splitOn_ne_nil separator rest)
      | cons first others =>
        rw [pieces] at ih
        simpa using ih

theorem splitOn_of_not_mem {separator : Char} {text : List Char} (whole : separator ∉ text) :
    splitOn separator text = [text] := by
  have joined : splitOn separator (joinWith separator [text]) = [text] :=
    splitOn_joinWith (by simpa using whole) (by simp)
  rwa [joinWith_singleton] at joined

theorem beforeEnding?_eq_some_iff {ending stem : List Char} :
    beforeEnding? ending text = some stem ↔ text = stem ++ ending := by
  rw [beforeEnding?, endsWith]
  split
  case isTrue fits =>
    obtain ⟨front, rfl⟩ := List.isSuffixOf_iff_suffix.mp fits
    simp
  case isFalse other =>
    constructor
    · intro found
      contradiction
    · rintro rfl
      exact absurd (List.isSuffixOf_iff_suffix.mpr (List.suffix_append stem ending)) other

theorem afterBeginning?_eq_some_iff {beginning rest : List Char} :
    afterBeginning? beginning text = some rest ↔ text = beginning ++ rest := by
  rw [afterBeginning?, startsWith]
  split
  case isTrue fits =>
    obtain ⟨behind, rfl⟩ := List.isPrefixOf_iff_prefix.mp fits
    simp
  case isFalse other =>
    constructor
    · intro found
      contradiction
    · rintro rfl
      exact absurd (List.isPrefixOf_iff_prefix.mpr (List.prefix_append beginning rest)) other

section Ending
variable {stem ending : List Char}

theorem endsWith_iff : endsWith ending text = true ↔ ∃ stem, text = stem ++ ending := by
  rw [endsWith, List.isSuffixOf_iff_suffix]
  exact ⟨fun ⟨stem, same⟩ => ⟨stem, same.symm⟩, fun ⟨stem, same⟩ => ⟨stem, same.symm⟩⟩

theorem endsWith_concat (ending stem : List Char) (last c : Char) :
    endsWith (ending ++ [last]) (stem ++ [c]) = (last == c && endsWith ending stem) := by
  simp [endsWith, List.isSuffixOf, List.isPrefixOf]

@[simp] theorem endsWith_nil (text : List Char) : endsWith [] text = true := by
  simp [endsWith, List.isSuffixOf]

@[simp] theorem endsWith_last (stem : List Char) (last c : Char) :
    endsWith [last] (stem ++ [c]) = (last == c) := by
  simpa using endsWith_concat [] stem last c

@[simp] theorem endsWith_lastTwo (stem : List Char) (first last c : Char) :
    endsWith [first, last] (stem ++ [c]) = (last == c && endsWith [first] stem) :=
  endsWith_concat [first] stem last c

theorem endsWith_lastThree (stem : List Char) (first second last c : Char) :
    endsWith [first, second, last] (stem ++ [c]) =
      (last == c && endsWith [first, second] stem) :=
  endsWith_concat [first, second] stem last c

theorem endsWith_of_append (front : List Char) (fits : endsWith (front ++ ending) text = true) :
    endsWith ending text = true := by
  obtain ⟨stem, rfl⟩ := endsWith_iff.mp fits
  exact endsWith_iff.mpr ⟨stem ++ front, by simp⟩

@[simp] theorem beforeEnding?_append (stem ending : List Char) :
    beforeEnding? ending (stem ++ ending) = some stem :=
  beforeEnding?_eq_some_iff.mpr rfl

theorem beforeEnding?_concat (ending stem : List Char) (c : Char) :
    beforeEnding? (ending ++ [c]) (stem ++ [c]) = beforeEnding? ending stem := by
  ext front
  rw [beforeEnding?_eq_some_iff, beforeEnding?_eq_some_iff, ← List.append_assoc,
    List.append_cancel_right_eq]

theorem beforeEnding?_eq_none_iff :
    beforeEnding? ending text = none ↔ endsWith ending text = false := by
  rw [beforeEnding?]
  split <;> simp_all

end Ending

end NamingAudit.Text
