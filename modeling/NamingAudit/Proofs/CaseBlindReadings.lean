import NamingAudit.Proofs.RoutePaths
import NamingAudit.Proofs.SmallWords

/-! What can be read off a text whatever its casing. A reading goes character by character; it takes a
letter for the same in either case and passes over delimiters. To such a reading all casing styles of a
text are alike, and so are a path and what the rules on paths make of it. -/

namespace NamingAudit

namespace Casing
open NamingAudit.Text

variable {read : Char → List Char} {fits : Char → Prop} {text : List Char} {word : Word}
  {parts : List Word} {separator : Char}

/-- Among the characters that fit, a change of case makes no difference to what is read. -/
structure IsCaseBlind (read : Char → List Char) (fits : Char → Prop) : Prop where
  fits_lower : ∀ c d, fits c → d ∈ lower c → fits d
  read_lower : ∀ c, fits c → (lower c).flatMap read = read c
  read_upper : ∀ c, fits c → (upper c).flatMap read = read c
  read_delimiter : ∀ c, isDelimiter c = true → read c = []

theorem read_joinWith (silent : read separator = []) (pieces : List (List Char)) :
    (joinWith separator pieces).flatMap read = pieces.flatten.flatMap read := by
  induction pieces with
  | nil => rfl
  | cons first rest ih =>
    cases rest with
    | nil => simp
    | cons second rest =>
      rw [joinWith_cons, List.flatMap_append, List.flatMap_cons, silent, List.nil_append, ih]
      simp

theorem read_joinWith_map {change : List Char → List Char} {pieces : List (List Char)}
    (same : ∀ piece ∈ pieces, (change piece).flatMap read = piece.flatMap read) :
    (joinWith separator (pieces.map change)).flatMap read =
      (joinWith separator pieces).flatMap read := by
  induction pieces with
  | nil => rfl
  | cons first rest ih =>
    rw [List.forall_mem_cons] at same
    cases rest with
    | nil => simpa using same.1
    | cons second rest =>
      have later := ih same.2
      rw [List.map_cons] at later
      rw [List.map_cons, List.map_cons, joinWith_cons, joinWith_cons, List.flatMap_append,
        List.flatMap_append, List.flatMap_cons, List.flatMap_cons, same.1, later]

namespace IsCaseBlind
variable (blind : IsCaseBlind read fits)
include blind

theorem read_filter (text : List Char) :
    (text.filter fun c => !isDelimiter c).flatMap read = text.flatMap read := by
  induction text with
  | nil => rfl
  | cons c rest ih =>
    rw [List.filter_cons]
    cases delimiter : isDelimiter c with
    | true => simp [ih, blind.read_delimiter c delimiter]
    | false => simp [ih]

theorem read_words (fitting : ∀ c ∈ text, fits c) :
    (words text).flatten.flatMap read = text.flatMap read := by
  have lowered : (text.filter fun c => !isDelimiter c).flatMap (fun c => (lower c).flatMap read) =
      (text.filter fun c => !isDelimiter c).flatMap read :=
    List.flatMap_congr fun c inside => blind.read_lower c (fitting c (List.mem_filter.mp inside).1)
  rw [flatten_words, List.flatMap_assoc, lowered, blind.read_filter]

theorem fits_of_mem_words (fitting : ∀ c ∈ text, fits c) : ∀ word ∈ words text, ∀ c ∈ word, fits c := by
  intro word member c inside
  obtain ⟨origin, present, _, reached⟩ := origin_of_mem_word member inside
  exact blind.fits_lower origin c (fitting origin present) reached

theorem read_capitalize (fitting : ∀ c ∈ word, fits c) :
    (capitalize word).flatMap read = word.flatMap read := by
  cases word with
  | nil => rfl
  | cons first rest =>
    rw [capitalize, List.flatMap_append, List.flatMap_cons,
      blind.read_upper first (fitting first List.mem_cons_self)]

theorem read_joinPascal (fitting : ∀ word ∈ parts, ∀ c ∈ word, fits c) :
    (joinPascal parts).flatMap read = parts.flatten.flatMap read := by
  have raised : parts.flatMap (fun word => (capitalize word).flatMap read) =
      parts.flatMap fun word => word.flatMap read :=
    List.flatMap_congr fun word member => blind.read_capitalize (fitting word member)
  rw [joinPascal, List.flatMap_assoc, raised, ← List.flatMap_assoc, List.flatMap_id']

theorem read_toSnake (fitting : ∀ c ∈ text, fits c) :
    (toSnake text).flatMap read = text.flatMap read := by
  rw [toSnake, read_joinWith (blind.read_delimiter '_' rfl), blind.read_words fitting]

theorem read_toKebab (fitting : ∀ c ∈ text, fits c) :
    (toKebab text).flatMap read = text.flatMap read := by
  rw [toKebab, read_joinWith (blind.read_delimiter '-' rfl), blind.read_words fitting]

theorem read_toPascal (fitting : ∀ c ∈ text, fits c) :
    (toPascal text).flatMap read = text.flatMap read := by
  rw [toPascal, blind.read_joinPascal (blind.fits_of_mem_words fitting), blind.read_words fitting]

theorem read_toCamel (fitting : ∀ c ∈ text, fits c) :
    (toCamel text).flatMap read = text.flatMap read := by
  have fittingWords := blind.fits_of_mem_words fitting
  rw [← blind.read_words fitting, toCamel]
  cases found : words text with
  | nil => rfl
  | cons first rest =>
    rw [found, List.forall_mem_cons] at fittingWords
    rw [joinCamel, List.flatMap_append, blind.read_joinPascal fittingWords.2, List.flatten_cons,
      List.flatMap_append]

end IsCaseBlind

end Casing

namespace Rules
open NamingAudit.Text NamingAudit.Casing

variable {read : Char → List Char} {fits : Char → Prop} {segment path : List Char}

theorem read_normalizedSegment (blind : IsCaseBlind read fits) (fitting : ∀ c ∈ segment, fits c) :
    (normalizedSegment segment).flatMap read = segment.flatMap read := by
  rw [normalizedSegment]
  split
  · next placeholder =>
    obtain ⟨inner, rfl⟩ := isPlaceholder_iff.mp placeholder
    have inside : ∀ c ∈ inner, fits c := fun c member => fitting c (by simp [braced, member])
    rw [normalizedPlaceholder_braced]
    simp [braced, blind.read_toCamel inside]
  · split
    · rfl
    · exact blind.read_toKebab fitting

theorem read_normalizedPath (blind : IsCaseBlind read fits)
    (nonempty : path.dropWhile (· == '/') ≠ [])
    (fitting : ∀ c ∈ path.dropWhile (· == '/'), fits c) :
    (normalizedPath path).flatMap read = (path.dropWhile (· == '/')).flatMap read := by
  have segments : ∀ segment ∈ splitOn '/' (path.dropWhile (· == '/')),
      (normalizedSegment segment).flatMap read = segment.flatMap read := by
    intro segment member
    exact read_normalizedSegment blind fun c inside => fitting c (mem_of_mem_splitOn member inside)
  rw [normalizedPath_eq_joinWith nonempty, read_joinWith_map segments, joinWith_splitOn]

end Rules

end NamingAudit
