import Mathlib.Data.List.TakeWhile
import NamingAudit.Catalogue
import NamingAudit.Proofs.RoutePaths
import NamingAudit.Proofs.WordScan

/-! Texts kept as bytes are cut at byte offsets, and a cut beyond the end or inside a character breaks the
program that asks for it. Here the places where rules cut a text, or look at the character before
another, are written out with their offsets and indices. None of them breaks, whatever the text, and
they give the pieces that the rules go on with. -/

namespace NamingAudit

namespace Text

@[simp] theorem byteLength_nil : byteLength [] = 0 := rfl

@[simp] theorem byteLength_cons (c : Char) (rest : List Char) :
    byteLength (c :: rest) = c.utf8Size + byteLength rest := rfl

@[simp] theorem byteLength_append (first second : List Char) :
    byteLength (first ++ second) = byteLength first + byteLength second := by
  induction first with
  | nil => simp
  | cons c rest ih => simp [ih, Nat.add_assoc]

theorem byteLength_pos {text : List Char} (nonempty : text ≠ []) : 0 < byteLength text := by
  obtain ⟨c, rest, rfl⟩ := List.exists_cons_of_ne_nil nonempty
  rw [byteLength_cons]
  exact Nat.add_pos_left c.utf8Size_pos _

theorem cutAt?_append (before after : List Char) :
    cutAt? (byteLength before) (before ++ after) = some (before, after) := by
  induction before with
  | nil => cases after <;> rfl
  | cons c front ih =>
    have positive := c.utf8Size_pos
    obtain ⟨offset, bytes⟩ : ∃ offset, byteLength (c :: front) = offset + 1 :=
      ⟨byteLength (c :: front) - 1, by rw [byteLength_cons]; omega⟩
    have left : offset + 1 - c.utf8Size = byteLength front := by
      rw [← bytes, byteLength_cons, Nat.add_sub_cancel_left]
    have fits : c.utf8Size ≤ offset + 1 := by
      rw [← bytes, byteLength_cons]
      exact Nat.le_add_right _ _
    rw [bytes, List.cons_append, cutAt?, if_pos fits, left, ih]
    rfl

theorem of_cutAt? {offset : Nat} {text before after : List Char}
    (cut : cutAt? offset text = some (before, after)) :
    before ++ after = text ∧ byteLength before = offset := by
  induction text generalizing offset before after with
  | nil =>
    cases offset with
    | zero =>
      cases cut
      exact ⟨rfl, rfl⟩
    | succ offset => contradiction
  | cons c rest ih =>
    cases offset with
    | zero =>
      cases cut
      exact ⟨rfl, rfl⟩
    | succ offset =>
      rw [cutAt?] at cut
      split at cut
      · next fits =>
        obtain ⟨⟨front, back⟩, found, same⟩ := Option.map_eq_some_iff.mp cut
        cases same
        obtain ⟨rfl, bytes⟩ := ih found
        exact ⟨rfl, by rw [byteLength_cons, bytes, Nat.add_sub_cancel' fits]⟩
      · contradiction

theorem cutAt?_eq_some_iff {offset : Nat} {text before after : List Char} :
    cutAt? offset text = some (before, after) ↔
      before ++ after = text ∧ byteLength before = offset := by
  refine ⟨of_cutAt?, ?_⟩
  rintro ⟨rfl, rfl⟩
  exact cutAt?_append before after

example : cutAt? 2 ['é', 'a'] = some (['é'], ['a']) ∧ cutAt? 1 ['é', 'a'] = none := by decide

theorem slice?_append (before inside after : List Char) :
    slice? (byteLength before) (byteLength before + byteLength inside) (before ++ (inside ++ after)) =
      some inside := by
  rw [slice?, if_pos (Nat.le_add_right _ _), cutAt?_append, Nat.add_sub_cancel_left]
  exact congrArg (Option.map Prod.fst) (cutAt?_append inside after)

theorem offsetOf?_eq (wanted : Char) (text : List Char) :
    offsetOf? wanted text =
      if wanted ∈ text then some (byteLength (text.takeWhile (· != wanted))) else none := by
  induction text with
  | nil => rfl
  | cons c rest ih =>
    rw [offsetOf?]
    by_cases same : c = wanted
    · simp [same]
    · have other : wanted ≠ c := fun eq => same eq.symm
      rw [ih]
      by_cases later : wanted ∈ rest <;> simp [same, other, later]

theorem cutFileName?_eq (path : List Char) : cutFileName? path = some (fileParts path) := by
  have pieces := List.takeWhile_append_dropWhile (p := (· != '.')) (l := baseName path)
  rw [cutFileName?, fileParts, offsetOf?_eq]
  generalize baseName path = base at pieces ⊢
  by_cases dotted : '.' ∈ base
  · cases base with
    | nil => contradiction
    | cons first rest =>
      by_cases dot : first = '.'
      · simp [dot]
      · have nonempty : (first :: rest).takeWhile (· != '.') ≠ [] := by simp [dot]
        have cut := cutAt?_append ((first :: rest).takeWhile (· != '.'))
          ((first :: rest).dropWhile (· != '.'))
        rw [pieces] at cut
        simp only [if_pos dotted, if_pos (byteLength_pos nonempty), cut]
        simp [dot, cutAtDot]
  · have none : base.head? ≠ some '.' := fun first => dotted (List.mem_of_head? first)
    have whole : ∀ c ∈ base, (c != '.') = true := fun c member =>
      bne_iff_ne.mpr fun same => dotted (same ▸ member)
    simp only [if_neg dotted, cutAtDot, List.takeWhile_eq_self_iff.mpr whole,
      List.dropWhile_eq_nil_iff.mpr whole]
    split <;> rfl

end Text

namespace Rules
open Text

theorem cutPlaceholder?_eq {segment : List Char} (braces : isPlaceholder segment = true) :
    cutPlaceholder? segment = some (placeholderInner segment) := by
  obtain ⟨inner, rfl⟩ := isPlaceholder_iff.mp braces
  have bytes : byteLength (braced inner) - 1 = byteLength ['\x7b'] + byteLength inner := by
    have opening : Char.utf8Size '\x7b' = 1 := by decide
    have closing : Char.utf8Size '\x7d' = 1 := by decide
    simp only [braced, byteLength_cons, byteLength_append, byteLength_nil, opening, closing]
    omega
  rw [cutPlaceholder?, bytes, placeholderInner_braced]
  exact slice?_append ['\x7b'] inner ['\x7d']

theorem utf8Size_of_isAsciiDigit {c : Char} (digit : isAsciiDigit c = true) : c.utf8Size = 1 := by
  simp only [isAsciiDigit, Bool.and_eq_true, decide_eq_true_eq] at digit
  rw [Char.utf8Size_eq_one_iff]
  exact UInt32.le_trans digit.2 (by decide)

theorem byteLength_of_digits {text : List Char} (digits : text.all isAsciiDigit = true) :
    byteLength text = text.length := by
  induction text with
  | nil => rfl
  | cons c rest ih =>
    rw [List.all_cons, Bool.and_eq_true] at digits
    rw [byteLength_cons, utf8Size_of_isAsciiDigit digits.1, ih digits.2, List.length_cons,
      Nat.add_comm]

theorem isDigitBytes_eq (count : Nat) (text : List Char) :
    isDigitBytes count text = isDigits count text := by
  unfold isDigitBytes isDigits
  cases digits : text.all isAsciiDigit with
  | false => simp
  | true => rw [byteLength_of_digits digits]

theorem slice?_of_digits {text : List Char} (digits : text.all isAsciiDigit = true)
    {first last : Nat} (ordered : first ≤ last) (within : last ≤ text.length) :
    slice? first last text = some ((text.drop first).take (last - first)) := by
  have sizes (part : List Char) (inText : ∀ c ∈ part, c ∈ text) : byteLength part = part.length :=
    byteLength_of_digits (List.all_eq_true.mpr fun c member =>
      List.all_eq_true.mp digits c (inText c member))
  have front : byteLength (text.take first) = first := by
    rw [sizes _ fun _ => List.mem_of_mem_take, List.length_take]
    omega
  have inside : byteLength ((text.drop first).take (last - first)) = last - first := by
    rw [sizes _ fun _ member => List.mem_of_mem_drop (List.mem_of_mem_take member),
      List.length_take, List.length_drop]
    omega
  have cut := slice?_append (text.take first) ((text.drop first).take (last - first))
    ((text.drop first).drop (last - first))
  rwa [List.take_append_drop, List.take_append_drop, front, inside,
    Nat.add_sub_cancel' ordered] at cut

theorem cutTimestamp?_eq (text : List Char) : cutTimestamp? text = some (isTimestamp text) := by
  unfold cutTimestamp? isTimestamp
  rcases splitOn '_' text with _ | ⟨year, _ | ⟨month, _ | ⟨day, _ | ⟨time, _ | ⟨extra, more⟩⟩⟩⟩⟩
  case cons.cons.cons.cons.nil =>
    simp only [isDigitBytes_eq]
    by_cases digits : isDigits 4 year && isDigits 2 month && isDigits 2 day && isDigits 6 time
    · rw [if_pos digits, digits]
      have six : time.length = 6 ∧ time.all isAsciiDigit = true := by
        simp only [isDigits, Bool.and_eq_true, beq_iff_eq] at digits
        exact digits.2
      have bytes : byteLength time = 6 := (byteLength_of_digits six.2).trans six.1
      have last : (time.drop 4).take 2 = time.drop 4 :=
        List.take_of_length_le (by rw [List.length_drop, six.1])
      rw [bytes, slice?_of_digits six.2 (by decide) (by omega),
        slice?_of_digits six.2 (by decide) (by omega),
        slice?_of_digits six.2 (by decide) (by omega), last]
      rfl
    · rw [if_neg digits, eq_false_of_ne_true digits]
      rfl
  all_goals rfl

theorem pieces_of_isTimestamp {text : List Char} (stamp : isTimestamp text = true) :
    ∃ year month day time, splitOn '_' text = [year, month, day, time] ∧ isDigits 4 year = true ∧
      isDigits 2 month = true ∧ isDigits 2 day = true ∧ isDigits 6 time = true := by
  unfold isTimestamp at stamp
  split at stamp
  · next year month day time pieces =>
    simp only [Bool.and_eq_true] at stamp
    obtain ⟨⟨⟨⟨⟨⟨⟨⟨⟨⟨years, months⟩, days⟩, times⟩, _⟩, _⟩, _⟩, _⟩, _⟩, _⟩, _⟩ := stamp
    exact ⟨year, month, day, time, pieces, years, months, days, times⟩
  · contradiction

theorem lengths_of_isTimestamp {text : List Char} (stamp : isTimestamp text = true) :
    text.length = timestampLength ∧ byteLength text = timestampLength := by
  obtain ⟨year, month, day, time, pieces, years, months, days, times⟩ := pieces_of_isTimestamp stamp
  have joined := joinWith_splitOn '_' text
  rw [pieces] at joined
  simp only [isDigits, Bool.and_eq_true, beq_iff_eq] at years months days times
  have underscore : Char.utf8Size '_' = 1 := by decide
  rw [← joined]
  simp only [joinWith_cons, joinWith_singleton, List.length_append, List.length_cons,
    byteLength_append, byteLength_cons, underscore, byteLength_of_digits years.2,
    byteLength_of_digits months.2, byteLength_of_digits days.2, byteLength_of_digits times.2,
    years.1, months.1, days.1, times.1]
  decide

theorem cutMigration?_eq (stem : List Char) : cutMigration? stem = some (migrationParts? stem) := by
  unfold cutMigration? migrationParts?
  by_cases stamp : isTimestamp (stem.take timestampLength) = true
  · have cut := cutAt?_append (stem.take timestampLength) (stem.drop timestampLength)
    rw [List.take_append_drop, (lengths_of_isTimestamp stamp).2] at cut
    simp only [cut, cutTimestamp?_eq, stamp]
    rfl
  · cases cut : cutAt? timestampLength stem with
    | none => simp [stamp]
    | some parts =>
      obtain ⟨front, back⟩ := parts
      have noStamp : ¬ isTimestamp front = true := by
        intro given
        have joined := (of_cutAt? cut).1
        rw [← joined, ← (lengths_of_isTimestamp given).1, List.take_left] at stamp
        exact stamp given
      simp [cutTimestamp?_eq, stamp, noStamp]

section Endings

variable {base ending : List Char} {endings : List (List Char)} {size size' : List Char → Nat}

theorem byteLength_le_iff {first second : List Char} (one : first <:+ base)
    (other : second <:+ base) :
    byteLength first ≤ byteLength second ↔ first.length ≤ second.length := by
  constructor
  · intro bytes
    by_contra longer
    obtain ⟨front, rfl⟩ := List.suffix_of_suffix_length_le other one (Nat.le_of_not_le longer)
    have nonempty : front ≠ [] := by
      rintro rfl
      exact longer (Nat.le_refl _)
    have positive := byteLength_pos nonempty
    rw [byteLength_append] at bytes
    omega
  · intro shorter
    obtain ⟨front, rfl⟩ := List.suffix_of_suffix_length_le one other shorter
    rw [byteLength_append]
    exact Nat.le_add_left _ _

theorem foldl_larger (agree : ∀ first second, first <:+ base → second <:+ base →
      (size first ≤ size second ↔ size' first ≤ size' second))
    (suffixes : ∀ ending ∈ endings, ending <:+ base) {best : Option (List Char)}
    (bestSuffix : ∀ ending ∈ best, ending <:+ base) :
    endings.foldl (larger size) best = endings.foldl (larger size') best ∧
      ∀ ending ∈ endings.foldl (larger size) best, ending <:+ base := by
  induction endings generalizing best with
  | nil => exact ⟨rfl, bestSuffix⟩
  | cons first rest ih =>
    have fits := suffixes first List.mem_cons_self
    have others : ∀ ending ∈ rest, ending <:+ base := fun ending member =>
      suffixes ending (List.mem_cons_of_mem _ member)
    have step : larger size best first = larger size' best first ∧
        ∀ ending ∈ larger size best first, ending <:+ base := by
      cases best with
      | none => exact ⟨rfl, fun ending same => Option.some.inj same ▸ fits⟩
      | some other =>
        have otherFits := bestSuffix other rfl
        simp only [larger, agree other first otherFits fits, true_and]
        split
        · exact fun ending same => Option.some.inj same ▸ fits
        · exact fun ending same => Option.some.inj same ▸ otherFits
    rw [List.foldl_cons, List.foldl_cons, ← step.1]
    exact ih others step.2

theorem suffix_of_mem_filter {keep : List Char → Bool} (ending : List Char)
    (member : ending ∈ endings.filter fun ending => keep ending && endsWith ending base) :
    ending <:+ base :=
  List.isSuffixOf_iff_suffix.mp (Bool.and_eq_true_iff.mp (List.mem_filter.mp member).2).2

theorem suffix_of_largestEnding? (found : largestEnding? size endings base = some ending) :
    ending <:+ base :=
  (foldl_larger (fun _ _ _ _ => Iff.rfl) suffix_of_mem_filter (fun _ none => by contradiction)).2
    ending found

theorem largestEnding?_congr (agree : ∀ first second, first <:+ base → second <:+ base →
    (size first ≤ size second ↔ size' first ≤ size' second)) :
    largestEnding? size endings base = largestEnding? size' endings base := by
  have kept : (endings.filter fun ending => size ending < size base && endsWith ending base) =
      endings.filter fun ending => size' ending < size' base && endsWith ending base := by
    refine List.filter_congr fun ending _ => ?_
    cases fits : endsWith ending base with
    | false => simp
    | true =>
      have order := agree base ending List.suffix_rfl (List.isSuffixOf_iff_suffix.mp fits)
      simp only [← Nat.not_le, order]
  rw [largestEnding?, kept, largestEnding?]
  exact (foldl_larger agree suffix_of_mem_filter fun _ none => by contradiction).1

end Endings

theorem cutView?_eq (extensions : List String) (path : List Char) :
    cutView? extensions path = some (viewParts extensions path) := by
  have same : largestEnding? byteLength (extensions.map String.toList) (baseName path) =
      largestEnding? List.length (extensions.map String.toList) (baseName path) :=
    largestEnding?_congr fun _ _ => byteLength_le_iff
  simp only [cutView?, viewParts, ← same]
  cases found : largestEnding? byteLength (extensions.map String.toList) (baseName path) with
  | none => simp only [cutFileName?_eq]
  | some ending =>
    obtain ⟨stem, joined⟩ := suffix_of_largestEnding? found
    simp only
    rw [← joined, byteLength_append, Nat.add_sub_cancel_right, cutAt?_append, List.length_append,
      Nat.add_sub_cancel_right, List.take_left]

/-- The looks behind and the cuts of the built-in checks, whatever text they are made in: none breaks,
and each gives what the check goes on with. -/
structure CutsSucceed (options : RuleOptions) : Prop where
  words : ∀ ident, Casing.scannedWords? ident = some (Casing.words ident)
  placeholder : ∀ segment, isPlaceholder segment = true →
    cutPlaceholder? segment = some (placeholderInner segment)
  fileName : ∀ path, cutFileName? path = some (fileParts path)
  migration : ∀ stem, cutMigration? stem = some (migrationParts? stem)
  view : ∀ path, cutView? options.viewExtensions path = some (viewParts options.viewExtensions path)

theorem cutsSucceed (options : RuleOptions) : CutsSucceed options where
  words := Casing.scannedWords?_eq
  placeholder _ := cutPlaceholder?_eq
  fileName := cutFileName?_eq
  migration := cutMigration?_eq
  view := cutView?_eq options.viewExtensions

end Rules

end NamingAudit
