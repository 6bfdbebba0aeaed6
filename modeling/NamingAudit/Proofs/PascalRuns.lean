import Mathlib.Data.List.SplitBy
import NamingAudit.Proofs.JoinedWords

/-! Which words a text in Pascal case comes apart into. Two words put side by side run on where no boundary is
found between them: the second one begins with a digit, or its capital is one of a run of capitals. The
words of the text are the runs, and so they are the words that it was put together from when none run on.
A longer word in Pascal case at the end of any text is a word of its own. -/

namespace NamingAudit

namespace Text

variable {c : Char}

theorem isLower_eq_isAsciiLower (ascii : isAsciiAlphanumeric c = true) : isLower c = isAsciiLower c := by
  rw [isLower, if_pos (toNat_lt_of_isAsciiAlphanumeric ascii)]

theorem isAsciiDigit_of_isAsciiUpper (capital : isAsciiUpper c = true) : isAsciiDigit c = false := by
  rw [isAsciiUpper_iff] at capital
  rw [Bool.eq_false_iff]
  intro digit
  have code : 48 ≤ c.toNat ∧ c.toNat ≤ 57 := by
    simp only [isAsciiDigit, Bool.and_eq_true, decide_eq_true_eq] at digit
    exact digit
  omega

theorem isLower_asciiUpper (small : isSmall c = true) : isLower (asciiUpper c) = false := by
  rw [isLower_eq_isAsciiLower (isAsciiAlphanumeric_asciiUpper small)]
  cases letter : isAsciiLower c with
  | false => rwa [asciiUpper, letter, if_neg Bool.false_ne_true]
  | true =>
    have capital := isAsciiUpper_asciiUpper letter
    rw [isAsciiUpper_iff] at capital
    rw [Bool.eq_false_iff, ne_eq, isAsciiLower_iff]
    omega

end Text

namespace Casing
open NamingAudit.Text

variable {first second word current : Word} {rest : List Char} {parts : List Word}

/-- In Pascal case there is no boundary between the words. -/
def runsOn (first second : Word) : Bool :=
  !beginsWithLetter second || (isLetter first && !second.tail.head?.any isAsciiLower)

theorem exists_cons_of_isSmallWord (small : IsSmallWord word) : ∃ c more, word = c :: more ∧
    isSmall c = true ∧ ∀ d ∈ more, isSmall d = true := by
  obtain ⟨c, more, rfl⟩ := List.exists_cons_of_ne_nil small.1
  obtain ⟨smallHead, smallMore⟩ := List.forall_mem_cons.mp small.2
  exact ⟨c, more, rfl, smallHead, smallMore⟩

theorem getLast?_capitalize {c : Char} (small : isSmall c = true) (more : Word) :
    (capitalize (c :: more)).getLast? = more.getLast?.or (some (asciiUpper c)) := by
  rw [capitalize_cons small, List.getLast?_cons]
  cases more.getLast? <;> rfl

theorem startsWord_capitalize (small : IsSmallWord word) (next : Option Char) :
    startsWord (capitalize word).getLast? next = (!isLetter word || next.any isLower) := by
  obtain ⟨c, more, rfl, smallHead, smallMore⟩ := exists_cons_of_isSmallWord small
  rw [capitalize_cons smallHead]
  cases more with
  | cons d more =>
    have smallLast := smallMore _ (List.getLast_mem (List.cons_ne_nil d more))
    rw [List.getLast?_cons_of_ne_nil (List.cons_ne_nil d more),
      List.getLast?_eq_some_getLast (List.cons_ne_nil d more),
      startsWord_of_not_isAsciiUpper next (isAsciiAlphanumeric_of_isSmall smallLast)
        (isAsciiUpper_of_isSmall smallLast)]
    rfl
  | nil =>
    have ascii := isAsciiAlphanumeric_asciiUpper smallHead
    rw [List.getLast?_singleton, isLetter]
    cases letter : isAsciiLower c with
    | false =>
      rw [startsWord_of_not_isAsciiUpper next ascii (by rw [isAsciiUpper_asciiUpper_eq smallHead, letter])]
      rfl
    | true =>
      have capital := isAsciiUpper_asciiUpper letter
      simp [startsWord, isLower_asciiUpper smallHead, isUpper_eq_isAsciiUpper ascii, capital,
        isAsciiDigit_of_isAsciiUpper capital]

theorem wordsFrom_capitalize_append (small : IsSmallWord first) (smallToo : IsSmallWord second)
    (started : current ≠ []) (ended : rest.head?.any isLower = false) :
    wordsFrom (capitalize first).getLast? current (capitalize second ++ rest) =
      if runsOn first second then wordsFrom (capitalize second).getLast? (current ++ second) rest
      else current :: wordsFrom (capitalize second).getLast? second rest := by
  obtain ⟨d, others, rfl, smallHead, smallOthers⟩ := exists_cons_of_isSmallWord smallToo
  have ascii := isAsciiAlphanumeric_asciiUpper smallHead
  have next : (others ++ rest).head?.any isLower = others.head?.any isAsciiLower := by
    cases others with
    | nil => exact ended
    | cons e others =>
      exact isLower_eq_isAsciiLower (isAsciiAlphanumeric_of_isSmall (smallOthers e List.mem_cons_self))
  have boundary : (isUpper (asciiUpper d) && !current.isEmpty &&
      startsWord (capitalize first).getLast? (others ++ rest).head?) = !runsOn first (d :: others) := by
    rw [isUpper_eq_isAsciiUpper ascii, isAsciiUpper_asciiUpper_eq smallHead,
      startsWord_capitalize small, next, List.isEmpty_eq_false_iff.mpr started]
    simp [runsOn, beginsWithLetter]
  rw [getLast?_capitalize smallHead, capitalize_cons smallHead, List.cons_append, wordsFrom,
    if_neg (by simp [isDelimiter_of_isAsciiAlphanumeric ascii]), boundary, lower_asciiUpper smallHead,
    wordsFrom_append_small _ _ smallOthers, wordsFrom_append_small _ _ smallOthers]
  cases runsOn first (d :: others) <;> simp

theorem head?_joinPascal (small : ∀ word ∈ parts, IsSmallWord word) :
    (joinPascal parts).head?.any isLower = false := by
  cases parts with
  | nil => rfl
  | cons first rest =>
    obtain ⟨c, more, rfl, smallHead, _⟩ := exists_cons_of_isSmallWord (small first List.mem_cons_self)
    rw [joinPascal, List.flatMap_cons, capitalize_cons smallHead]
    exact isLower_asciiUpper smallHead

theorem wordsFrom_joinPascal (small : ∀ word ∈ first :: parts, IsSmallWord word) (run : List Word)
    (runs : List (List Word)) :
    (runs.reverse.map List.flatten) ++
        wordsFrom (capitalize first).getLast? (first :: run).reverse.flatten (joinPascal parts) =
      (List.splitBy.loop runsOn parts first run runs).map List.flatten := by
  rw [List.forall_mem_cons] at small
  have started {run : List Word} {first : Word} (nonempty : first ≠ []) :
      (first :: run).reverse.flatten ≠ [] := by simp [nonempty]
  induction parts generalizing first run runs with
  | nil =>
    have flushed := List.isEmpty_eq_false_iff.mpr (@started run first small.1.1)
    rw [joinPascal, List.flatMap_nil, wordsFrom, flush, flushed, List.splitBy.loop]
    simp
  | cons second rest ih =>
    obtain ⟨smallFirst, smallRest⟩ := small
    have smallLater := List.forall_mem_cons.mp smallRest
    have next := @ih second
    rw [joinPascal, List.flatMap_cons, ← joinPascal,
      wordsFrom_capitalize_append smallFirst smallLater.1 (started smallFirst.1)
        (head?_joinPascal smallLater.2), List.splitBy.loop]
    cases runsOn first second with
    | true => simpa using next smallLater (first :: run) runs
    | false => simpa using next smallLater [] ((first :: run).reverse :: runs)

theorem words_joinPascal_eq (small : ∀ word ∈ parts, IsSmallWord word) :
    words (joinPascal parts) = (parts.splitBy runsOn).map List.flatten := by
  cases parts with
  | nil => rfl
  | cons first rest =>
    obtain ⟨c, more, rfl, smallHead, smallMore⟩ :=
      exists_cons_of_isSmallWord (small first List.mem_cons_self)
    have runs := wordsFrom_joinPascal small [] []
    rw [getLast?_capitalize smallHead] at runs
    rw [List.splitBy, ← runs, joinPascal, List.flatMap_cons, capitalize_cons smallHead, List.cons_append,
      words, wordsFrom_asciiUpper_nil smallHead, wordsFrom_append_small _ _ smallMore]
    simp [joinPascal]

theorem run_of_letters {run : List Word} (filled : [] ∉ run)
    (chain : run.IsChain fun first second => runsOn first second = true)
    (letters : ∀ c ∈ run.flatten, isAsciiLower c = true) :
    run = [run.flatten] ∨ run = run.flatten.map fun c => [c] := by
  induction run with
  | nil => exact .inr rfl
  | cons first rest ih =>
    cases rest with
    | nil => exact .inl (by rw [List.flatten_singleton])
    | cons second rest =>
      rw [List.mem_cons, not_or] at filled
      rw [List.flatten_cons, List.forall_mem_append] at letters
      obtain ⟨on, chainRest⟩ := List.isChain_cons_cons.mp chain
      have later := ih filled.2 chainRest letters.2
      obtain ⟨d, others, rfl⟩ := List.exists_cons_of_ne_nil fun empty : second = [] =>
        filled.2 (empty ▸ List.mem_cons_self)
      have lettersSecond : ∀ c ∈ d :: others, isAsciiLower c = true := fun c inside =>
        letters.2 c (List.mem_flatten_of_mem List.mem_cons_self inside)
      -- Two words that begin with letters run on only where both are single letters.
      have begins : beginsWithLetter (d :: others) = true := lettersSecond d List.mem_cons_self
      rw [runsOn, begins, Bool.not_true, Bool.false_or, Bool.and_eq_true] at on
      obtain ⟨c, rfl⟩ : ∃ c, first = [c] := by
        match first, on.1 with
        | [c], _ => exact ⟨c, rfl⟩
      obtain rfl : others = [] := by
        cases others with
        | nil => rfl
        | cons e others => simp [lettersSecond e (by simp)] at on
      rcases later with single | spelled
      · rw [List.cons.injEq] at single
        simp [single.2]
      · rw [List.flatten_cons, List.map_append, ← spelled]
        exact .inr rfl

theorem mem_words_joinPascal_iff (small : ∀ word ∈ parts, IsSmallWord word)
    (letters : ∀ c ∈ word, isAsciiLower c = true) : word ∈ words (joinPascal parts) ↔
      [word] ∈ parts.splitBy runsOn ∨ word.map (fun c => [c]) ∈ parts.splitBy runsOn := by
  rw [words_joinPascal_eq small, List.mem_map]
  constructor
  · rintro ⟨run, member, rfl⟩
    have filled : [] ∉ run := fun inside => by
      have present := List.mem_flatten_of_mem member inside
      rw [List.flatten_splitBy] at present
      exact (small [] present).1 rfl
    rcases run_of_letters filled (List.isChain_of_mem_splitBy member) letters with single | spelled
    · exact .inl (single ▸ member)
    · exact .inr (spelled ▸ member)
  · rintro (single | spelled)
    · exact ⟨[word], single, List.flatten_singleton⟩
    · exact ⟨word.map fun c => [c], spelled, by simp [← List.flatMap_def]⟩

theorem splitBy_runsOn_of_apart (apart : parts.IsChain fun first second => runsOn first second = false) :
    parts.splitBy runsOn = parts.map fun word => [word] := by
  induction parts with
  | nil => rfl
  | cons first rest ih =>
    rw [List.isChain_cons] at apart
    have seam : ∀ last ∈ [first].getLast?, ∀ second ∈ rest.head?, runsOn last second = false := by
      simpa using apart.1
    have cut := List.splitBy_append seam
    rwa [ih apart.2] at cut

/-- Words that begin with a letter and whose capitals stand apart do not run on. -/
theorem words_joinPascal (small : ∀ word ∈ parts, IsSmallWord word)
    (letters : ∀ word ∈ parts, beginsWithLetter word = true) (apart : CapitalsApart parts) :
    words (joinPascal parts) = parts := by
  have runs : parts.IsChain fun first second => runsOn first second = false := by
    refine apart.imp_of_mem_imp fun first second _ member held => ?_
    have begins := letters second member
    have long : isLetter first = false := Bool.eq_false_iff.mpr fun letter => held ⟨letter, begins⟩
    rw [runsOn, begins, long]
    rfl
  rw [words_joinPascal_eq small, splitBy_runsOn_of_apart runs, List.map_map]
  exact List.map_id'' (fun word => List.flatten_singleton) parts

theorem wordsFrom_asciiUpper {previous c : Char} {current : Word} {rest : List Char}
    (starts : startsWord (some previous) rest.head? = true) (started : current ≠ [])
    (letter : isAsciiLower c = true) :
    wordsFrom (some previous) current (asciiUpper c :: rest) =
      current :: wordsFrom (some (asciiUpper c)) [c] rest := by
  have small : isSmall c = true := by simp [isSmall, letter]
  have ascii := isAsciiAlphanumeric_asciiUpper small
  have capital : isUpper (asciiUpper c) = true := by
    rw [isUpper_eq_isAsciiUpper ascii, isAsciiUpper_asciiUpper letter]
  rw [wordsFrom, if_neg (by simp [isDelimiter_of_isAsciiAlphanumeric ascii]),
    if_pos (by simp [capital, started, starts]), lower_asciiUpper small]

theorem startsWord_of_isAsciiLower_next {c d : Char} (ascii : isAsciiAlphanumeric c = true)
    (letter : isAsciiLower d = true) : startsWord (some c) (some d) = true := by
  cases capital : isAsciiUpper c with
  | false => exact startsWord_of_not_isAsciiUpper (some d) ascii capital
  | true =>
    have small : isLower d = true := by
      rw [isLower_eq_isAsciiLower (by simp [isAsciiAlphanumeric, letter]), letter]
    simp [startsWord, isUpper_eq_isAsciiUpper ascii, capital, small]

theorem wordsFrom_append_capitalize {c d : Char} {more : Word} {stem : List Char}
    {previous : Option Char} (small : IsSmallWord (c :: d :: more)) (letter : isAsciiLower c = true)
    (letterNext : isAsciiLower d = true) (plain : IsPlainText stem)
    (grounded : current = [] ∨ ∃ before, previous = some before ∧ isAsciiAlphanumeric before = true) :
    wordsFrom previous current (stem ++ capitalize (c :: d :: more)) =
      wordsFrom previous current stem ++ [c :: d :: more] := by
  have smallHead := small.2 c List.mem_cons_self
  have smallRest : ∀ x ∈ d :: more, isSmall x = true := (List.forall_mem_cons.mp small.2).2
  rw [capitalize_cons smallHead]
  -- A word in hand has a letter or digit before it, so that the capital ends it whatever that was.
  induction stem generalizing previous current with
  | nil =>
    have last : wordsFrom (some (asciiUpper c)) [c] (d :: more) = [c :: d :: more] := by
      have extended := wordsFrom_append_small (some (asciiUpper c)) [c] smallRest []
      rwa [List.append_nil, wordsFrom] at extended
    rw [List.nil_append]
    cases current with
    | nil =>
      rw [wordsFrom_asciiUpper_nil smallHead, last]
      rfl
    | cons first current =>
      obtain ⟨before, rfl, asciiBefore⟩ := grounded.resolve_left (List.cons_ne_nil _ _)
      have starts : startsWord (some before) (d :: more).head? = true :=
        startsWord_of_isAsciiLower_next asciiBefore letterNext
      rw [wordsFrom_asciiUpper starts (List.cons_ne_nil _ _) letter, last]
      rfl
  | cons x stem ih =>
    obtain ⟨kind, plainRest⟩ := List.forall_mem_cons.mp plain
    rw [List.cons_append, wordsFrom, wordsFrom]
    cases delimits : isDelimiter x with
    | true => rw [if_pos rfl, if_pos rfl, ih plainRest (.inl rfl), List.append_assoc]
    | false =>
      have ascii := kind.resolve_right (by simp [delimits])
      have later {current : Word} := @ih current (some x) plainRest (.inr ⟨x, rfl, ascii⟩)
      have sameStart : startsWord previous (stem ++ asciiUpper c :: d :: more).head? =
          startsWord previous stem.head? := by
        cases stem with
        | cons next stem => rfl
        | nil => simp [startsWord, isLower_asciiUpper smallHead]
      rw [if_neg Bool.false_ne_true, if_neg Bool.false_ne_true, sameStart]
      split
      · rw [later, List.cons_append]
      · rw [later]

theorem words_append_capitalize {c d : Char} {more : Word} {stem : List Char}
    (small : IsSmallWord (c :: d :: more)) (letter : isAsciiLower c = true)
    (letterNext : isAsciiLower d = true) (plain : IsPlainText stem) :
    words (stem ++ capitalize (c :: d :: more)) = words stem ++ [c :: d :: more] :=
  wordsFrom_append_capitalize small letter letterNext plain (.inl rfl)

end Casing

end NamingAudit
