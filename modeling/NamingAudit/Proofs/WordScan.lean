import Mathlib.Data.List.Induction
import NamingAudit.Identifier
import NamingAudit.Proofs.Words

/-! The words of an identifier as parts of its text. Each is a run of characters between delimiters, or a
piece of one, in small letters, and together the runs leave out delimiters only. A scan that keeps a
position, the words so far and the word in hand finds them with the characters of the text looked up by
their positions: it looks behind a position only for a capital inside a word, and there stands a character
that is no delimiter. -/

namespace NamingAudit

namespace Casing
open NamingAudit.Text

variable {c : Char} {text read unread run : List Char}

/-- The text consists of the runs, in order, and of delimiters before, between and behind them. -/
inductive HasRuns : List Char → List (List Char) → Prop
  | nil : HasRuns [] []
  | delimiter {c : Char} {text : List Char} {runs : List (List Char)}
      (boundary : isDelimiter c = true) (rest : HasRuns text runs) : HasRuns (c :: text) runs
  | run {run text : List Char} {runs : List (List Char)} (filled : run ≠ [])
      (solid : ∀ c ∈ run, isDelimiter c = false) (rest : HasRuns text runs) :
      HasRuns (run ++ text) (run :: runs)

theorem flush_flatMap_lower (run : List Char) :
    flush (run.flatMap lower) = (flush run).map (List.flatMap lower) := by
  cases run with
  | nil => rfl
  | cons c rest => simp [flush, lower_ne_nil]

theorem HasRuns.flush {runs : List (List Char)} (solid : ∀ c ∈ run, isDelimiter c = false)
    (rest : HasRuns text runs) : HasRuns (run ++ text) (Casing.flush run ++ runs) := by
  cases run with
  | nil => exact rest
  | cons c run => exact .run (List.cons_ne_nil c run) solid rest

theorem exists_runs_wordsFrom (run : List Char) (solid : ∀ c ∈ run, isDelimiter c = false)
    (previous : Option Char) (unread : List Char) : ∃ runs, HasRuns (run ++ unread) runs ∧
      wordsFrom previous (run.flatMap lower) unread = runs.map (List.flatMap lower) := by
  induction unread generalizing run previous with
  | nil =>
    refine ⟨flush run, ?_, flush_flatMap_lower run⟩
    simpa using HasRuns.flush solid .nil
  | cons c unread ih =>
    rw [wordsFrom]
    split
    case isTrue boundary =>
      obtain ⟨runs, parts, made⟩ := ih [] (by simp) (some c)
      refine ⟨flush run ++ runs, .flush solid (.delimiter boundary parts), ?_⟩
      rw [List.map_append, ← made, flush_flatMap_lower, List.flatMap_nil]
    case isFalse inside =>
      have solidNext : ∀ d ∈ [c], isDelimiter d = false := by simpa using inside
      split
      case isTrue starts =>
        have filled : run ≠ [] := by
          rintro rfl
          simp at starts
        obtain ⟨runs, parts, made⟩ := ih [c] solidNext (some c)
        refine ⟨run :: runs, .run filled solid parts, ?_⟩
        rw [List.map_cons, ← made, List.flatMap_singleton]
      case isFalse =>
        have solidRun := List.forall_mem_append.mpr ⟨solid, solidNext⟩
        obtain ⟨runs, parts, made⟩ := ih (run ++ [c]) solidRun (some c)
        refine ⟨runs, ?_, ?_⟩
        · rwa [List.append_assoc] at parts
        · rw [← made, List.flatMap_append, List.flatMap_singleton]

theorem exists_runs_words (text : List Char) :
    ∃ runs, HasRuns text runs ∧ words text = runs.map (List.flatMap lower) :=
  exists_runs_wordsFrom [] (by simp) none text

theorem charBefore?_length {seen : List Char} (started : seen ≠ []) (rest : List Char) :
    charBefore? (seen ++ rest) seen.length = seen.getLast? := by
  rcases List.eq_nil_or_concat seen with none | ⟨front, last, rfl⟩
  · contradiction
  · simp [charBefore?]

namespace Scan

theorem current_ne_nil {scan : Scan} (looks : scan.looksBehind c = true) : scan.current ≠ [] := by
  intro empty
  simp [looksBehind, empty] at looks

/-- The scan stands between what has been read and the rest, with the words of the former out of those of
the whole, and a word in hand has just been read from. -/
structure Stands (read unread : List Char) (scan : Scan) : Prop where
  position : scan.position = read.length
  found : scan.done ++ wordsFrom read.getLast? scan.current unread = Casing.words (read ++ unread)
  grounded : scan.current ≠ [] → ∃ before ∈ read.getLast?, isDelimiter before = false

variable {scan : Scan}

theorem stands_start (text : List Char) : Stands [] text start where
  position := rfl
  found := rfl
  grounded started := absurd rfl started

theorem Stands.words_eq (stands : Stands text [] scan) : scan.words = Casing.words text := by
  have found := stands.found
  rwa [List.append_nil] at found

theorem Stands.charBefore? (stands : Stands read unread scan) (looks : scan.looksBehind c = true) :
    1 ≤ scan.position ∧ ∃ before, Casing.charBefore? (read ++ unread) scan.position = some before ∧
      isDelimiter before = false ∧ read.getLast? = some before := by
  obtain ⟨before, last, solid⟩ := stands.grounded (current_ne_nil looks)
  have filled : read ≠ [] := by
    rintro rfl
    contradiction
  rw [stands.position, charBefore?_length filled]
  exact ⟨List.length_pos_iff.mpr filled, before, last, solid, last⟩

theorem Stands.step? (stands : Stands read (c :: unread) scan) :
    ∃ next, scan.step? (read ++ c :: unread) c = some next ∧ Stands (read ++ [c]) unread next := by
  have ahead : (read ++ c :: unread)[scan.position + 1]? = unread.head? := by
    rw [stands.position, List.getElem?_append_right (Nat.le_add_right _ _), Nat.add_sub_cancel_left]
    cases unread <;> rfl
  have moved : scan.position + 1 = (read ++ [c]).length := by simp [stands.position]
  have found := stands.found
  rw [wordsFrom] at found
  rw [Scan.step?, ahead]
  split
  case isTrue boundary =>
    rw [if_pos boundary, ← List.append_assoc] at found
    exact ⟨_, rfl, moved, by simpa using found, fun started => absurd rfl started⟩
  case isFalse inside =>
    have solid : ∃ before ∈ (read ++ [c]).getLast?, isDelimiter before = false := by simpa using inside
    rw [if_neg inside] at found
    split
    case isTrue looks =>
      obtain ⟨_, before, present, _, last⟩ := stands.charBefore? looks
      rw [looksBehind] at looks
      rw [present, Option.map_some]
      rw [last, looks, Bool.true_and] at found
      refine ⟨_, rfl, ?_⟩
      split
      case isTrue starts =>
        rw [if_pos starts] at found
        exact ⟨moved, by simpa using found, fun _ => solid⟩
      case isFalse goesOn =>
        rw [if_neg goesOn] at found
        exact ⟨moved, by simpa using found, fun _ => solid⟩
    case isFalse looks =>
      rw [looksBehind] at looks
      rw [if_neg fun starts => looks (Bool.and_eq_true_iff.mp starts).1] at found
      exact ⟨_, rfl, moved, by simpa using found, fun _ => solid⟩

theorem exists_after (read unread : List Char) :
    ∃ scan, after? (read ++ unread) read = some scan ∧ Stands read unread scan := by
  -- The text stays the same while the last character read goes over to the rest.
  induction read using List.reverseRecOn generalizing unread with
  | nil => exact ⟨start, rfl, stands_start unread⟩
  | append_singleton front c ih =>
    obtain ⟨scan, reached, stands⟩ := ih (c :: unread)
    obtain ⟨next, stepped, standsNext⟩ := stands.step?
    refine ⟨next, ?_, standsNext⟩
    rw [after?] at reached
    rw [after?, List.append_assoc, List.singleton_append, List.foldlM_append, reached]
    simpa using stepped

end Scan

theorem scannedWords?_eq (ident : List Char) : scannedWords? ident = some (words ident) := by
  obtain ⟨scan, reached, stands⟩ := Scan.exists_after ident []
  rw [List.append_nil] at reached
  rw [scannedWords?, reached, Option.map_some, stands.words_eq]

end Casing

namespace Identifier
open NamingAudit.Casing NamingAudit.Text

/-- No word of an identifier is empty or holds a delimiter. Together the words are what is no delimiter in
the text, in small letters and in order, and each comes from one run of it without a delimiter. The scan
finds them: it stops nowhere, and where it looks at the character before a position, there is one and it is
no delimiter. -/
theorem words_of_text (ident : String) :
    (∀ word ∈ words ident, word ≠ "" ∧ ∀ c ∈ word.toList, isDelimiter c = false) ∧
      (words ident).flatMap String.toList =
        (ident.toList.filter fun c => !isDelimiter c).flatMap lower ∧
      (∃ runs, HasRuns ident.toList runs ∧
        words ident = runs.map fun run => String.ofList (run.flatMap lower)) ∧
      (∀ read c unread, ident.toList = read ++ c :: unread → ∃ scan,
        Scan.after? ident.toList read = some scan ∧ scan.position = read.length ∧
          (isDelimiter c = false → scan.looksBehind c = true → 1 ≤ scan.position ∧
            ∃ before, charBefore? ident.toList scan.position = some before ∧
              isDelimiter before = false)) ∧
      ∃ scan, Scan.after? ident.toList ident.toList = some scan ∧
        scan.words.map String.ofList = words ident := by
  refine ⟨?_, ?_, ?_, ?_, ?_⟩
  · intro word member
    obtain ⟨chars, present, rfl⟩ := List.mem_map.mp member
    constructor
    · simpa using ne_nil_of_mem_words present
    · intro c inside
      rw [String.toList_ofList] at inside
      exact isDelimiter_of_mem_word present inside
  · rw [words, List.flatMap_map, ← flatten_words]
    simp [List.flatMap_def]
  · obtain ⟨runs, parts, made⟩ := exists_runs_words ident.toList
    refine ⟨runs, parts, ?_⟩
    rw [words, made, List.map_map]
    rfl
  · intro read c unread split
    obtain ⟨scan, reached, stands⟩ := Scan.exists_after read (c :: unread)
    rw [← split] at reached
    refine ⟨scan, reached, stands.position, fun _ looks => ?_⟩
    obtain ⟨positive, before, present, solid, _⟩ := stands.charBefore? looks
    rw [← split] at present
    exact ⟨positive, before, present, solid⟩
  · obtain ⟨scan, reached, found⟩ := Option.map_eq_some_iff.mp (scannedWords?_eq ident.toList)
    refine ⟨scan, reached, ?_⟩
    rw [found, words]

/-- The capital S begins a word because of the capital before it and the small letter behind it. -/
theorem scanned_httpServer :
    words "İd_HTTPServer.v2" = ["i\u0307d", "http", "server", "v2"] ∧
      (∃ runs, HasRuns "İd_HTTPServer.v2".toList runs ∧ ["i\u0307d", "http", "server", "v2"] =
        runs.map fun run => String.ofList (run.flatMap lower)) ∧
      ∃ scan, Scan.after? "İd_HTTPServer.v2".toList "İd_HTTP".toList = some scan ∧
        scan.looksBehind 'S' = true ∧ 1 ≤ scan.position ∧
          ∃ before, charBefore? "İd_HTTPServer.v2".toList scan.position = some before ∧
            isDelimiter before = false := by
  obtain ⟨_, _, fromRuns, looks, _⟩ := words_of_text "İd_HTTPServer.v2"
  have made : words "İd_HTTPServer.v2" = ["i\u0307d", "http", "server", "v2"] := by decide +kernel
  have reached : Scan.after? "İd_HTTPServer.v2".toList "İd_HTTP".toList =
      some ⟨7, [['i', '\u0307', 'd']], ['h', 't', 't', 'p']⟩ := by decide +kernel
  rw [made] at fromRuns
  obtain ⟨scan, same, _, before⟩ := looks "İd_HTTP".toList 'S' "erver.v2".toList (by decide +kernel)
  rw [reached, Option.some.injEq] at same
  subst same
  exact ⟨made, fromRuns, _, reached, rfl, before rfl rfl⟩

end Identifier

end NamingAudit
