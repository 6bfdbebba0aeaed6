import NamingAudit.Proofs.KeptLetters
import NamingAudit.Proofs.NounFixes

/-! Words after recasing. The words of a text in ASCII are in small letters, so that they come apart again
where a delimiter is put between them, and nowhere else. Behind capitals they do so when each of them begins
with a letter and has another character behind it. Whatever is made of the words alone is then the same. -/

namespace NamingAudit

namespace Casing
open NamingAudit.Text

variable {text : List Char} {word : Word} {parts : List Word}

theorem isSettled_asciiLower {c : Char} (ascii : c.toNat < 0x80) (solid : isDelimiter c = false) :
    IsSettled (asciiLower c) := by
  have table : isDelimiter c = true ∨ isDelimiter (asciiLower c) = false ∧
      isUpper (asciiLower c) = false ∧ lower (asciiLower c) = [asciiLower c] :=
    of_ascii (p := fun c => isDelimiter c = true ∨ isDelimiter (asciiLower c) = false ∧
      isUpper (asciiLower c) = false ∧ lower (asciiLower c) = [asciiLower c]) (by decide +kernel) ascii
  obtain ⟨kept, uncapital, lowered⟩ := table.resolve_left (by simp [solid])
  exact ⟨kept, uncapital, lowered⟩

theorem isSettled_of_mem_words (ascii : IsAscii text) :
    ∀ word ∈ words text, ∀ c ∈ word, IsSettled c := by
  intro word member c inside
  obtain ⟨origin, present, solid, reached⟩ := origin_of_mem_word member inside
  have below := ascii origin present
  rw [lower, if_pos below, List.mem_singleton] at reached
  rw [reached]
  exact isSettled_asciiLower below solid

theorem words_joinWith_words {delimiter : Char} (boundary : isDelimiter delimiter = true)
    (ascii : IsAscii text) : words (joinWith delimiter (words text)) = words text :=
  wordsFrom_joinWith boundary (fun _ => ne_nil_of_mem_words) (isSettled_of_mem_words ascii) none

theorem capitalsApart_of_length (long : ∀ word ∈ parts, 2 ≤ word.length) : CapitalsApart parts := by
  rcases List.eq_nil_or_concat parts with rfl | ⟨front, last, rfl⟩
  · exact List.isChain_nil
  · rw [List.concat_eq_append] at long ⊢
    exact capitalsApart_concat (fun word member => long word (List.mem_append_left _ member)) last

theorem words_joinCamel_eq (small : ∀ word ∈ parts, IsSmallWord word)
    (long : ∀ word ∈ parts, 2 ≤ word.length) : words (joinCamel parts) = words (joinPascal parts) := by
  cases parts with
  | nil => rfl
  | cons first rest =>
    obtain ⟨c, more, rfl, smallHead, smallMore⟩ :=
      exists_cons_of_isSmallWord (small first List.mem_cons_self)
    obtain ⟨d, others, rfl⟩ : ∃ d others, more = d :: others := by
      apply List.exists_cons_of_ne_nil
      intro empty
      have lengths := long _ List.mem_cons_self
      simp [empty] at lengths
    rw [joinCamel, words, wordsFrom_append_small none [] (small _ List.mem_cons_self).2, joinPascal,
      joinPascal, List.flatMap_cons, capitalize_cons smallHead, List.cons_append, words,
      wordsFrom_asciiUpper_nil smallHead, wordsFrom_append_small _ _ smallMore]
    simp [List.getLast?_cons]

theorem words_joinCamel (small : ∀ word ∈ parts, IsSmallWord word)
    (letters : ∀ word ∈ parts, beginsWithLetter word = true) (long : ∀ word ∈ parts, 2 ≤ word.length) :
    words (joinCamel parts) = parts := by
  rw [words_joinCamel_eq small long, words_joinPascal small letters (capitalsApart_of_length long)]

end Casing

namespace Identifier
open NamingAudit.Casing NamingAudit.Text

variable {first second ident : String}

def wordReadings : List (String → String) :=
  [snake, kebab, camel, pascal, singularPascal, singularSnake, pluralSnake]

theorem reading_congr (same : Casing.words first.toList = Casing.words second.toList) :
    ∀ reading ∈ wordReadings, reading first = reading second := by
  simp [wordReadings, snake, kebab, camel, pascal, singularPascal, singularSnake, pluralSnake, toSnake,
    toKebab, toCamel, toPascal, same]

theorem words_congr (same : Casing.words first.toList = Casing.words second.toList) :
    words first = words second := by
  rw [words, same, words]

theorem words_snake (ascii : IsAscii ident.toList) :
    Casing.words (snake ident).toList = Casing.words ident.toList := by
  rw [snake, String.toList_ofList]
  exact words_joinWith_words rfl ascii

theorem words_kebab (ascii : IsAscii ident.toList) :
    Casing.words (kebab ident).toList = Casing.words ident.toList := by
  rw [kebab, String.toList_ofList]
  exact words_joinWith_words rfl ascii

/-- The words of an identifier in ASCII are the words of its snake case and of its kebab case. So every
conversion makes the same of all three, and to convert into either case twice is to do it once. If the
identifier is made of letters, digits and delimiters, and its words begin with a letter and are longer than
that, then they are the words of its camel case and of its Pascal case as well. -/
theorem recasing_keeps_words (ascii : IsAscii ident.toList) :
    words (snake ident) = words ident ∧ words (kebab ident) = words ident ∧
      (∀ reading ∈ wordReadings,
        reading (snake ident) = reading ident ∧ reading (kebab ident) = reading ident) ∧
      (IsPlainText ident.toList →
        (∀ word ∈ words ident, beginsWithLetter word.toList = true ∧ 2 ≤ word.length) →
          words (camel ident) = words ident ∧ words (pascal ident) = words ident) := by
  have snakes := words_snake ascii
  have kebabs := words_kebab ascii
  refine ⟨words_congr snakes, words_congr kebabs, ?_, ?_⟩
  · intro reading member
    exact ⟨reading_congr snakes reading member, reading_congr kebabs reading member⟩
  · intro plain full
    have small : ∀ word ∈ Casing.words ident.toList, IsSmallWord word := fun _ =>
      isSmallWord_of_mem_words plain
    have fullWords : ∀ word ∈ Casing.words ident.toList,
        beginsWithLetter word = true ∧ 2 ≤ word.length := by
      simpa [words] using full
    have letters := fun word member => (fullWords word member).1
    have long := fun word member => (fullWords word member).2
    constructor
    · apply words_congr
      rw [camel, String.toList_ofList]
      exact words_joinCamel small letters long
    · apply words_congr
      rw [pascal, String.toList_ofList]
      exact words_joinPascal small letters (capitalsApart_of_length long)

theorem recased_httpServer :
    IsAscii "open!Source XMLFile_2".toList ∧
      words (snake "open!Source XMLFile_2") = ["open!source", "xml", "file", "2"] ∧
      pluralSnake (kebab "open!Source XMLFile_2") = pluralSnake "open!Source XMLFile_2" ∧
      IsAscii "HTTPServer.oauth2 pageViews".toList ∧
      words (camel "HTTPServer.oauth2 pageViews") = ["http", "server", "oauth2", "page", "views"] := by
  have ascii : IsAscii "open!Source XMLFile_2".toList := by decide +kernel
  have asciiToo : IsAscii "HTTPServer.oauth2 pageViews".toList := by decide +kernel
  obtain ⟨snakes, _, readings, _⟩ := recasing_keeps_words ascii
  obtain ⟨_, _, _, capitals⟩ := recasing_keeps_words asciiToo
  refine ⟨ascii, snakes.trans (by decide +kernel), (readings pluralSnake (by simp [wordReadings])).2,
    asciiToo, (capitals (by decide +kernel) (by decide +kernel)).1.trans (by decide +kernel)⟩

end Identifier

end NamingAudit
