import NamingAudit.Proofs.JoinedWords
import NamingAudit.Proofs.KeptLetters

/-! Which identifiers reach snake or kebab case. Words joined by a delimiter are in its style exactly when
they consist of small letters and digits and the first one begins with a letter. Words hold all of a text
but its delimiters, so for a text in ASCII this comes to a condition on the characters of the text. -/

namespace NamingAudit

namespace Casing
open NamingAudit.Text

variable {c delimiter : Char} {text : List Char}

theorem isSmall_of_isDelimiter (boundary : isDelimiter delimiter = true) : isSmall delimiter = false := by
  apply Bool.eq_false_iff.mpr
  intro small
  rw [isDelimiter_of_isAsciiAlphanumeric (isAsciiAlphanumeric_of_isSmall small)] at boundary
  contradiction

theorem isAsciiAlphanumeric_of_isSmall_asciiLower (small : isSmall (asciiLower c) = true) :
    isAsciiAlphanumeric c = true := by
  cases capital : isAsciiUpper c with
  | true => simp [isAsciiAlphanumeric, capital]
  | false =>
    rw [asciiLower, capital, if_neg Bool.false_ne_true] at small
    exact isAsciiAlphanumeric_of_isSmall small

theorem asciiLower_mem_words (ascii : IsAscii text) (present : c ∈ text)
    (solid : isDelimiter c = false) : ∃ word ∈ words text, asciiLower c ∈ word := by
  have kept : c ∈ text.filter fun c => !isDelimiter c :=
    List.mem_filter.mpr ⟨present, by simp [solid]⟩
  have lowered : asciiLower c ∈ lower c := by
    rw [lower, if_pos (ascii c present)]
    exact List.mem_singleton_self _
  have reached : asciiLower c ∈ (words text).flatten := by
    rw [flatten_words]
    exact List.mem_flatMap.mpr ⟨c, kept, lowered⟩
  exact List.mem_flatten.mp reached

theorem isPlainText_iff_words (ascii : IsAscii text) :
    IsPlainText text ↔ ∀ word ∈ words text, IsSmallWord word := by
  constructor
  · intro plain word member
    exact isSmallWord_of_mem_words plain member
  · intro small c present
    cases solid : isDelimiter c with
    | true => exact .inr rfl
    | false =>
      obtain ⟨word, member, inside⟩ := asciiLower_mem_words ascii present solid
      exact .inl (isAsciiAlphanumeric_of_isSmall_asciiLower ((small word member).2 _ inside))

/-- The delimiter that joins the words is in none of them, so the style says of each word what it holds. -/
theorem isDelimitedLower_words_iff (boundary : isDelimiter delimiter = true) :
    isDelimitedLower delimiter (joinWith delimiter (words text)) = true ↔
      (∀ word ∈ words text, IsSmallWord word) ∧ (words text).head?.any beginsWithLetter = true := by
  have solid := isSmall_of_isDelimiter boundary
  constructor
  · intro delimited
    have small : ∀ word ∈ words text, IsSmallWord word := by
      intro word member
      refine ⟨ne_nil_of_mem_words member, fun c inside => ?_⟩
      have kinds := of_mem_of_isDelimitedLower delimited (mem_joinWith_of_mem member inside)
      apply kinds.resolve_right
      rintro rfl
      rw [isDelimiter_of_mem_word member inside] at boundary
      contradiction
    rw [isDelimitedLower_joinWith solid small] at delimited
    exact ⟨small, delimited⟩
  · rintro ⟨small, begins⟩
    rwa [isDelimitedLower_joinWith solid small]

theorem isDelimitedLower_words_iff_isRecasable (boundary : isDelimiter delimiter = true)
    (ascii : IsAscii text) :
    isDelimitedLower delimiter (joinWith delimiter (words text)) = true ↔ IsRecasable text := by
  rw [isDelimitedLower_words_iff boundary, ← isPlainText_iff_words ascii]
  constructor
  · rintro ⟨plain, begins⟩
    rw [head?_words plain] at begins
    exact ⟨plain, begins⟩
  · intro recasable
    exact ⟨recasable.plain, recasable.begins⟩

end Casing

namespace Identifier
open NamingAudit.Casing NamingAudit.Text

/-- An identifier in ASCII comes out in snake case, and in kebab case, exactly when it consists of letters,
digits and delimiters and the first character that is no delimiter is a letter. -/
theorem reaches_delimited_style_iff {ident : String} (ascii : IsAscii ident.toList) :
    (isSnake (snake ident) = true ↔ IsRecasable ident.toList) ∧
      (isKebab (kebab ident) = true ↔ IsRecasable ident.toList) := by
  constructor
  · rw [isSnake, snake, String.toList_ofList]
    exact isDelimitedLower_words_iff_isRecasable rfl ascii
  · rw [isKebab, kebab, String.toList_ofList]
    exact isDelimitedLower_words_iff_isRecasable rfl ascii

/-- Delimiters may stand anywhere; a digit in front and an exclamation mark are in the way. -/
theorem reached_by_httpServer :
    (IsAscii "__HTTP-Server. v2".toList ∧ isSnake (snake "__HTTP-Server. v2") = true ∧
      isKebab (kebab "__HTTP-Server. v2") = true) ∧
    (IsAscii "_2faCodes".toList ∧ isSnake (snake "_2faCodes") = false) ∧
    IsAscii "stop!Words".toList ∧ isKebab (kebab "stop!Words") = false := by
  have ascii : IsAscii "__HTTP-Server. v2".toList := by decide +kernel
  have asciiDigit : IsAscii "_2faCodes".toList := by decide +kernel
  have asciiMark : IsAscii "stop!Words".toList := by decide +kernel
  obtain ⟨snakes, kebabs⟩ := reaches_delimited_style_iff ascii
  have recasable : IsRecasable "__HTTP-Server. v2".toList := by decide +kernel
  refine ⟨⟨ascii, snakes.mpr recasable, kebabs.mpr recasable⟩, ⟨asciiDigit, ?_⟩, asciiMark, ?_⟩
  · have digit := mt (reaches_delimited_style_iff asciiDigit).1.mp (by decide +kernel)
    exact Bool.eq_false_iff.mpr digit
  · have mark := mt (reaches_delimited_style_iff asciiMark).2.mp (by decide +kernel)
    exact Bool.eq_false_iff.mpr mark

end Identifier

end NamingAudit
