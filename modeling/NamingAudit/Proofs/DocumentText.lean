import Mathlib.Data.List.Forall2
import NamingAudit.Proofs.Pieces
import NamingAudit.Proofs.ReaderLocality

/-! A document written around given record texts. Each text is read inside the list as it is read
alone, so the records of the document are those of the texts, in their order. -/

namespace NamingAudit

namespace Json

def Spells (use : Use) (chars : List Char) (value : Value) : Prop :=
  ∃ rest, readValue use (fuelFor chars) chars = .ok (value, rest) ∧ skipBlanks rest = []

section Lists

variable {use : Use} {chars suffix : List Char} {value : Value} {fuel : Nat}

theorem readValue_skipBlanks (use : Use) (fuel : Nat) (chars : List Char) :
    readValue use fuel (skipBlanks chars) = readValue use fuel chars := by
  cases fuel with
  | zero => rfl
  | succ fuel =>
    unfold readValue
    rw [skipBlanks_idem]

theorem Spells.begins (spells : Spells use chars value) :
    ∃ c rest, skipBlanks chars = c :: rest ∧ c ≠ ']' := by
  obtain ⟨rest, read, _⟩ := spells
  rw [fuelFor, ← readValue_skipBlanks] at read
  cases begun : skipBlanks chars with
  | nil =>
    rw [begun] at read
    contradiction
  | cons c rest =>
    refine ⟨c, rest, rfl, ?_⟩
    rintro rfl
    rw [begun] at read
    contradiction

theorem Spells.nextItem_first (spells : Spells use chars value) (suffix : List Char) :
    nextItem true (chars ++ suffix) = .ok (some (skipBlanks (chars ++ suffix))) := by
  obtain ⟨c, rest, begun, noClose⟩ := spells.begins
  rw [nextItem, skipBlanks_append begun]
  simp

theorem Spells.nextItem_later (spells : Spells use chars value) {blanks : List Char}
    (blank : skipBlanks blanks = []) (suffix : List Char) :
    nextItem false (blanks ++ ',' :: (chars ++ suffix)) =
      .ok (some (skipBlanks (chars ++ suffix))) := by
  obtain ⟨c, rest, begun, noClose⟩ := spells.begins
  have comma : skipBlanks (',' :: (chars ++ suffix)) = ',' :: (chars ++ suffix) := rfl
  rw [nextItem, skipBlanks_append_of_nil blank, comma]
  split
  · contradiction
  · next same => exact absurd (List.cons.inj same).1 (by decide)
  · next same =>
    obtain ⟨rfl, rfl⟩ := List.cons.inj same
    rw [if_neg (by decide), if_pos (beq_self_eq_true ','), skipBlanks_append begun]
    split
    · contradiction
    · next close => exact absurd (List.cons.inj close).1 noClose
    · rfl

theorem Spells.readValue (spells : Spells use chars value) (ends : EndsNumber suffix)
    (enough : fuelFor chars ≤ fuel) :
    ∃ blanks, skipBlanks blanks = [] ∧
      readValue use fuel (skipBlanks (chars ++ suffix)) = .ok (value, blanks ++ suffix) := by
  obtain ⟨blanks, read, blank⟩ := spells
  refine ⟨blanks, blank, ?_⟩
  rw [readValue_skipBlanks]
  exact readValue_append ends read enough

theorem Spells.readItems_cons (spells : Spells use chars value) {isFirst : Bool}
    {text tail rest : List Char} {values : List Value}
    (next : nextItem isFirst text = .ok (some (skipBlanks (chars ++ tail))))
    (ends : EndsNumber tail) (enough : fuelFor chars ≤ fuel)
    (others : ∀ blanks, skipBlanks blanks = [] →
      readItems use false fuel (blanks ++ tail) = .ok (values, rest)) :
    readItems use isFirst (fuel + 1) text = .ok (value :: values, rest) := by
  obtain ⟨blanks, blank, read⟩ := spells.readValue ends enough
  unfold readItems
  refine bind_of_ok next (bind_of_ok read (bind_of_ok (others blanks blank) ?_))
  rfl

def behindCommas (texts : List (List Char)) : List Char := texts.flatMap (',' :: ·)

theorem behindCommas_cons (chars : List Char) (texts : List (List Char)) :
    behindCommas (chars :: texts) = ',' :: (chars ++ behindCommas texts) := rfl

theorem joinWith_comma (chars : List Char) (texts : List (List Char)) :
    Text.joinWith ',' (chars :: texts) = chars ++ behindCommas texts := by
  induction texts generalizing chars with
  | nil => simp [behindCommas]
  | cons next texts ih => rw [Text.joinWith_cons, ih, behindCommas_cons]

theorem endsNumber_behindCommas (texts : List (List Char)) (rest : List Char) :
    EndsNumber (behindCommas texts ++ ']' :: rest) := by
  cases texts with
  | nil => exact endsNumber_cons (by decide) (by decide) rest
  | cons chars texts => exact endsNumber_cons (by decide) (by decide) _

theorem readItems_behindCommas {texts : List (List Char)} {values : List Value}
    (spelled : List.Forall₂ (Spells use) texts values) (rest : List Char)
    (enough : fuelFor (behindCommas texts) ≤ fuel) {blanks : List Char}
    (blank : skipBlanks blanks = []) :
    readItems use false fuel (blanks ++ (behindCommas texts ++ ']' :: rest)) =
      .ok (values, rest) := by
  induction spelled generalizing fuel blanks with
  | nil =>
    obtain ⟨fuel, rfl⟩ : ∃ less, fuel = less + 1 := ⟨fuel - 1, by unfold fuelFor at enough; omega⟩
    have close : skipBlanks (blanks ++ ']' :: rest) = ']' :: rest := skipBlanks_append_of_nil blank _
    have noItem : nextItem false (blanks ++ ']' :: rest) = .ok none := by
      rw [nextItem, close]
      rfl
    unfold readItems
    refine bind_of_ok noItem ?_
    change Except.ok ([], (skipBlanks (blanks ++ ']' :: rest)).drop 1) = _
    rw [close]
    rfl
  | @cons chars value texts values spells spelled ih =>
    simp only [fuelFor, behindCommas_cons, List.length_cons, List.length_append] at enough
    obtain ⟨fuel, rfl⟩ : ∃ less, fuel = less + 1 := ⟨fuel - 1, by omega⟩
    rw [behindCommas_cons, List.cons_append, List.append_assoc]
    refine spells.readItems_cons (spells.nextItem_later blank _)
      (endsNumber_behindCommas texts rest) (by unfold fuelFor; omega) fun blanks blank => ?_
    exact ih (by unfold fuelFor; omega) blank

theorem readItems_joined {texts : List (List Char)} {values : List Value}
    (spelled : List.Forall₂ (Spells use) texts values) (rest : List Char)
    (enough : fuelFor (Text.joinWith ',' texts) < fuel) :
    readItems use true fuel (Text.joinWith ',' texts ++ ']' :: rest) = .ok (values, rest) := by
  obtain ⟨fuel, rfl⟩ : ∃ less, fuel = less + 1 := ⟨fuel - 1, by omega⟩
  cases spelled with
  | nil => rfl
  | @cons chars value texts values spells spelled =>
    rw [joinWith_comma] at enough ⊢
    simp only [fuelFor, List.length_append] at enough
    rw [List.append_assoc]
    refine spells.readItems_cons (spells.nextItem_first _)
      (endsNumber_behindCommas texts rest) (by unfold fuelFor; omega) fun blanks blank => ?_
    exact readItems_behindCommas spelled rest (by unfold fuelFor; omega) blank

end Lists

theorem spells_iff_parse {text : String} {value : Value} :
    Spells (.keep nestingLimit) text.toList value ↔ parse text = .ok value := by
  constructor
  · rintro ⟨rest, read, blank⟩
    have ended : readEnd rest = .ok () := by
      rw [readEnd, blank]
      rfl
    exact bind_of_ok read (bind_of_ok ended rfl)
  · intro parsed
    obtain ⟨⟨found, rest⟩, read, parsed⟩ := bind_ok parsed
    obtain ⟨_, ended, parsed⟩ := bind_ok parsed
    cases parsed
    unfold readEnd at ended
    split at ended
    · next blank => exact ⟨rest, read, List.isEmpty_iff.mp blank⟩
    · contradiction

end Json

namespace Fact.Document
open Json

def ofTexts (texts : List String) : String := "\x7b\"facts\":[" ++ ",".intercalate texts ++ "]\x7d"

theorem toList_ofTexts (texts : List String) :
    (ofTexts texts).toList = '\x7b' :: '"' :: 'f' :: 'a' :: 'c' :: 't' :: 's' :: '"' :: ':' :: '[' ::
      (Text.joinWith ',' (texts.map String.toList) ++ [']', '\x7d']) := by
  unfold ofTexts
  rw [String.toList_append, String.toList_append, String.toList_intercalate]
  rfl

def recordLevels : Nat := nestingLimit - 2

theorem readNamed_facts {use inner : Use} {chars : List Char} {records : List Value}
    (entered : use.enter = .ok inner)
    (read : readItems inner true (fuelFor chars) chars = .ok (records, ['\x7d'])) (fuel : Nat) :
    readNamed use none true (fuel + 2)
      ('"' :: 'f' :: 'a' :: 'c' :: 't' :: 's' :: '"' :: ':' :: '[' :: chars) = .ok (records, []) := by
  have key : readString true ('f' :: 'a' :: 'c' :: 't' :: 's' :: '"' :: ':' :: '[' :: chars) =
    .ok ("facts", ':' :: '[' :: chars) := rfl
  have colon : readColon (':' :: '[' :: chars) = .ok ('[' :: chars) := rfl
  have list : readRecords use ('[' :: chars) = .ok (records, ['\x7d']) := bind_of_ok entered read
  unfold readNamed
  exact bind_of_ok rfl (bind_of_ok key (bind_of_ok colon (bind_of_ok list rfl)))

theorem read_ofTexts {texts : List String} {records : List Value}
    (spelled : List.Forall₂ (fun text record => Spells (.keep recordLevels) text.toList record)
      texts records) : read (ofTexts texts) = .ok records := by
  have listed : List.Forall₂ (Spells (.keep recordLevels)) (texts.map String.toList) records :=
    List.forall₂_map_left_iff.mpr spelled
  have enough : fuelFor (Text.joinWith ',' (texts.map String.toList)) <
      fuelFor (Text.joinWith ',' (texts.map String.toList) ++ [']', '\x7d']) := by
    simp [fuelFor]
  have items := readItems_joined listed ['\x7d'] enough
  have entered : (Use.keep nestingLimit).enter = .ok (.keep (nestingLimit - 1)) := rfl
  have opened : readOpening (ofTexts texts).toList = .ok (records, []) := by
    rw [toList_ofTexts]
    exact bind_of_ok entered (readNamed_facts rfl items _)
  have begun : skipBlanks (ofTexts texts).toList = (ofTexts texts).toList := by
    rw [toList_ofTexts]
    rfl
  have ended : readEnd [] = .ok () := rfl
  unfold read
  split
  · next empty =>
    rw [begun, toList_ofTexts] at empty
    contradiction
  · rw [begun]
    exact bind_of_ok opened (bind_of_ok ended rfl)

end Fact.Document

end NamingAudit
