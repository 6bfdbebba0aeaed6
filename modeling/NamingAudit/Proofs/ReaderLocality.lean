import Mathlib.Data.List.DropRight
import NamingAudit.Proofs.Admission

/-! A value is read without regard to what follows it. If a text begins with a value, then a longer text
begins with the same value and leaves as much more as it is longer, unless what is added goes on with a
number. More fuel changes nothing either. -/

namespace NamingAudit.Json

theorem ite_ok {ε α β : Type} {p : Prop} [Decidable p] {one two : Except ε α} {one' two' : Except ε β}
    {result : α} {result' : β} (succeeded : (if p then one else two) = .ok result)
    (whenTrue : one = .ok result → one' = .ok result')
    (whenFalse : two = .ok result → two' = .ok result') :
    (if p then one' else two') = .ok result' := by
  split at succeeded
  · next holds => rw [if_pos holds]; exact whenTrue succeeded
  · next fails => rw [if_neg fails]; exact whenFalse succeeded

section Blanks

theorem skipBlanks_idem (chars : List Char) : skipBlanks (skipBlanks chars) = skipBlanks chars :=
  List.dropWhile_idempotent _ _

theorem skipBlanks_append_of_nil {blanks : List Char} (blank : skipBlanks blanks = [])
    (chars : List Char) : skipBlanks (blanks ++ chars) = skipBlanks chars := by
  unfold skipBlanks at blank ⊢
  rw [List.dropWhile_append, blank]
  rfl

theorem skipBlanks_append {chars rest : List Char} {c : Char} (begun : skipBlanks chars = c :: rest)
    (suffix : List Char) : skipBlanks (chars ++ suffix) = c :: (rest ++ suffix) := by
  unfold skipBlanks at begun ⊢
  rw [List.dropWhile_append, begun]
  rfl

theorem drop_skipBlanks_append {chars : List Char} (solid : skipBlanks chars ≠ [])
    (suffix : List Char) :
    (skipBlanks (chars ++ suffix)).drop 1 = (skipBlanks chars).drop 1 ++ suffix := by
  obtain ⟨c, rest, begun⟩ := List.exists_cons_of_ne_nil solid
  rw [skipBlanks_append begun, begun]
  rfl

end Blanks

def EndsNumber (suffix : List Char) : Prop :=
  ∀ c ∈ suffix.head?, Text.isAsciiDigit c = false ∧ c ≠ '.' ∧ c ≠ 'e' ∧ c ≠ 'E'

theorem endsNumber_cons {c : Char} (digit : Text.isAsciiDigit c = false)
    (other : c ≠ '.' ∧ c ≠ 'e' ∧ c ≠ 'E') (rest : List Char) : EndsNumber (c :: rest) := by
  intro head isHead
  cases Option.some.inj isHead
  exact ⟨digit, other⟩

section Numbers

variable {suffix chars rest : List Char} {kept negative : Bool}

theorem takeDigits_append (ends : EndsNumber suffix) (chars : List Char) :
    takeDigits (chars ++ suffix) = ((takeDigits chars).1, (takeDigits chars).2 ++ suffix) := by
  induction chars with
  | nil =>
    cases suffix with
    | nil => rfl
    | cons c more => simp [takeDigits, (ends c rfl).1]
  | cons c chars ih =>
    cases digit : Text.isAsciiDigit c with
    | false => simp [takeDigits, digit]
    | true =>
      simp only [takeDigits, Prod.mk.injEq] at ih
      simp [takeDigits, digit, ih.1, ih.2]

theorem someDigits_iff {digits : List Char} :
    (match takeDigits chars with
      | ([], rest) => Except.error (missingDigit kept rest)
      | digits => Except.ok digits) = .ok (digits, rest) ↔
      takeDigits chars = (digits, rest) ∧ digits ≠ [] := by
  split
  · next left found =>
    refine ⟨fun read => by contradiction, fun same => ?_⟩
    exact absurd (Prod.mk.inj (found.symm.trans same.1)).1.symm same.2
  · next solid =>
    refine ⟨fun read => ?_, fun same => congrArg Except.ok same.1⟩
    have same := Except.ok.inj read
    exact ⟨same, fun none => solid rest (by rw [same, none])⟩

theorem someDigits_append (ends : EndsNumber suffix) {digits : List Char}
    (found : takeDigits chars = (digits, rest) ∧ digits ≠ []) :
    takeDigits (chars ++ suffix) = (digits, rest ++ suffix) ∧ digits ≠ [] := by
  rw [takeDigits_append ends, found.1]
  exact ⟨rfl, found.2⟩

theorem readWhole_append (ends : EndsNumber suffix) {digits : List Char}
    (read : readWhole kept chars = .ok (digits, rest)) :
    readWhole kept (chars ++ suffix) = .ok (digits, rest ++ suffix) := by
  unfold readWhole at read
  split at read
  · next after =>
    split at read
    · contradiction
    · next alone =>
      cases read
      have still : ¬ (rest ++ suffix).head?.any Text.isAsciiDigit = true := by
        cases rest with
        | nil =>
          cases suffix with
          | nil => exact alone
          | cons c more => simp [(ends c rfl).1]
        | cons c more => exact alone
      rw [List.cons_append, readWhole, if_neg still]
  · next noZero =>
    obtain ⟨found, some⟩ := someDigits_append ends (someDigits_iff.mp read)
    rw [readWhole]
    · exact someDigits_iff.mpr ⟨found, some⟩
    · intro more same
      cases chars with
      | nil => contradiction
      | cons c chars => exact noZero chars (by rw [(List.cons.inj same).1])

theorem readFraction_append (ends : EndsNumber suffix) {digits : List Char}
    (read : readFraction kept chars = .ok (digits, rest)) :
    readFraction kept (chars ++ suffix) = .ok (digits, rest ++ suffix) := by
  unfold readFraction at read
  split at read
  · next after => exact someDigits_iff.mpr (someDigits_append ends (someDigits_iff.mp read))
  · next noPoint =>
    cases read
    rw [readFraction]
    intro more same
    cases chars with
    | nil => exact (ends '.' (by rw [← List.nil_append suffix, same]; rfl)).2.1 rfl
    | cons c chars => exact noPoint chars (by rw [(List.cons.inj same).1])

theorem readExponentSign_append (solid : chars ≠ []) (suffix : List Char) :
    readExponentSign (chars ++ suffix) =
      ((readExponentSign chars).1, (readExponentSign chars).2 ++ suffix) := by
  cases chars with
  | nil => contradiction
  | cons c chars =>
    by_cases plus : c = '+'
    · rw [plus]; rfl
    · by_cases minus : c = '-'
      · rw [minus]; rfl
      · rw [List.cons_append]
        simp [readExponentSign, plus, minus]

theorem readExponentDigits_eq_ok_iff {exponent : Option Int} :
    readExponentDigits kept chars = .ok (exponent, rest) ↔
      ∃ digits, (takeDigits (readExponentSign chars).2 = (digits, rest) ∧ digits ≠ []) ∧
        some (if (readExponentSign chars).1 then -(digitsToNat digits : Int)
          else digitsToNat digits) = exponent := by
  unfold readExponentDigits
  simp only
  split
  · next left found =>
    refine ⟨fun read => by contradiction, ?_⟩
    rintro ⟨digits, ⟨same, solid⟩, -⟩
    exact absurd (Prod.mk.inj (found.symm.trans same)).1.symm solid
  · next digits left solid found =>
    constructor
    · intro read
      obtain ⟨value, remains⟩ := Prod.mk.inj (Except.ok.inj read)
      exact ⟨digits, ⟨by rw [found, remains], solid⟩, value⟩
    · rintro ⟨digits', ⟨same, -⟩, rfl⟩
      cases found.symm.trans same
      rfl

theorem readExponentDigits_append (ends : EndsNumber suffix) {exponent : Option Int}
    (read : readExponentDigits kept chars = .ok (exponent, rest)) :
    readExponentDigits kept (chars ++ suffix) = .ok (exponent, rest ++ suffix) := by
  have solid : chars ≠ [] := by
    rintro rfl
    contradiction
  rw [readExponentDigits_eq_ok_iff] at read ⊢
  obtain ⟨digits, found, value⟩ := read
  rw [readExponentSign_append solid]
  exact ⟨digits, someDigits_append ends found, value⟩

theorem readExponent_append (ends : EndsNumber suffix) {exponent : Option Int}
    (read : readExponent kept chars = .ok (exponent, rest)) :
    readExponent kept (chars ++ suffix) = .ok (exponent, rest ++ suffix) := by
  unfold readExponent at read
  split at read
  · exact readExponentDigits_append ends read
  · exact readExponentDigits_append ends read
  · next noSmall noLarge =>
    cases read
    rw [readExponent]
    · intro more same
      cases chars with
      | nil => exact (ends 'e' (by rw [← List.nil_append suffix, same]; rfl)).2.2.1 rfl
      | cons c chars => exact noSmall chars (by rw [(List.cons.inj same).1])
    · intro more same
      cases chars with
      | nil => exact (ends 'E' (by rw [← List.nil_append suffix, same]; rfl)).2.2.2 rfl
      | cons c chars => exact noLarge chars (by rw [(List.cons.inj same).1])

theorem readNumber_append (ends : EndsNumber suffix) {value : Value}
    (read : readNumber kept negative chars = .ok (value, rest)) :
    readNumber kept negative (chars ++ suffix) = .ok (value, rest ++ suffix) := by
  obtain ⟨⟨whole, behindWhole⟩, wholeRead, read⟩ := bind_ok read
  obtain ⟨⟨fraction, behindFraction⟩, fractionRead, read⟩ := bind_ok read
  obtain ⟨⟨exponent, behind⟩, exponentRead, read⟩ := bind_ok read
  refine bind_of_ok (readWhole_append ends wholeRead) ?_
  refine bind_of_ok (readFraction_append ends fractionRead) ?_
  refine bind_of_ok (readExponent_append ends exponentRead) ?_
  refine ite_ok read (fun read => ?_) (fun read => by cases read; rfl)
  split at read
  · cases read
    rfl
  · contradiction

end Numbers

section Texts

variable {chars rest : List Char} {kept : Bool}

theorem le_foldl_utf8Size (chars : List Char) (size : Nat) :
    size ≤ chars.foldl (fun size c => size + c.utf8Size) size := by
  induction chars generalizing size with
  | nil => exact Nat.le_refl size
  | cons c chars ih => exact Nat.le_trans (Nat.le_add_right size _) (ih _)

theorem beginHex_append {lead : Option Nat} {state : TextState}
    (begun : beginHex lead chars = .ok state) (suffix : List Char) :
    beginHex lead (chars ++ suffix) = .ok state := by
  unfold beginHex at begun ⊢
  split at begun
  · contradiction
  · next enough =>
    rw [if_neg, ← begun]
    rw [List.take_append, List.foldl_append]
    exact fun short => enough (Nat.lt_of_le_of_lt (le_foldl_utf8Size _ _) short)

theorem readText_append {state : TextState} {before text : List Char}
    (read : readText kept state before chars = .ok (text, rest)) (suffix : List Char) :
    readText kept state before (chars ++ suffix) = .ok (text, rest ++ suffix) := by
  induction chars generalizing state before with
  | nil => contradiction
  | cons c chars ih =>
    rw [List.cons_append]
    unfold readText at read ⊢
    cases state with
    | plain =>
      refine ite_ok read (fun quote => by cases quote; rfl) fun read => ?_
      refine ite_ok read ih fun read => ?_
      exact ite_ok read (fun control => by contradiction) ih
    | escape =>
      simp only at read ⊢
      split at read
      · exact ih read
      · refine ite_ok read (fun read => ?_) fun unknown => by contradiction
        split at read
        · next state begun =>
          rw [beginHex_append begun]
          exact ih read
        · contradiction
    | hex lead missing code =>
      simp only at read ⊢
      split at read
      · contradiction
      · refine ite_ok read (fun read => ?_) ih
        split at read
        · exact ih read
        · contradiction
    | pairBackslash lead => exact ite_ok read ih fun other => by contradiction
    | pairLetter lead =>
      refine ite_ok read (fun read => ?_) fun other => by contradiction
      split at read
      · next state begun =>
        rw [beginHex_append begun]
        exact ih read
      · contradiction

theorem readString_append {text : String} (read : readString kept chars = .ok (text, rest))
    (suffix : List Char) : readString kept (chars ++ suffix) = .ok (text, rest ++ suffix) := by
  obtain ⟨⟨letters, behind⟩, lettersRead, read⟩ := bind_ok read
  refine bind_of_ok (readText_append lettersRead suffix) ?_
  cases read
  rfl

theorem readLiteral_append {value found : Value} {wanted : List Char}
    (read : readLiteral value wanted chars = .ok (found, rest)) (suffix : List Char) :
    readLiteral value wanted (chars ++ suffix) = .ok (found, rest ++ suffix) := by
  induction wanted generalizing chars with
  | nil =>
    cases read
    rfl
  | cons letter wanted ih =>
    cases chars with
    | nil => contradiction
    | cons c chars =>
      rw [List.cons_append]
      exact ite_ok read ih fun other => by contradiction

end Texts

section Values

variable {suffix chars rest : List Char}

theorem readScalar?_append (ends : EndsNumber suffix) {kept : Bool} {value : Value}
    (read : readScalar? kept chars = some (.ok (value, rest))) :
    readScalar? kept (chars ++ suffix) = some (.ok (value, rest ++ suffix)) := by
  unfold readScalar? at read
  split at read
  · exact congrArg some (readLiteral_append (Option.some.inj read) suffix)
  · exact congrArg some (readLiteral_append (Option.some.inj read) suffix)
  · exact congrArg some (readLiteral_append (Option.some.inj read) suffix)
  · exact congrArg some (readNumber_append ends (Option.some.inj read))
  · obtain ⟨⟨text, behind⟩, textRead, same⟩ := map_ok (Option.some.inj read)
    cases same
    rw [List.cons_append, readScalar?, readString_append textRead]
    rfl
  · next c tail noNull noTrue noFalse noSign noQuote =>
    split at read
    · next digit =>
      rw [List.cons_append, readScalar?]
      · rw [if_pos digit]
        exact congrArg some (readNumber_append ends (Option.some.inj read))
      exacts [noNull, noTrue, noFalse, noSign, noQuote]
    · contradiction
  · contradiction

theorem nextItem_append {isFirst : Bool} {found : Option (List Char)}
    (next : nextItem isFirst chars = .ok found) (suffix : List Char) :
    nextItem isFirst (chars ++ suffix) = .ok (found.map (· ++ suffix)) := by
  unfold nextItem at next
  split at next
  · contradiction
  · next begun =>
    cases next
    rw [nextItem, skipBlanks_append begun]
    rfl
  · next c after noClose begun =>
    rw [nextItem, skipBlanks_append begun]
    simp only
    refine ite_ok next (fun next => by cases next; rfl) fun next => ?_
    refine ite_ok next (fun next => ?_) fun other => by contradiction
    split at next
    · contradiction
    · contradiction
    · next solid noClose =>
      cases next
      obtain ⟨first, more, begun⟩ := List.exists_cons_of_ne_nil solid
      rw [begun] at noClose
      rw [skipBlanks_append begun, begun]
      split
      · contradiction
      · next same => exact (noClose more (by rw [(List.cons.inj same).1])).elim
      · rfl

theorem nextKey_append {isFirst : Bool} {found : Option (List Char)}
    (next : nextKey isFirst chars = .ok found) (suffix : List Char) :
    nextKey isFirst (chars ++ suffix) = .ok (found.map (· ++ suffix)) := by
  unfold nextKey at next
  split at next
  · contradiction
  · next begun =>
    cases next
    rw [nextKey, skipBlanks_append begun]
    rfl
  · next c after noClose begun =>
    rw [nextKey, skipBlanks_append begun]
    simp only
    refine ite_ok next (fun next => ?_) fun next => ?_
    · exact ite_ok next (fun next => by cases next; rfl) fun other => by contradiction
    · refine ite_ok next (fun next => ?_) fun other => by contradiction
      split at next
      · contradiction
      · next start found =>
        cases next
        rw [skipBlanks_append found]
        rfl
      · contradiction

theorem readColon_append (read : readColon chars = .ok rest) (suffix : List Char) :
    readColon (chars ++ suffix) = .ok (rest ++ suffix) := by
  unfold readColon at read
  split at read
  · contradiction
  · next begun =>
    cases read
    rw [readColon, skipBlanks_append begun]
    rfl
  · contradiction

theorem nextItem_none {isFirst : Bool} (none : nextItem isFirst chars = .ok none) :
    skipBlanks chars ≠ [] := by
  intro blank
  rw [nextItem, blank] at none
  contradiction

theorem nextKey_none {isFirst : Bool} (none : nextKey isFirst chars = .ok none) :
    skipBlanks chars ≠ [] := by
  intro blank
  rw [nextKey, blank] at none
  contradiction

/-- With that much fuel, a value, the rest of a list and the rest of an object are each read in the same
way where more fuel is left and more text follows. -/
structure Carries (suffix : List Char) (extra fuel : Nat) : Prop where
  value : ∀ {use : Use} {chars rest : List Char} {value : Value},
    readValue use fuel chars = .ok (value, rest) →
      readValue use (fuel + extra) (chars ++ suffix) = .ok (value, rest ++ suffix)
  items : ∀ {use : Use} {isFirst : Bool} {chars rest : List Char} {items : List Value},
    readItems use isFirst fuel chars = .ok (items, rest) →
      readItems use isFirst (fuel + extra) (chars ++ suffix) = .ok (items, rest ++ suffix)
  members : ∀ {use : Use} {isFirst : Bool} {chars rest : List Char}
    {members : List (String × Value)},
    readMembers use isFirst fuel chars = .ok (members, rest) →
      readMembers use isFirst (fuel + extra) (chars ++ suffix) = .ok (members, rest ++ suffix)

namespace Carries

variable {extra fuel : Nat}

theorem value_succ (carries : Carries suffix extra fuel) (ends : EndsNumber suffix) {use : Use}
    {value : Value} (read : readValue use (fuel + 1) chars = .ok (value, rest)) :
    readValue use (fuel + 1 + extra) (chars ++ suffix) = .ok (value, rest ++ suffix) := by
  rw [Nat.add_right_comm]
  unfold readValue at read ⊢
  split at read
  · contradiction
  · next after begun =>
    rw [skipBlanks_append begun]
    obtain ⟨inner, entered, read⟩ := bind_ok read
    obtain ⟨⟨items, behind⟩, itemsRead, read⟩ := bind_ok read
    refine bind_of_ok entered (bind_of_ok (carries.items itemsRead) ?_)
    cases read
    rfl
  · next after begun =>
    rw [skipBlanks_append begun]
    obtain ⟨inner, entered, read⟩ := bind_ok read
    obtain ⟨⟨members, behind⟩, membersRead, read⟩ := bind_ok read
    refine bind_of_ok entered (bind_of_ok (carries.members membersRead) ?_)
    cases read
    rfl
  · next solid noList noObject =>
    obtain ⟨first, more, begun⟩ := List.exists_cons_of_ne_nil solid
    have scalar : readScalar? use.isKept (skipBlanks chars) = some (.ok (value, rest)) := by
      cases found : readScalar? use.isKept (skipBlanks chars) with
      | none => rw [found] at read; contradiction
      | some result => rw [found] at read; exact congrArg some read
    have longer := readScalar?_append ends scalar
    rw [begun] at noList noObject longer
    rw [skipBlanks_append begun]
    split
    · contradiction
    · next same => exact (noList more (by rw [(List.cons.inj same).1])).elim
    · next same => exact (noObject more (by rw [(List.cons.inj same).1])).elim
    · rw [← List.cons_append, longer]
      rfl

theorem items_succ (carries : Carries suffix extra fuel) {use : Use} {isFirst : Bool}
    {items : List Value} (read : readItems use isFirst (fuel + 1) chars = .ok (items, rest)) :
    readItems use isFirst (fuel + 1 + extra) (chars ++ suffix) = .ok (items, rest ++ suffix) := by
  rw [Nat.add_right_comm]
  unfold readItems at read ⊢
  obtain ⟨found, next, read⟩ := bind_ok read
  refine bind_of_ok (nextItem_append next suffix) ?_
  cases found with
  | none =>
    cases read
    rw [drop_skipBlanks_append (nextItem_none next)]
    rfl
  | some start =>
    obtain ⟨⟨item, behind⟩, itemRead, read⟩ := bind_ok read
    obtain ⟨⟨items, behindAll⟩, itemsRead, read⟩ := bind_ok read
    refine bind_of_ok (carries.value itemRead) (bind_of_ok (carries.items itemsRead) ?_)
    cases read
    rfl

theorem members_succ (carries : Carries suffix extra fuel) {use : Use} {isFirst : Bool}
    {members : List (String × Value)}
    (read : readMembers use isFirst (fuel + 1) chars = .ok (members, rest)) :
    readMembers use isFirst (fuel + 1 + extra) (chars ++ suffix) = .ok (members, rest ++ suffix) := by
  rw [Nat.add_right_comm]
  unfold readMembers at read ⊢
  obtain ⟨found, next, read⟩ := bind_ok read
  refine bind_of_ok (nextKey_append next suffix) ?_
  cases found with
  | none =>
    cases read
    rw [drop_skipBlanks_append (nextKey_none next)]
    rfl
  | some start =>
    obtain ⟨⟨key, behindKey⟩, keyRead, read⟩ := bind_ok read
    obtain ⟨behindColon, colonRead, read⟩ := bind_ok read
    obtain ⟨⟨value, behindValue⟩, valueRead, read⟩ := bind_ok read
    obtain ⟨⟨members, behindAll⟩, membersRead, read⟩ := bind_ok read
    refine bind_of_ok (readString_append keyRead suffix) ?_
    refine bind_of_ok (readColon_append colonRead suffix) ?_
    refine bind_of_ok (carries.value valueRead) (bind_of_ok (carries.members membersRead) ?_)
    cases read
    rfl

end Carries

theorem carries (ends : EndsNumber suffix) (extra fuel : Nat) : Carries suffix extra fuel := by
  induction fuel with
  | zero => exact ⟨fun read => by contradiction, fun read => by contradiction,
      fun read => by contradiction⟩
  | succ fuel ih => exact ⟨ih.value_succ ends, ih.items_succ, ih.members_succ⟩

theorem readValue_append (ends : EndsNumber suffix) {use : Use} {fuel more : Nat} {value : Value}
    (read : readValue use fuel chars = .ok (value, rest)) (enough : fuel ≤ more) :
    readValue use more (chars ++ suffix) = .ok (value, rest ++ suffix) := by
  have longer := (carries ends (more - fuel) fuel).value read
  rwa [Nat.add_sub_cancel' enough] at longer

end Values

end NamingAudit.Json
