import NamingAudit.Proofs.KeptLetters
import Mathlib.Tactic.IntervalCases

/-! Which migrations pass. A time stamp is a moment of the calendar written with a fixed number of digits,
and a number of so many digits has one spelling. A name passes exactly when its stem is a time stamp, an
underscore and a description in snake case, and nothing on the way is cut inside a character. -/

namespace NamingAudit

namespace Rules
open Text Casing

variable {count value year month : Nat} {text path base stem description : List Char}

def padded : Nat → Nat → List Char
  | 0, _ => []
  | count + 1, value => padded count (value / 10) ++ [(value % 10).digitChar]

theorem isAsciiDigit_iff {c : Char} : isAsciiDigit c = true ↔ 48 ≤ c.toNat ∧ c.toNat ≤ 57 := by
  rw [isAsciiDigit, Bool.and_eq_true, decide_eq_true_eq, decide_eq_true_eq, Char.le_def, Char.le_def,
    UInt32.le_iff_toNat_le, UInt32.le_iff_toNat_le]
  rfl

theorem isDigits_concat {front : List Char} {last : Char} :
    isDigits (count + 1) (front ++ [last]) = true ↔
      isDigits count front = true ∧ isAsciiDigit last = true := by
  simp [isDigits, and_assoc]

theorem digitsValue_concat (front : List Char) (last : Char) :
    digitsValue (front ++ [last]) = digitsValue front * 10 + (last.toNat - 48) := by
  rw [digitsValue, List.foldl_append, ← digitsValue]
  rfl

theorem isDigits_padded (count value : Nat) : isDigits count (padded count value) = true := by
  induction count generalizing value with
  | zero => rfl
  | succ count ih =>
    have digit : value % 10 < 10 := Nat.mod_lt _ (by decide)
    refine isDigits_concat.mpr ⟨ih _, isAsciiDigit_iff.mpr ?_⟩
    rw [Nat.toNat_digitChar_of_lt_ten digit]
    omega

theorem length_padded (count value : Nat) : (padded count value).length = count :=
  (by simpa [isDigits] using isDigits_padded count value : _ ∧ _).1

theorem digitsValue_padded (bound : value < 10 ^ count) : digitsValue (padded count value) = value := by
  induction count generalizing value with
  | zero =>
    rw [Nat.lt_one_iff.mp bound]
    rfl
  | succ count ih =>
    have front : value / 10 < 10 ^ count := Nat.div_lt_of_lt_mul (Nat.pow_succ' ▸ bound)
    have digit : value % 10 < 10 := Nat.mod_lt _ (by decide)
    rw [padded, digitsValue_concat, ih front, Nat.toNat_digitChar_of_lt_ten digit]
    omega

theorem of_isDigits (digits : isDigits count text = true) :
    padded count (digitsValue text) = text ∧ digitsValue text < 10 ^ count := by
  induction count generalizing text with
  | zero =>
    obtain rfl : text = [] := (by simpa [isDigits] using digits : text = [] ∧ _).1
    exact ⟨rfl, Nat.one_pos⟩
  | succ count ih =>
    rcases List.eq_nil_or_concat text with rfl | ⟨front, last, rfl⟩
    · simp [isDigits] at digits
    · -- The value leaves the last digit behind when divided by ten, and the digits before it as quotient.
      rw [List.concat_eq_append] at digits ⊢
      obtain ⟨frontDigits, lastDigit⟩ := isDigits_concat.mp digits
      obtain ⟨spelled, bound⟩ := ih frontDigits
      have lastBound := isAsciiDigit_iff.mp lastDigit
      have tens : (digitsValue front * 10 + (last.toNat - 48)) / 10 = digitsValue front := by omega
      have ones : (digitsValue front * 10 + (last.toNat - 48)) % 10 = last.toNat - 48 := by omega
      have same : (last.toNat - 48).digitChar = last := by
        apply Char.toNat_inj.mp
        rw [Nat.toNat_digitChar_of_lt_ten (by omega)]
        omega
      rw [digitsValue_concat, padded, tens, ones, spelled, same, Nat.pow_succ]
      exact ⟨rfl, by omega⟩

theorem isDigits_append {width : Nat} {front rest : List Char} (frontDigits : isDigits count front = true)
    (restDigits : isDigits width rest = true) : isDigits (count + width) (front ++ rest) = true := by
  simp only [isDigits, Bool.and_eq_true, beq_iff_eq, List.length_append, List.all_append] at *
  exact ⟨by omega, frontDigits.2, restDigits.2⟩

theorem isDigits_take_drop {width : Nat} (digits : isDigits (count + width) text = true) :
    isDigits count (text.take count) = true ∧ isDigits width (text.drop count) = true := by
  simp only [isDigits, Bool.and_eq_true, beq_iff_eq, List.length_take, List.length_drop,
    List.all_eq_true] at *
  obtain ⟨length, all⟩ := digits
  exact ⟨⟨by omega, fun c inside => all c (List.mem_of_mem_take inside)⟩,
    by omega, fun c inside => all c (List.mem_of_mem_drop inside)⟩

theorem underscore_not_mem_padded (count value : Nat) : '_' ∉ padded count value := by
  intro inside
  have digits := isDigits_padded count value
  rw [isDigits, Bool.and_eq_true] at digits
  exact absurd (List.all_eq_true.mp digits.2 '_' inside) (by decide)

def IsLeap (year : Nat) : Prop := 4 ∣ year ∧ (¬ 100 ∣ year ∨ 400 ∣ year)

instance : DecidablePred IsLeap := fun year =>
  inferInstanceAs (Decidable (4 ∣ year ∧ (¬ 100 ∣ year ∨ 400 ∣ year)))

def monthLengths (year : Nat) : List Nat :=
  [31, if IsLeap year then 29 else 28, 31, 30, 31, 30, 31, 31, 30, 31, 30, 31]

theorem monthLengths_eq (first : 1 ≤ month) (last : month ≤ 12) (year : Nat) :
    (monthLengths year)[month - 1]? = some (daysInMonth year month) := by
  have leap : (year % 4 == 0 && (year % 100 != 0 || year % 400 == 0)) = decide (IsLeap year) := by
    rw [Bool.eq_iff_iff]
    simp [IsLeap, Nat.dvd_iff_mod_eq_zero]
  rw [daysInMonth, leap]
  interval_cases month <;> simp [monthLengths]

def stampPieces (year month day hour minute second : Nat) : List (List Char) :=
  [padded 4 year, padded 2 month, padded 2 day,
    padded 2 hour ++ (padded 2 minute ++ padded 2 second)]

theorem splitOn_stampPieces (year month day hour minute second : Nat) :
    splitOn '_' (joinWith '_' (stampPieces year month day hour minute second)) =
      stampPieces year month day hour minute second := by
  refine splitOn_joinWith ?_ (List.cons_ne_nil _ _)
  simp [stampPieces, underscore_not_mem_padded]

theorem isTimestamp_joined {day hour minute second : Nat} (years : year < 10 ^ 4) (months : month < 10 ^ 2)
    (days : day < 10 ^ 2) (hours : hour < 10 ^ 2) (minutes : minute < 10 ^ 2) (seconds : second < 10 ^ 2) :
    isTimestamp (joinWith '_' (stampPieces year month day hour minute second)) = true ↔
      1 ≤ month ∧ month ≤ 12 ∧ 1 ≤ day ∧ day ≤ daysInMonth year month ∧ hour ≤ 23 ∧ minute ≤ 59 ∧
        second ≤ 59 := by
  have time : isDigits 6 (padded 2 hour ++ (padded 2 minute ++ padded 2 second)) = true :=
    isDigits_append (isDigits_padded 2 hour)
      (isDigits_append (isDigits_padded 2 minute) (isDigits_padded 2 second))
  have hourPart : (padded 2 hour ++ (padded 2 minute ++ padded 2 second)).take 2 = padded 2 hour :=
    List.take_left' (length_padded 2 hour)
  have behindHour : (padded 2 hour ++ (padded 2 minute ++ padded 2 second)).drop 2 =
      padded 2 minute ++ padded 2 second := List.drop_left' (length_padded 2 hour)
  have minutePart : (padded 2 minute ++ padded 2 second).take 2 = padded 2 minute :=
    List.take_left' (length_padded 2 minute)
  have secondPart : (padded 2 hour ++ (padded 2 minute ++ padded 2 second)).drop 4 =
      padded 2 second := by
    rw [← List.append_assoc]
    exact List.drop_left' (by simp [length_padded])
  rw [isTimestamp, splitOn_stampPieces, stampPieces]
  simp only [isDigits_padded, time, hourPart, behindHour, minutePart, secondPart,
    digitsValue_padded years, digitsValue_padded months, digitsValue_padded days,
    digitsValue_padded hours, digitsValue_padded minutes, digitsValue_padded seconds,
    Bool.and_eq_true, decide_eq_true_eq, true_and, and_assoc]

theorem exists_stampPieces (timestamp : isTimestamp text = true) :
    ∃ year month day hour minute second, year < 10 ^ 4 ∧ month < 10 ^ 2 ∧ day < 10 ^ 2 ∧
      hour < 10 ^ 2 ∧ minute < 10 ^ 2 ∧ second < 10 ^ 2 ∧
        joinWith '_' (stampPieces year month day hour minute second) = text := by
  obtain ⟨year, month, day, time, pieces, years, months, days, times⟩ := pieces_of_isTimestamp timestamp
  obtain ⟨hours, behind⟩ := isDigits_take_drop (show isDigits (2 + (2 + 2)) time = true from times)
  obtain ⟨minutes, seconds⟩ := isDigits_take_drop behind
  refine ⟨_, _, _, _, _, _, (of_isDigits years).2, (of_isDigits months).2, (of_isDigits days).2,
    (of_isDigits hours).2, (of_isDigits minutes).2, (of_isDigits seconds).2, ?_⟩
  rw [stampPieces, (of_isDigits years).1, (of_isDigits months).1, (of_isDigits days).1,
    (of_isDigits hours).1, (of_isDigits minutes).1, (of_isDigits seconds).1, List.take_append_drop,
    List.take_append_drop, ← pieces, joinWith_splitOn]

theorem daysInMonth_le (year month : Nat) : daysInMonth year month ≤ 31 := by
  rw [daysInMonth]
  split_ifs <;> decide

structure Moment where
  year : Nat
  month : Nat
  day : Nat
  hour : Nat
  minute : Nat
  second : Nat
  year_le : year ≤ 9999
  month_pos : 1 ≤ month
  day_pos : 1 ≤ day
  day_le : ∃ length ∈ (monthLengths year)[month - 1]?, day ≤ length
  hour_le : hour ≤ 23
  minute_le : minute ≤ 59
  second_le : second ≤ 59

namespace Moment

theorem month_le (moment : Moment) : moment.month ≤ 12 := by
  obtain ⟨length, listed, _⟩ := moment.day_le
  obtain ⟨bound, _⟩ := List.getElem?_eq_some_iff.mp listed
  have twelve : (monthLengths moment.year).length = 12 := rfl
  omega

def stamp (moment : Moment) : List Char :=
  joinWith '_' (stampPieces moment.year moment.month moment.day moment.hour moment.minute moment.second)

theorem isTimestamp_stamp (moment : Moment) : isTimestamp moment.stamp = true := by
  obtain ⟨length, listed, dayLe⟩ := moment.day_le
  rw [monthLengths_eq moment.month_pos moment.month_le] at listed
  cases listed
  have yearLe := moment.year_le
  have monthLe := moment.month_le
  have monthLength := daysInMonth_le moment.year moment.month
  have hourLe := moment.hour_le
  have minuteLe := moment.minute_le
  have secondLe := moment.second_le
  exact (isTimestamp_joined (by omega) (by omega) (by omega) (by omega) (by omega) (by omega)).mpr
    ⟨moment.month_pos, monthLe, moment.day_pos, dayLe, hourLe, minuteLe, secondLe⟩

end Moment

/-- Time stamps are the moments of the calendar. -/
theorem isTimestamp_iff : isTimestamp text = true ↔ ∃ moment : Moment, text = moment.stamp := by
  constructor
  · intro timestamp
    obtain ⟨year, month, day, hour, minute, second, years, months, days, hours, minutes, seconds, rfl⟩ :=
      exists_stampPieces timestamp
    obtain ⟨monthPos, monthLe, dayPos, dayLe, hourLe, minuteLe, secondLe⟩ :=
      (isTimestamp_joined years months days hours minutes seconds).mp timestamp
    have inMonth : ∃ length ∈ (monthLengths year)[month - 1]?, day ≤ length :=
      ⟨_, monthLengths_eq monthPos monthLe year, dayLe⟩
    exact ⟨⟨year, month, day, hour, minute, second, Nat.le_of_lt_succ years, monthPos, dayPos, inMonth,
      hourLe, minuteLe, secondLe⟩, rfl⟩
  · rintro ⟨moment, rfl⟩
    exact moment.isTimestamp_stamp

structure IsLastPart (path base : List Char) : Prop where
  whole : ∀ c ∈ base, isSlash c = false
  behind : ∃ directory, directory ++ base = path ∧ isDirectory directory = true

theorem isLastPart_iff : IsLastPart path base ↔ baseName path = base := by
  constructor
  · rintro ⟨whole, directory, rfl, ofDirectory⟩
    exact baseName_append ofDirectory whole
  · rintro rfl
    have cut := List.takeWhile_append_dropWhile (p := fun c => !isSlash c) (l := path.reverse)
    have front := List.head?_dropWhile_not (fun c => !isSlash c) path.reverse
    refine ⟨fun _ => isSlash_of_mem_baseName,
      (path.reverse.dropWhile fun c => !isSlash c).reverse, ?_, ?_⟩
    · rw [baseName_eq, ← List.reverse_append, cut, List.reverse_reverse]
    · rw [isDirectory, List.getLast?_reverse]
      cases met : (path.reverse.dropWhile fun c => !isSlash c).head? with
      | none => rfl
      | some c => simpa [met] using front

/-- What stands before the first dot of a name. A dot at its beginning cuts nothing off. -/
inductive IsCutAtDot : List Char → List Char → Prop
  | undotted (base : List Char) (undotted : '.' ∉ base) : IsCutAtDot base base
  | hidden (rest : List Char) : IsCutAtDot ('.' :: rest) ('.' :: rest)
  | dotted (stem rest : List Char) (nonempty : stem ≠ []) (undotted : '.' ∉ stem) :
    IsCutAtDot (stem ++ '.' :: rest) stem

theorem isCutAtDot_iff : IsCutAtDot (baseName path) stem ↔ (fileParts path).1 = stem := by
  have kept {text : List Char} (undotted : '.' ∉ text) : ∀ c ∈ text, (c != '.') = true :=
    fun c inside => bne_iff_ne.mpr fun dot => undotted (dot ▸ inside)
  rw [fileParts]
  generalize baseName path = base
  constructor
  · intro cut
    cases cut with
    | undotted _ undotted =>
      split
      · rfl
      · exact List.takeWhile_eq_self_iff.mpr (kept undotted)
    | hidden rest => rfl
    | dotted _ rest nonempty undotted =>
      obtain ⟨first, others, rfl⟩ := List.exists_cons_of_ne_nil nonempty
      have other : first ≠ '.' := fun dot => undotted (dot ▸ List.mem_cons_self)
      have begins : ((first :: others ++ '.' :: rest).head? == some '.') = false := by simpa using other
      rw [begins, if_neg Bool.false_ne_true, cutAtDot, List.takeWhile_append_of_pos (kept undotted),
        List.takeWhile_cons_of_neg (by simp), List.append_nil]
  · rintro rfl
    split
    · next begins =>
      obtain ⟨rest, rfl⟩ : ∃ rest, base = '.' :: rest := by
        simpa [List.head?_eq_some_iff] using begins
      exact .hidden rest
    · next begins =>
      have undotted : '.' ∉ base.takeWhile (· != '.') := fun inside =>
        absurd (List.mem_takeWhile_imp inside) (by simp)
      have pieces := List.takeWhile_append_dropWhile (p := (· != '.')) (l := base)
      have stopped := List.head?_dropWhile_not (· != '.') base
      cases behind : base.dropWhile (· != '.') with
      | nil =>
        rw [behind, List.append_nil] at pieces
        rw [cutAtDot, pieces]
        exact .undotted base (pieces ▸ undotted)
      | cons c rest =>
        obtain rfl : c = '.' := by simpa [behind] using stopped
        have nonempty : base.takeWhile (· != '.') ≠ [] := by
          intro none
          rw [none, behind] at pieces
          simp [← pieces] at begins
        have cut := IsCutAtDot.dotted _ rest nonempty undotted
        rw [behind] at pieces
        rwa [pieces] at cut

def IsStem (path stem : List Char) : Prop := ∃ base, IsLastPart path base ∧ IsCutAtDot base stem

theorem isStem_iff : IsStem path stem ↔ (fileParts path).1 = stem := by
  constructor
  · rintro ⟨base, last, cut⟩
    rw [← isLastPart_iff.mp last] at cut
    exact isCutAtDot_iff.mp cut
  · intro stem
    exact ⟨baseName path, isLastPart_iff.mpr rfl, isCutAtDot_iff.mpr stem⟩

theorem isSnake_of_descriptionVerdict {stamp extension : List Char}
    (passed : descriptionVerdict stamp description extension = .pass) : isSnake description = true := by
  rw [descriptionVerdict] at passed
  split at passed
  · next snake => exact snake
  · contradiction

theorem of_migrationFileName_eq_pass {file : MigrationFile} (passed : migrationFileName file = .pass) :
    ∃ stamp description, (fileParts file.name.toList).1 = stamp ++ '_' :: description ∧
      isTimestamp stamp = true ∧ isSnake description = true ∧
        ∀ recorded ∈ file.timestamp, recorded = String.ofList stamp := by
  cases parts : migrationParts? (fileParts file.name.toList).1 with
  | none =>
    simp only [migrationFileName, parts] at passed
    contradiction
  | some found =>
    obtain ⟨stamp, description⟩ := found
    simp only [migrationFileName, parts] at passed
    split at passed
    · contradiction
    · next agree =>
      split at passed
      · contradiction
      · next described =>
        refine ⟨stamp, description, eq_of_migrationParts? parts (by simpa using described),
          isTimestamp_of_migrationParts? parts, isSnake_of_descriptionVerdict passed, ?_⟩
        exact fun recorded given => by simpa using Option.filter_eq_none_iff.mp agree recorded given

/-- A migration passes exactly when its stem is a moment of the calendar, an underscore and a description
in snake case, and no other time stamp is on record. The stem is what the name leaves for it, and finding
it and its parts cuts no character in two. -/
theorem migrationFileName_passes_iff (file : MigrationFile) :
    (migrationFileName file = .pass ↔
        ∃ (moment : Moment) (description : List Char),
          IsStem file.name.toList (moment.stamp ++ '_' :: description) ∧ isSnake description = true ∧
            ∀ recorded ∈ file.timestamp, recorded = String.ofList moment.stamp) ∧
      ∃ stem extension, cutFileName? file.name.toList = some (stem, extension) ∧
        (∀ other, IsStem file.name.toList other ↔ other = stem) ∧
          cutMigration? stem = some (migrationParts? stem) := by
  refine ⟨⟨fun passed => ?_, ?_⟩, (fileParts file.name.toList).1, (fileParts file.name.toList).2,
    cutFileName?_eq _, fun other => ?_, cutMigration?_eq _⟩
  · obtain ⟨stamp, description, stem, timestamp, snake, recorded⟩ := of_migrationFileName_eq_pass passed
    obtain ⟨moment, rfl⟩ := isTimestamp_iff.mp timestamp
    exact ⟨moment, description, isStem_iff.mpr stem, snake, recorded⟩
  · rintro ⟨moment, description, stem, snake, recorded⟩
    have parts := migrationParts?_append moment.isTimestamp_stamp description
    rw [← isStem_iff.mp stem] at parts
    exact migrationFileName_eq_pass parts recorded snake
  · rw [isStem_iff, eq_comm]

example : migrationFileName ⟨"db\\2000_02_29_235959_add_users.up.sql", some "2000_02_29_235959"⟩ = .pass ∧
    migrationFileName ⟨"1900_02_29_000000_add_users.php", none⟩ ≠ .pass := by decide +kernel

end Rules

end NamingAudit
