import Mathlib.Data.List.Induction
import Mathlib.Tactic.Ring
import ProbeLifecycle.Proofs.Sequencing
import ProbeLifecycle.Time.Rfc3339

/-!
# Times as they are written

The times of RFC 3339 are written down without regard to how they are read: digits,
marks, and what a number must not exceed.  Reading accepts these texts and no others.
What is read depends on the instant that is meant and on whether it lies in a leap
second, but not on how it is written.
-/

namespace ProbeLifecycle.Rfc3339

open Text

structure Numeral (count : Nat) where
  digits : List Char
  length_digits : digits.length = count
  isDigit : digits.all Char.isDigit = true

def Numeral.value {count : Nat} (numeral : Numeral count) : Nat :=
  digitsValue numeral.digits

/-- The digits of a fraction; without any, no fraction is written. -/
structure Fraction where
  digits : List Char
  isDigit : digits.all Char.isDigit = true

def Fraction.chars (fraction : Fraction) : List Char :=
  if fraction.digits = [] then [] else '.' :: fraction.digits

def Fraction.nanoseconds (fraction : Fraction) : Nat :=
  digitsValue fraction.digits * nanosecondsPerSecond / 10 ^ fraction.digits.length

inductive Zone where
  | universal (letter : Char) (isLetter : letter ∈ ['Z', 'z'])
  | ahead (hours minutes : Numeral 2) (hours_le : hours.value ≤ 23)
      (minutes_le : minutes.value ≤ 59)
  | behind (sign : Char) (isSign : sign ∈ ['-', '\u2212']) (hours minutes : Numeral 2)
      (hours_le : hours.value ≤ 23) (minutes_le : minutes.value ≤ 59)

namespace Zone

def chars : Zone → List Char
  | universal letter _ => [letter]
  | ahead hours minutes _ _ => '+' :: hours.digits ++ ':' :: minutes.digits
  | behind sign _ hours minutes _ _ => sign :: hours.digits ++ ':' :: minutes.digits

def offset : Zone → Int
  | universal _ _ => 0
  | ahead hours minutes _ _ => (hours.value * 3600 + minutes.value * 60 : Nat)
  | behind _ _ hours minutes _ _ => -(hours.value * 3600 + minutes.value * 60 : Nat)

end Zone

structure WrittenTime where
  year : Numeral 4
  month : Numeral 2
  day : Numeral 2
  separator : Char
  isSeparator : separator ∈ ['T', 't', ' ']
  hour : Numeral 2
  minute : Numeral 2
  second : Numeral 2
  fraction : Fraction
  zone : Zone
  dayNumber : Nat
  isDate : Calendar.dayNumber? year.value month.value day.value = some dayNumber
  hour_le : hour.value ≤ 23
  minute_le : minute.value ≤ 59
  second_le : second.value ≤ 60

namespace WrittenTime

def chars (written : WrittenTime) : List Char :=
  written.year.digits ++ '-' :: written.month.digits ++ '-' :: written.day.digits ++
    written.separator :: written.hour.digits ++ ':' :: written.minute.digits ++
    ':' :: written.second.digits ++ written.fraction.chars ++ written.zone.chars

def text (written : WrittenTime) : String :=
  .ofList written.chars

/-- The nanoseconds since the start of the calendar, in universal time. -/
def nanoseconds (written : WrittenTime) : Int :=
  (written.dayNumber * Timestamp.secondsPerDay + written.hour.value * 3600 +
      written.minute.value * 60 + written.second.value - written.zone.offset) *
    nanosecondsPerSecond + written.fraction.nanoseconds

/-- Whether a time lies in the sixtieth second of a minute. -/
def isLeap (written : WrittenTime) : Bool :=
  written.second.value == 60

def timestamp (written : WrittenTime) : Timestamp :=
  .ofLocal written.dayNumber
    (written.hour.value * 3600 + written.minute.value * 60 + min written.second.value 59)
    (if written.isLeap then nanosecondsPerSecond + written.fraction.nanoseconds
      else written.fraction.nanoseconds)
    written.zone.offset

/-- Two times mean the same instant, however they are written. -/
def SameInstant (written other : WrittenTime) : Prop :=
  written.nanoseconds = other.nanoseconds ∧ written.isLeap = other.isLeap

end WrittenTime

section Digits

theorem digitsValue_append (first second : List Char) :
    digitsValue (first ++ second) =
      digitsValue first * 10 ^ second.length + digitsValue second := by
  have joined : digitsValue (first ++ second) =
      Nat.ofDigitChars 10 second (digitsValue first) := List.foldl_append
  rw [joined, Nat.ofDigitChars_eq_ofDigitChars_zero, Nat.mul_comm]
  rfl

theorem digitsValue_lt {digits : List Char} (isDigit : digits.all Char.isDigit = true) :
    digitsValue digits < 10 ^ digits.length := by
  induction digits using List.reverseRecOn with
  | nil => simp [digitsValue]
  | append_singleton digits digit ih =>
      rw [List.all_append, Bool.and_eq_true] at isDigit
      obtain ⟨areDigits, isLast⟩ := isDigit
      have less := ih areDigits
      have small : digitsValue [digit] < 10 := by
        have bounds := toNat_of_isDigit (List.all_eq_true.mp isLast digit List.mem_cons_self)
        simp [digitsValue, digitValue]
        omega
      rw [digitsValue_append, List.length_append, List.length_singleton, pow_succ]
      omega

end Digits

section Parts

variable {count value : Nat} {chars rest : List Char}

theorem takeDigits_eq_ok :
    takeDigits count chars = .ok (value, rest) ↔
      ∃ numeral : Numeral count, chars = numeral.digits ++ rest ∧ value = numeral.value := by
  constructor
  · intro taken
    simp only [takeDigits] at taken
    split at taken
    · rename_i areDigits
      cases taken
      exact ⟨⟨chars.take count, areDigits.1, areDigits.2⟩,
        (List.take_append_drop count chars).symm, rfl⟩
    · cases taken
  · rintro ⟨⟨digits, rfl, isDigit⟩, rfl, rfl⟩
    simp [takeDigits, Numeral.value, isDigit]

/-- Reading goes on after the digits of a number. -/
theorem digits_then_eq_ok {α : Type} {next : Nat × List Char → Except Fault α}
    {result : α} :
    (takeDigits count chars).bind next = .ok result ↔
      ∃ (numeral : Numeral count) (rest : List Char), chars = numeral.digits ++ rest ∧
        next (numeral.value, rest) = .ok result := by
  rw [bind_eq_ok]
  constructor
  · rintro ⟨⟨value, rest⟩, taken, later⟩
    obtain ⟨numeral, isChars, rfl⟩ := takeDigits_eq_ok.mp taken
    exact ⟨numeral, rest, isChars, later⟩
  · rintro ⟨numeral, rest, isChars, later⟩
    exact ⟨_, takeDigits_eq_ok.mpr ⟨numeral, isChars, rfl⟩, later⟩

theorem takeMark_eq_ok {marks : List Char} :
    takeMark marks chars = .ok rest ↔ ∃ mark ∈ marks, chars = mark :: rest := by
  constructor
  · intro taken
    unfold takeMark at taken
    split at taken
    · cases taken
    · rename_i mark chars
      split at taken
      · rename_i isMark
        cases taken
        exact ⟨mark, by simpa using isMark, rfl⟩
      · cases taken
  · rintro ⟨mark, isMark, rfl⟩
    simp [takeMark, isMark]

theorem mark_then_eq_ok {α : Type} {marks : List Char} {next : List Char → Except Fault α}
    {result : α} :
    (takeMark marks chars).bind next = .ok result ↔
      ∃ mark ∈ marks, ∃ rest, chars = mark :: rest ∧ next rest = .ok result := by
  rw [bind_eq_ok]
  constructor
  · rintro ⟨rest, taken, later⟩
    obtain ⟨mark, isMark, isChars⟩ := takeMark_eq_ok.mp taken
    exact ⟨mark, isMark, rest, isChars, later⟩
  · rintro ⟨mark, isMark, rest, isChars, later⟩
    exact ⟨rest, takeMark_eq_ok.mpr ⟨mark, isMark, isChars⟩, later⟩

end Parts

section Reading

variable {chars rest : List Char}

theorem takeDate_eq_ok {number : Nat} :
    takeDate chars = .ok (number, rest) ↔
      ∃ (year : Numeral 4) (month day : Numeral 2),
        Calendar.dayNumber? year.value month.value day.value = some number ∧
          chars = year.digits ++ '-' :: (month.digits ++ '-' :: (day.digits ++ rest)) := by
  simp only [takeDate, bind, digits_then_eq_ok, mark_then_eq_ok, List.mem_singleton,
    exists_eq_left]
  constructor
  · rintro ⟨year, _, rfl, _, rfl, month, _, rfl, _, rfl, day, _, rfl, taken⟩
    split at taken
    · rename_i isDate
      cases taken
      exact ⟨year, month, day, isDate, rfl⟩
    · cases taken
  · rintro ⟨year, month, day, isDate, rfl⟩
    refine ⟨year, _, rfl, _, rfl, month, _, rfl, _, rfl, day, _, rfl, ?_⟩
    rw [isDate]
    rfl

theorem takeClock_eq_ok {clock : Clock} :
    takeClock chars = .ok (clock, rest) ↔
      ∃ hour minute second : Numeral 2, clock = ⟨hour.value, minute.value, second.value⟩ ∧
        chars =
          hour.digits ++ ':' :: (minute.digits ++ ':' :: (second.digits ++ rest)) := by
  simp only [takeClock, bind, digits_then_eq_ok, mark_then_eq_ok, List.mem_singleton,
    exists_eq_left]
  constructor
  · rintro ⟨hour, _, rfl, _, rfl, minute, _, rfl, _, rfl, second, _, rfl, taken⟩
    cases taken
    exact ⟨hour, minute, second, rfl, rfl⟩
  · rintro ⟨hour, minute, second, rfl, rfl⟩
    exact ⟨hour, _, rfl, _, rfl, minute, _, rfl, _, rfl, second, _, rfl, rfl⟩

theorem takeDate_written {number : Nat} {year : Numeral 4} {month day : Numeral 2}
    (isDate : Calendar.dayNumber? year.value month.value day.value = some number)
    (rest : List Char) :
    takeDate (year.digits ++ '-' :: (month.digits ++ '-' :: (day.digits ++ rest))) =
      .ok (number, rest) :=
  takeDate_eq_ok.mpr ⟨year, month, day, isDate, rfl⟩

theorem takeClock_written (hour minute second : Numeral 2) (rest : List Char) :
    takeClock
        (hour.digits ++ ':' :: (minute.digits ++ ':' :: (second.digits ++ rest))) =
      .ok (⟨hour.value, minute.value, second.value⟩, rest) :=
  takeClock_eq_ok.mpr ⟨hour, minute, second, rfl, rfl⟩

/-- The digits after the ninth do not count. -/
theorem Fraction.nanoseconds_eq (fraction : Fraction) :
    fraction.nanoseconds =
      digitsValue (fraction.digits.take 9) *
        10 ^ (9 - (fraction.digits.take 9).length) := by
  obtain ⟨digits, isDigit⟩ := fraction
  simp only [Fraction.nanoseconds, nanosecondsPerSecond]
  rcases Nat.le_total digits.length 9 with short | long
  · have scale : 1000000000 = 10 ^ (9 - digits.length) * 10 ^ digits.length := by
      rw [← Nat.pow_add, Nat.sub_add_cancel short]
    rw [List.take_of_length_le short, scale, ← Nat.mul_assoc]
    exact Nat.mul_div_cancel _ (Nat.pow_pos (by decide))
  · have keptLength : (digits.take 9).length = 9 := List.length_take_of_le long
    have droppedLess : digitsValue (digits.drop 9) < 10 ^ (digits.drop 9).length := by
      apply digitsValue_lt
      rw [List.all_eq_true] at isDigit ⊢
      exact fun digit member => isDigit digit (List.mem_of_mem_drop member)
    have billion : 10 ^ 9 = 1000000000 := rfl
    conv_lhs => rw [← List.take_append_drop 9 digits]
    rw [digitsValue_append, List.length_append, keptLength, Nat.add_comm 9, Nat.pow_add,
      billion, Nat.mul_div_mul_right _ _ (by decide), Nat.mul_comm (digitsValue _),
      Nat.mul_add_div (Nat.pow_pos (by decide)), Nat.div_eq_of_lt droppedLess]
    simp

theorem exists_fraction {value : Nat} (taken : takeFraction chars = .ok (value, rest)) :
    ∃ fraction : Fraction, chars = fraction.chars ++ rest ∧
      value = fraction.nanoseconds := by
  unfold takeFraction at taken
  split at taken
  · rename_i after
    dsimp only at taken
    split at taken
    · cases taken
    · rename_i notEmpty
      cases taken
      have areDigits : (after.takeWhile Char.isDigit).all Char.isDigit = true :=
        List.all_takeWhile
      refine ⟨⟨after.takeWhile Char.isDigit, areDigits⟩, ?_, ?_⟩
      · have someDigits : after.takeWhile Char.isDigit ≠ [] := by simpa using notEmpty
        simp [Fraction.chars, someDigits, List.takeWhile_append_dropWhile]
      · rw [Fraction.nanoseconds_eq]
        rfl
  · cases taken
    exact ⟨⟨[], rfl⟩, rfl, rfl⟩

/-- A fraction ends where no digit follows. -/
theorem takeFraction_written (fraction : Fraction) {next : Char}
    (notMark : next ≠ '.') (notDigit : next.isDigit = false) (rest : List Char) :
    takeFraction (fraction.chars ++ next :: rest) =
      .ok (fraction.nanoseconds, next :: rest) := by
  by_cases noDigits : fraction.digits = []
  · have noTime : fraction.nanoseconds = 0 := by
      simp [Fraction.nanoseconds, noDigits, digitsValue]
    simp [Fraction.chars, noDigits, noTime, takeFraction, notMark]
  · have areDigits : ∀ digit ∈ fraction.digits, digit.isDigit = true :=
      List.all_eq_true.mp fraction.isDigit
    rw [Fraction.nanoseconds_eq]
    simp [Fraction.chars, noDigits, takeFraction,
      List.takeWhile_append_of_pos areDigits, List.dropWhile_append_of_pos areDigits,
      notDigit]

theorem length_le_length_utf8Bytes (chars : List Char) :
    chars.length ≤ (utf8Bytes chars).length := by
  induction chars with
  | nil => exact Nat.le_refl 0
  | cons char chars ih =>
      have someBytes := char.utf8Size_pos
      simp only [utf8Bytes, List.flatMap_cons, List.length_append, List.length_cons,
        String.length_utf8EncodeChar] at ih ⊢
      omega

theorem takeOffsetPart_eq_ok {value : Nat} :
    takeOffsetPart chars = .ok (value, rest) ↔
      takeDigits 2 chars = .ok (value, rest) := by
  unfold takeOffsetPart
  split
  · rename_i short
    simp only [reduceCtorEq, false_iff, takeDigits_eq_ok]
    rintro ⟨numeral, rfl, -⟩
    have enough := length_le_length_utf8Bytes ((numeral.digits ++ rest).take 2)
    have two : ((numeral.digits ++ rest).take 2).length = 2 := by
      simp [numeral.length_digits]
    omega
  · rfl

theorem part_then_eq_ok {α : Type} {next : Nat × List Char → Except Fault α} {result : α} :
    (takeOffsetPart chars).bind next = .ok result ↔
      ∃ (numeral : Numeral 2) (rest : List Char), chars = numeral.digits ++ rest ∧
        next (numeral.value, rest) = .ok result := by
  rw [← digits_then_eq_ok, bind_eq_ok, bind_eq_ok]
  exact exists_congr fun ⟨value, rest⟩ => and_congr_left' takeOffsetPart_eq_ok

theorem takeOffsetAmount_eq_ok {amount : Nat} :
    takeOffsetAmount chars = .ok (amount, rest) ↔
      ∃ hours minutes : Numeral 2, minutes.value ≤ 59 ∧
        amount = hours.value * 3600 + minutes.value * 60 ∧
        chars = hours.digits ++ ':' :: (minutes.digits ++ rest) := by
  simp only [takeOffsetAmount, bind, part_then_eq_ok]
  constructor
  · rintro ⟨hours, after, rfl, taken⟩
    split at taken
    · cases taken
    · obtain ⟨mark, isMark, _, rfl, later⟩ := mark_then_eq_ok.mp taken
      obtain ⟨minutes, _, rfl, ended⟩ := part_then_eq_ok.mp later
      obtain rfl := List.mem_singleton.mp isMark
      split at ended
      · cases ended
      · rename_i notLarger
        cases ended
        exact ⟨hours, minutes, Nat.le_of_not_lt notLarger, rfl, rfl⟩
  · rintro ⟨hours, minutes, minutes_le, rfl, rfl⟩
    refine ⟨hours, _, rfl, mark_then_eq_ok.mpr ⟨':', List.mem_singleton.mpr rfl, _, rfl, ?_⟩⟩
    refine part_then_eq_ok.mpr ⟨minutes, _, rfl, ?_⟩
    rw [if_neg (Nat.not_lt.mpr minutes_le)]
    rfl

theorem takeOffsetAmount_written (hours : Numeral 2) {minutes : Numeral 2}
    (minutes_le : minutes.value ≤ 59) (rest : List Char) :
    takeOffsetAmount (hours.digits ++ ':' :: (minutes.digits ++ rest)) =
      .ok (hours.value * 3600 + minutes.value * 60, rest) :=
  takeOffsetAmount_eq_ok.mpr ⟨hours, minutes, minutes_le, rfl, rfl⟩

theorem takeOffset_written (zone : Zone) (rest : List Char) :
    takeOffset (zone.chars ++ rest) = .ok (zone.offset, rest) := by
  cases zone with
  | universal letter isLetter =>
      have isUniversal : letter = 'Z' ∨ letter = 'z' := by simpa using isLetter
      simp [Zone.chars, Zone.offset, takeOffset, isUniversal]
  | ahead hours minutes hours_le minutes_le =>
      simp [Zone.chars, Zone.offset, takeOffset,
        takeOffsetAmount_written hours minutes_le, Except.map]
  | behind sign isSign hours minutes hours_le minutes_le =>
      have isMinus : sign = '-' ∨ sign = '\u2212' := by simpa using isSign
      rcases isMinus with rfl | rfl <;>
        simp [Zone.chars, Zone.offset, takeOffset,
          takeOffsetAmount_written hours minutes_le, Except.map]

/-- The offset in a text is that of a zone, unless it is a day or more. -/
theorem exists_zone {offset : Int} (taken : takeOffset chars = .ok (offset, rest))
    (short : offset.natAbs < Timestamp.secondsPerDay) :
    ∃ zone : Zone, offset = zone.offset ∧ chars = zone.chars ++ rest := by
  unfold Timestamp.secondsPerDay at short
  unfold takeOffset at taken
  split at taken
  · cases taken
  · rename_i sign after
    split at taken
    · rename_i isLetter
      cases taken
      exact ⟨.universal sign (by simpa using isLetter), rfl, rfl⟩
    · cases amount : takeOffsetAmount after with
      | error fault =>
          simp only [amount, Except.map] at taken
          split_ifs at taken
      | ok found =>
          obtain ⟨hours, minutes, minutes_le, isAmount, rfl⟩ :=
            takeOffsetAmount_eq_ok.mp amount
          simp only [amount, Except.map] at taken
          split at taken
          · rename_i isPlus
            cases taken
            exact ⟨.ahead hours minutes (by omega) minutes_le, by rw [isAmount]; rfl,
              by simp [Zone.chars, isPlus]⟩
          · split at taken
            · rename_i isMinus
              cases taken
              exact ⟨.behind sign (by simpa using isMinus) hours minutes (by omega)
                minutes_le, by rw [isAmount]; rfl, by simp [Zone.chars]⟩
            · cases taken

theorem secondOfDay_written {hour minute second : Nat} (hour_le : hour ≤ 23)
    (minute_le : minute ≤ 59) (second_le : second ≤ 60) (fraction : Nat) :
    secondOfDay ⟨hour, minute, second⟩ fraction =
      .ok (hour * 3600 + minute * 60 + min second 59,
        if second == 60 then nanosecondsPerSecond + fraction else fraction) := by
  have inRange : ¬ (23 < hour ∨ 59 < minute ∨ 60 < second) := by omega
  unfold secondOfDay
  rw [if_neg inRange]
  by_cases isLeap : second = 60
  · simp [isLeap]
  · have regular : min second 59 = second := by omega
    simp [isLeap, regular]

theorem range_of_secondOfDay {hour minute second fraction : Nat} {found : Nat × Nat}
    (taken : secondOfDay ⟨hour, minute, second⟩ fraction = .ok found) :
    hour ≤ 23 ∧ minute ≤ 59 ∧ second ≤ 60 := by
  unfold secondOfDay at taken
  split at taken
  · cases taken
  · rename_i inRange
    simp only at inRange
    omega

end Reading

section Texts

theorem length_le_utf8ByteSize (chars : List Char) :
    chars.length ≤ (String.ofList chars).utf8ByteSize := by
  induction chars with
  | nil => exact Nat.zero_le _
  | cons char chars ih =>
      have someBytes := char.utf8Size_pos
      rw [String.ofList_cons, String.utf8ByteSize_append, String.utf8ByteSize_singleton,
        List.length_cons]
      omega

theorem Zone.exists_cons (zone : Zone) :
    ∃ next rest, zone.chars = next :: rest ∧ next ≠ '.' ∧ next.isDigit = false := by
  cases zone with
  | universal letter isLetter =>
      have isUniversal : letter = 'Z' ∨ letter = 'z' := by simpa using isLetter
      rcases isUniversal with rfl | rfl
      · exact ⟨_, _, rfl, by decide, by decide⟩
      · exact ⟨_, _, rfl, by decide, by decide⟩
  | ahead hours minutes hours_le minutes_le => exact ⟨_, _, rfl, by decide, by decide⟩
  | behind sign isSign hours minutes hours_le minutes_le =>
      have isMinus : sign = '-' ∨ sign = '\u2212' := by simpa using isSign
      rcases isMinus with rfl | rfl
      · exact ⟨_, _, rfl, by decide, by decide⟩
      · exact ⟨_, _, rfl, by decide, by decide⟩

theorem Zone.natAbs_offset_lt (zone : Zone) :
    zone.offset.natAbs < Timestamp.secondsPerDay := by
  unfold Timestamp.secondsPerDay
  cases zone with
  | universal letter isLetter =>
      simp only [offset]
      decide
  | ahead hours minutes hours_le minutes_le =>
      simp only [offset]
      omega
  | behind sign isSign hours minutes hours_le minutes_le =>
      simp only [offset]
      omega

variable (written : WrittenTime)

theorem WrittenTime.leastBytes_le : leastBytes ≤ written.text.utf8ByteSize := by
  have bytes := length_le_utf8ByteSize written.chars
  have year := written.year.length_digits
  have month := written.month.length_digits
  have day := written.day.length_digits
  have hour := written.hour.length_digits
  have minute := written.minute.length_digits
  have second := written.second.length_digits
  simp only [WrittenTime.chars, List.length_append, List.length_cons] at bytes
  unfold leastBytes WrittenTime.text WrittenTime.chars
  omega

theorem read_text : read written.text = .ok written.timestamp := by
  obtain ⟨next, rest, isZone, notMark, notDigit⟩ := written.zone.exists_cons
  have long : ¬ written.text.utf8ByteSize < leastBytes :=
    Nat.not_lt.mpr written.leastBytes_le
  have dateTaken := fun rest => takeDate_written written.isDate rest
  have markTaken := fun rest => takeMark_eq_ok.mpr
    ⟨written.separator, written.isSeparator, (rfl : _ = _ :: rest)⟩
  have clockTaken :=
    fun rest => takeClock_written written.hour written.minute written.second rest
  have fractionTaken := takeFraction_written written.fraction notMark notDigit rest
  rw [← isZone] at fractionTaken
  have inRange := secondOfDay_written written.hour_le written.minute_le written.second_le
    written.fraction.nanoseconds
  have zoneTaken := takeOffset_written written.zone []
  rw [List.append_nil] at zoneTaken
  have short := Nat.not_le.mpr written.zone.natAbs_offset_lt
  unfold read
  rw [if_neg long]
  simp only [WrittenTime.text, WrittenTime.chars, String.toList_ofList,
    List.append_assoc, List.cons_append, dateTaken, markTaken, clockTaken,
    fractionTaken, inRange, zoneTaken, bind, Except.bind]
  rw [if_neg (by decide), if_neg short]
  rfl

theorem exists_written {text : String} {time : Timestamp} (isRead : read text = .ok time) :
    ∃ written : WrittenTime, text = written.text ∧ time = written.timestamp := by
  unfold read at isRead
  split at isRead
  · cases isRead
  · obtain ⟨⟨number, _⟩, dateTaken, afterDate⟩ := bind_eq_ok.mp isRead
    obtain ⟨_, markTaken, afterMark⟩ := bind_eq_ok.mp afterDate
    obtain ⟨⟨clock, _⟩, clockTaken, afterClock⟩ := bind_eq_ok.mp afterMark
    obtain ⟨⟨fraction, _⟩, fractionTaken, afterFraction⟩ := bind_eq_ok.mp afterClock
    obtain ⟨⟨second, nanosecond⟩, inRange, afterRange⟩ := bind_eq_ok.mp afterFraction
    obtain ⟨⟨offset, rest⟩, zoneTaken, afterZone⟩ := bind_eq_ok.mp afterRange
    dsimp only at afterZone
    split at afterZone
    · cases afterZone
    · rename_i atEnd
      split at afterZone
      · cases afterZone
      · rename_i short
        cases afterZone
        obtain rfl : rest = [] := by simpa using atEnd
        obtain ⟨zone, rfl, rfl⟩ := exists_zone zoneTaken (Nat.lt_of_not_le short)
        obtain ⟨written, rfl, rfl⟩ := exists_fraction fractionTaken
        obtain ⟨hour, minute, sixtieth, rfl, rfl⟩ := takeClock_eq_ok.mp clockTaken
        obtain ⟨separator, isSeparator, rfl⟩ := takeMark_eq_ok.mp markTaken
        obtain ⟨year, month, day, isDate, isText⟩ := takeDate_eq_ok.mp dateTaken
        obtain ⟨hour_le, minute_le, second_le⟩ := range_of_secondOfDay inRange
        rw [secondOfDay_written hour_le minute_le second_le] at inRange
        cases inRange
        refine ⟨⟨year, month, day, separator, isSeparator, hour, minute, sixtieth, written,
          zone, number, isDate, hour_le, minute_le, second_le⟩, ?_, rfl⟩
        rw [← String.toList_inj, isText]
        simp [WrittenTime.text, WrittenTime.chars]

/-- The texts of times are those that are written, and each has one meaning. -/
theorem read_eq_ok {text : String} {time : Timestamp} :
    read text = .ok time ↔
      ∃ written : WrittenTime, text = written.text ∧ time = written.timestamp := by
  constructor
  · exact exists_written
  · rintro ⟨written, rfl, rfl⟩
    exact read_text written

end Texts

section Instants

def nanosecondsOf (time : Timestamp) : Int :=
  (time.day * Timestamp.secondsPerDay + time.second) * nanosecondsPerSecond +
    time.nanosecond

theorem nanosecondsOf_ofLocal (day second nanosecond : Nat) (offset : Int) :
    nanosecondsOf (.ofLocal day second nanosecond offset) =
      (day * Timestamp.secondsPerDay + second - offset) * nanosecondsPerSecond +
        nanosecond := by
  simp only [nanosecondsOf, Timestamp.ofLocal, Timestamp.secondsPerDay,
    nanosecondsPerSecond]
  omega

/-- A point in time is known by its nanoseconds, unless one of two lies in a leap second
and the other in the second after it. -/
theorem eq_of_nanosecondsOf_eq {first second : Timestamp}
    (short : first.nanosecond < 2 * nanosecondsPerSecond)
    (shortToo : second.nanosecond < 2 * nanosecondsPerSecond)
    (same : nanosecondsOf first = nanosecondsOf second)
    (sameLeap : first.isLeap = second.isLeap) : first = second := by
  have inDay := first.second_lt
  have inDayToo := second.second_lt
  have leap_iff := decide_eq_decide.mp sameLeap
  unfold nanosecondsOf at same
  unfold Timestamp.secondsPerDay at *
  unfold nanosecondsPerSecond at *
  have sameDay : first.day = second.day := by omega
  have sameSecond : first.second = second.second := by omega
  have sameNanosecond : first.nanosecond = second.nanosecond := by omega
  cases first
  cases second
  exact Timestamp.mk.injEq .. ▸ ⟨sameDay, sameSecond, sameNanosecond⟩

theorem Fraction.nanoseconds_lt (fraction : Fraction) :
    fraction.nanoseconds < nanosecondsPerSecond := by
  unfold Fraction.nanoseconds
  rw [Nat.div_lt_iff_lt_mul (Nat.pow_pos (by decide)), Nat.mul_comm]
  exact Nat.mul_lt_mul_of_pos_left (digitsValue_lt fraction.isDigit) (by decide)

namespace WrittenTime

variable (written other : WrittenTime)

theorem nanosecond_timestamp_lt :
    written.timestamp.nanosecond < 2 * nanosecondsPerSecond := by
  have small := written.fraction.nanoseconds_lt
  simp only [timestamp, Timestamp.ofLocal]
  split <;> omega

theorem isLeap_timestamp : written.timestamp.isLeap = written.isLeap := by
  have small := written.fraction.nanoseconds_lt
  simp only [timestamp, Timestamp.ofLocal, Timestamp.isLeap]
  by_cases sixtieth : written.isLeap = true
  · simp [sixtieth]
  · simpa [sixtieth] using small

theorem nanosecondsOf_timestamp : nanosecondsOf written.timestamp = written.nanoseconds := by
  have second_le := written.second_le
  unfold timestamp
  rw [nanosecondsOf_ofLocal]
  unfold nanoseconds isLeap
  by_cases sixtieth : written.second.value = 60
  · simp only [sixtieth, nanosecondsPerSecond, beq_self_eq_true, if_true]
    push_cast
    omega
  · have regular : min written.second.value 59 = written.second.value := by omega
    simp only [sixtieth, regular, nanosecondsPerSecond, beq_iff_eq, if_false]
    push_cast
    omega

/-- Two texts are read as the same point in time exactly if they mean the same instant. -/
theorem timestamp_eq_iff : written.timestamp = other.timestamp ↔ written.SameInstant other := by
  constructor
  · intro same
    refine ⟨?_, ?_⟩
    · rw [← nanosecondsOf_timestamp, ← nanosecondsOf_timestamp, same]
    · rw [← isLeap_timestamp, ← isLeap_timestamp, same]
  · rintro ⟨same, sameLeap⟩
    apply eq_of_nanosecondsOf_eq written.nanosecond_timestamp_lt
      other.nanosecond_timestamp_lt
    · rw [nanosecondsOf_timestamp, nanosecondsOf_timestamp, same]
    · rw [isLeap_timestamp, isLeap_timestamp, sameLeap]

end WrittenTime

end Instants

end ProbeLifecycle.Rfc3339
