import ProbeLifecycle.Text.Decimal
import ProbeLifecycle.Text.Utf8
import ProbeLifecycle.Time.Timestamp

/-!
# Times in RFC 3339 form

A time is written as date, time of day, perhaps a fraction of the second, and
an offset from universal time.  The text is read from left to right and the
first fault is reported.
-/

namespace ProbeLifecycle.Rfc3339

open Text

inductive Fault where
  | premature
  | invalid
  | outOfRange
  | trailing
  deriving DecidableEq, Repr

def Fault.message : Fault → String
  | .premature => "premature end of input"
  | .invalid => "input contains invalid characters"
  | .outOfRange => "input is out of range"
  | .trailing => "trailing input"

def takeDigits (count : Nat) (chars : List Char) :
    Except Fault (Nat × List Char) :=
  let digits := chars.take count
  if digits.length = count ∧ digits.all Char.isDigit then
    .ok (digitsValue digits, chars.drop count)
  else .error .invalid

def takeMark (marks : List Char) : List Char → Except Fault (List Char)
  | [] => .error .invalid
  | char :: chars =>
      if marks.contains char then .ok chars else .error .invalid

def takeDate (chars : List Char) : Except Fault (Nat × List Char) := do
  let (year, chars) ← takeDigits 4 chars
  let chars ← takeMark ['-'] chars
  let (month, chars) ← takeDigits 2 chars
  let chars ← takeMark ['-'] chars
  let (day, chars) ← takeDigits 2 chars
  match Calendar.dayNumber? year month day with
  | some number => return (number, chars)
  | none => throw .outOfRange

structure Clock where
  hour : Nat
  minute : Nat
  second : Nat
  deriving DecidableEq, Repr

def takeClock (chars : List Char) : Except Fault (Clock × List Char) := do
  let (hour, chars) ← takeDigits 2 chars
  let chars ← takeMark [':'] chars
  let (minute, chars) ← takeDigits 2 chars
  let chars ← takeMark [':'] chars
  let (second, chars) ← takeDigits 2 chars
  return ({ hour, minute, second }, chars)

/-- Reads a fraction of a second, if there is one, as nanoseconds; digits after
the ninth are ignored. -/
def takeFraction (chars : List Char) : Except Fault (Nat × List Char) :=
  match chars with
  | '.' :: rest =>
      let digits := rest.takeWhile Char.isDigit
      if digits.isEmpty then
        .error (if rest.isEmpty then .premature else .invalid)
      else
        let kept := digits.take 9
        .ok (digitsValue kept * Nat.pow 10 (9 - kept.length),
          rest.dropWhile Char.isDigit)
  | chars => .ok (0, chars)

/-- The second of the day and the nanoseconds of a time of day.  The sixtieth
second of a minute is a leap second. -/
def secondOfDay (clock : Clock) (fraction : Nat) : Except Fault (Nat × Nat) :=
  if 23 < clock.hour ∨ 59 < clock.minute ∨ 60 < clock.second then
    .error .outOfRange
  else if clock.second = 60 then
    .ok (clock.hour * 3600 + clock.minute * 60 + 59,
      nanosecondsPerSecond + fraction)
  else
    .ok (clock.hour * 3600 + clock.minute * 60 + clock.second, fraction)

/-- Reads the two digits of a part of an offset; the text counts as ended when
fewer than two bytes are left. -/
def takeOffsetPart (chars : List Char) : Except Fault (Nat × List Char) :=
  if (utf8Bytes (chars.take 2)).length < 2 then .error .premature
  else takeDigits 2 chars

def takeOffsetAmount (chars : List Char) : Except Fault (Nat × List Char) := do
  let (hours, chars) ← takeOffsetPart chars
  let chars ←
    match chars with
    | [] => throw .premature
    | chars => takeMark [':'] chars
  let (minutes, chars) ← takeOffsetPart chars
  if 59 < minutes then throw .outOfRange
  return (hours * 3600 + minutes * 60, chars)

def takeOffset : List Char → Except Fault (Int × List Char)
  | [] => .error .premature
  | sign :: chars =>
      if sign = 'Z' ∨ sign = 'z' then .ok (0, chars)
      else if sign = '+' then
        (takeOffsetAmount chars).map fun amount => (amount.1, amount.2)
      else if sign = '-' ∨ sign = '\u2212' then
        (takeOffsetAmount chars).map fun amount => (-amount.1, amount.2)
      else .error .invalid

/-- The fewest bytes that a date and a time of day take. -/
def leastBytes : Nat := 19

def read (text : String) : Except Fault Timestamp := do
  if text.utf8ByteSize < leastBytes then throw .premature
  let (day, chars) ← takeDate text.toList
  let chars ← takeMark ['T', 't', ' '] chars
  let (clock, chars) ← takeClock chars
  let (fraction, chars) ← takeFraction chars
  let (second, nanosecond) ← secondOfDay clock fraction
  let (offset, chars) ← takeOffset chars
  if !chars.isEmpty then throw .trailing
  if Timestamp.secondsPerDay ≤ offset.natAbs then throw .outOfRange
  return .ofLocal day second nanosecond offset

end ProbeLifecycle.Rfc3339
