/-!
# Punycode

A text with characters outside ASCII is written as its ASCII characters, a
hyphen, and numbers in base thirty-six that insert the other characters one by
one.  The numbers count through all positions of the text for one code point
before they go on to the next, so a number tells both how far the code point
rises and where the character goes.  A number has its lowest digit first and
ends at the first digit below the threshold of its place; thresholds follow
the size of the number before.
-/

namespace ProbeLifecycle.Text

/-- The value of a digit in base thirty-six, letters before digits. -/
def punycodeDigit? (char : Char) : Option Nat :=
  if 'a' ≤ char ∧ char ≤ 'z' then some (char.toNat - 'a'.toNat)
  else if char.isDigit then some (26 + (char.toNat - '0'.toNat))
  else none

/-- The digits below this one end a number at a place; places go up in steps of
thirty-six. -/
def punycodeThreshold (bias place : Nat) : Nat :=
  min 26 (max 1 (place - bias))

/-- The bias for numbers of the size of `delta`, which is divided until it is
small. -/
def settledBias (bias delta : Nat) : Nat :=
  if 455 < delta then settledBias (bias + 36) (delta / 35)
  else bias + 36 * delta / (delta + 38)
termination_by delta
decreasing_by exact Nat.div_lt_self (by omega) (by omega)

/-- The bias after a number that made a text `length` characters long.  The
first number of a text counts less than the later ones. -/
def nextBias (isFirst : Bool) (delta length : Nat) : Nat :=
  let delta := if isFirst then delta / 700 else delta / 2
  settledBias 0 (delta + delta / length)

/-- What has been read: the text with the characters inserted so far, the code
point reached, the position after the last character inserted, and the number
under way with the weight and the place of its next digit. -/
structure PunycodeState where
  text : List Char
  codePoint : Nat := 0x80
  position : Nat := 0
  bias : Nat := 72
  value : Nat := 0
  weight : Nat := 1
  place : Nat := 36
  deriving DecidableEq, Repr

/-- Numbers and weights stay below this. -/
def punycodeLimit : Nat := 0x100000000

/-- Inserts a character when its number has been read; a number that leads to
no character is refused. -/
def PunycodeState.insert? (state : PunycodeState) (value : Nat) :
    Option PunycodeState :=
  let length := state.text.length + 1
  let codePoint := state.codePoint + value / length
  let position := value % length
  if codePoint.isValidChar then
    some {
      text := state.text.insertIdx position (Char.ofNat codePoint)
      codePoint
      position := position + 1
      bias := nextBias (state.position == 0) (value - state.position) length
      value := position + 1 }
  else none

def PunycodeState.feed? (state : PunycodeState) (char : Char) :
    Option PunycodeState := do
  let digit ← punycodeDigit? char
  let threshold := punycodeThreshold state.bias state.place
  let value := state.value + digit * state.weight
  let weight := state.weight * (36 - threshold)
  if punycodeLimit ≤ value then none
  else if digit < threshold then state.insert? value
  else if punycodeLimit ≤ weight then none
  else some { state with value, weight, place := state.place + 36 }

/-- The text read, unless a number has been begun and not ended. -/
def PunycodeState.finish? (state : PunycodeState) : Option (List Char) :=
  if state.weight = 1 then some state.text else none

/-- Cuts at the last hyphen that something stands before; the numbers follow
it.  Without such a hyphen there are numbers only. -/
def cutPunycode (chars : List Char) : List Char × List Char :=
  let numbers := (chars.reverse.takeWhile (· != '-')).reverse
  let ascii := chars.take (chars.length - numbers.length - 1)
  if ascii.isEmpty then ([], chars) else (ascii, numbers)

def decodePunycode? (chars : List Char) : Option (List Char) :=
  let (ascii, numbers) := cutPunycode chars
  (numbers.foldlM PunycodeState.feed? { text := ascii }).bind PunycodeState.finish?

def punycodeDigit (value : Nat) : Char :=
  Char.ofNat (if value < 26 then 'a'.toNat + value else '0'.toNat + (value - 26))

def punycodeDigits (bias place value : Nat) : List Char :=
  let threshold := punycodeThreshold bias place
  if value < threshold then [punycodeDigit value]
  else
    let higher := value - threshold
    punycodeDigit (threshold + higher % (36 - threshold)) ::
      punycodeDigits bias (place + 36) (higher / (36 - threshold))
termination_by value
decreasing_by
  have positive : 1 ≤ punycodeThreshold bias place := by
    unfold punycodeThreshold
    omega
  exact Nat.lt_of_le_of_lt (Nat.div_le_self _ _) (by omega)

/-- The characters outside ASCII in the order in which they are inserted, each with its
code point and its position among the characters that are there by then. -/
def insertions (text : List Char) : List (Nat × Nat) :=
  let inserted := text.zipIdx.filter fun char => 0x80 ≤ char.1.toNat
  (inserted.mergeSort fun first second => first.1.toNat ≤ second.1.toNat).map fun char =>
    (char.1.toNat,
      (text.take char.2).countP fun before => before.toNat ≤ char.1.toNat)

/-- The numbers that insert characters into a text of a length, from the code point and
the position on that have been reached. -/
def writeInsertions (codePoint position bias length : Nat) :
    List (Nat × Nat) → List Char
  | [] => []
  | (nextPoint, place) :: rest =>
      let value := (nextPoint - codePoint) * (length + 1) + place - position
      punycodeDigits bias 36 value ++
        writeInsertions nextPoint (place + 1)
          (nextBias (position == 0) value (length + 1)) (length + 1) rest

def encodePunycode (text : List Char) : List Char :=
  let ascii := text.filter fun char => char.toNat < 0x80
  (if ascii.isEmpty then [] else ascii ++ ['-']) ++
    writeInsertions 0x80 0 72 ascii.length (insertions text)

example : decodePunycode? "bcher-kva".toList = some "bücher".toList := by decide +kernel

example : encodePunycode "bücher".toList = "bcher-kva".toList := by decide +kernel

example : decodePunycode? "99999999".toList = none := by decide +kernel

end ProbeLifecycle.Text
