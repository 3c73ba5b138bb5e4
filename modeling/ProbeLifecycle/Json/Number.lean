import ProbeLifecycle.Json.Problem
import ProbeLifecycle.Text.Decimal

/-!
# JSON numbers

A numeral has a sign, integer digits, and perhaps a fraction and an exponent.
Only numerals for natural numbers that fit 64 bits have a use here, so every
other number is just a `real`.  A number that is kept has to lie within the
range of double precision; its magnitude is judged as the rounded leading
digits times a rounded power of ten, which are multiplied and rounded once
more.
-/

namespace ProbeLifecycle.Json

open Text

inductive Number where
  | natural (value : Nat)
  | real
  deriving DecidableEq, Repr

def largestNatural : Nat := Nat.pow 2 64 - 1

/-- A numeral taken apart; a part that is absent is `none`. -/
structure Numeral where
  negative : Bool
  integer : List Char
  fraction : Option (List Char)
  exponent : Option (Bool × List Char)
  deriving DecidableEq, Repr

def takeDigits (text : List Char) : List Char × List Char :=
  (text.takeWhile Char.isDigit, text.dropWhile Char.isDigit)

/-- The exponent at the start of the text, without its mark: whether it is
negative, its digits, and what follows. -/
def takeExponent (text : List Char) : (Bool × List Char) × List Char :=
  match text with
  | '+' :: text => ((false, (takeDigits text).1), (takeDigits text).2)
  | '-' :: text => ((true, (takeDigits text).1), (takeDigits text).2)
  | text => ((false, (takeDigits text).1), (takeDigits text).2)

def Numeral.withExponent (numeral : Numeral) (text : List Char) :
    Numeral × List Char :=
  match text with
  | [] => (numeral, [])
  | char :: rest =>
      if char = 'e' ∨ char = 'E' then
        ({ numeral with exponent := some (takeExponent rest).1 },
          (takeExponent rest).2)
      else (numeral, char :: rest)

/-- Adds a fraction and an exponent to a numeral if they follow; a point
without digits ends the numeral. -/
def Numeral.withFraction (numeral : Numeral) (text : List Char) :
    Numeral × List Char :=
  match text with
  | '.' :: rest =>
      let digits := takeDigits rest
      let numeral := { numeral with fraction := some digits.1 }
      if digits.1.isEmpty then (numeral, digits.2)
      else numeral.withExponent digits.2
  | text => numeral.withExponent text

/-- Takes apart the numeral after its sign; one without integer digits ends at
once. -/
def Numeral.takeUnsigned (negative : Bool) (text : List Char) :
    Numeral × List Char :=
  let digits := takeDigits text
  let numeral : Numeral := ⟨negative, digits.1, none, none⟩
  if digits.1.isEmpty then (numeral, digits.2)
  else numeral.withFraction digits.2

/-- Takes apart the numeral at the start of the text; what follows it is the
second component. -/
def Numeral.take (text : List Char) : Numeral × List Char :=
  match text with
  | '-' :: rest => Numeral.takeUnsigned true rest
  | text => Numeral.takeUnsigned false text

def Numeral.lacksDigits (numeral : Numeral) : Bool :=
  numeral.integer.isEmpty || numeral.fraction == some [] ||
    numeral.exponent.any (·.2.isEmpty)

def Numeral.hasLeadingZero (numeral : Numeral) : Bool :=
  numeral.integer.head? == some '0' && numeral.integer.length > 1

/-- The leading digits of a number as one natural number, and the power of ten
by which it falls short of the integer digits read. -/
structure Significand where
  value : Nat
  dropped : Nat
  deriving DecidableEq, Repr

def Significand.addInteger (significand : Significand) (char : Char) :
    Significand :=
  let value := 10 * significand.value + digitValue char
  if significand.dropped = 0 ∧ value ≤ largestNatural then { significand with value }
  else { significand with dropped := significand.dropped + 1 }

def Significand.ofInteger (digits : List Char) : Significand :=
  digits.foldl Significand.addInteger ⟨0, 0⟩

/-- Takes fraction digits until 64 bits are full; the second component counts
the digits taken. -/
def takeFraction : Nat → Nat → List Char → Nat × Nat
  | value, taken, [] => (value, taken)
  | value, taken, char :: digits =>
      if 10 * value + digitValue char ≤ largestNatural then
        takeFraction (10 * value + digitValue char) (taken + 1) digits
      else (value, taken)

/-- Rounds a natural number to 53 significant bits, a half going to the even
neighbour. -/
def roundTo53Bits (number : Nat) : Nat :=
  if number < Nat.pow 2 53 then number
  else
    let unit := Nat.pow 2 (number.log2 - 52)
    let quotient := number / unit
    let rest := number % unit
    if unit < 2 * rest ∨ (2 * rest = unit ∧ quotient % 2 = 1) then
      (quotient + 1) * unit
    else quotient * unit

def exceedsDoubleRange (significand : Nat) (exponent : Int) : Bool :=
  if significand = 0 ∨ exponent < 0 then false
  else if 308 < exponent then true
  else Nat.pow 2 1024 - Nat.pow 2 970 ≤
    roundTo53Bits significand * roundTo53Bits (Nat.pow 10 exponent.toNat)

def Numeral.exceedsDoubleRange (numeral : Numeral) : Bool :=
  let integer := Significand.ofInteger numeral.integer
  let (value, taken) := takeFraction integer.value 0 (numeral.fraction.getD [])
  let exponent : Int :=
    match numeral.exponent with
    | none => 0
    | some (true, digits) => -(digitsValue digits : Int)
    | some (false, digits) => digitsValue digits
  Json.exceedsDoubleRange value (exponent + integer.dropped - taken)

def Numeral.number (numeral : Numeral) : Number :=
  let integer := Significand.ofInteger numeral.integer
  if !numeral.negative && numeral.fraction.isNone && numeral.exponent.isNone &&
      integer.dropped = 0 then
    .natural integer.value
  else .real

def Numeral.lexeme (numeral : Numeral) (rest : List Char) : Lexeme Number :=
  if numeral.hasLeadingZero then
    { kept := .error .malformed, fault := some .malformed }
  else if numeral.lacksDigits then
    { kept := .error (if rest.isEmpty then .unfinished else .malformed)
      fault := some .malformed }
  else if numeral.exceedsDoubleRange then
    { kept := .error .malformed, fault := none }
  else .ofValue numeral.number

end ProbeLifecycle.Json
