/-!
# Decimal numbers

Numbers are written with ASCII digits.  Settings allow a plus sign before them
and any number of leading zeros, and every kind of setting has its largest
value.
-/

namespace ProbeLifecycle.Text

def digitValue (digit : Char) : Nat :=
  digit.toNat - '0'.toNat

theorem toNat_of_isDigit {digit : Char} (isDigit : digit.isDigit = true) :
    48 ≤ digit.toNat ∧ digit.toNat < 58 := by
  have bounds : 48 ≤ digit.toNat ∧ digit.toNat ≤ 57 := by
    simpa [Char.isDigit, UInt32.le_iff_toNat_le] using isDigit
  omega

def digitsValue (digits : List Char) : Nat :=
  digits.foldl (fun value digit => 10 * value + digitValue digit) 0

def decimal? (largest : Nat) (text : String) : Option Nat :=
  let digits :=
    match text.toList with
    | '+' :: digits => digits
    | digits => digits
  if !digits.isEmpty ∧ digits.all Char.isDigit ∧
      digitsValue digits ≤ largest then
    some (digitsValue digits)
  else none

example : decimal? 65535 "+065535" = some 65535 := by decide

end ProbeLifecycle.Text
