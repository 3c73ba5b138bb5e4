import ProbeLifecycle.Text.Utf8

/-!
# Percent encoding

A character outside the set that a place allows is written as its UTF-8 bytes,
each as a percent sign and two uppercase hexadecimal digits.  Decoding takes
digits of either case and leaves a percent sign without two digits alone.
-/

namespace ProbeLifecycle.Text

def upperHexDigit (number : Nat) : Char :=
  if number < 10 then Char.ofNat (0x30 + number) else Char.ofNat (0x37 + number)

def hexValue? (char : Char) : Option Nat :=
  if '0' ≤ char ∧ char ≤ '9' then some (char.toNat - 0x30)
  else if 'a' ≤ char ∧ char ≤ 'f' then some (char.toNat - 0x57)
  else if 'A' ≤ char ∧ char ≤ 'F' then some (char.toNat - 0x37)
  else none

theorem hexValue?_digitChar {number : Nat} (small : number < 16) :
    hexValue? number.digitChar = some number := by
  decide +revert

theorem hexValue?_lt {char : Char} {value : Nat}
    (isDigit : hexValue? char = some value) : value < 16 := by
  unfold hexValue? at isDigit
  simp only [Char.le_def, UInt32.le_iff_toNat_le] at isDigit
  split at isDigit
  · rename_i decimal
    have same := Option.some.inj isDigit
    have := decimal.2
    simp at this
    omega
  · split at isDigit
    · rename_i lower
      have same := Option.some.inj isDigit
      have := lower.2
      simp at this
      omega
    · split at isDigit
      · rename_i upper
        have same := Option.some.inj isDigit
        have := upper.2
        simp at this
        omega
      · cases isDigit

def percentByte (byte : UInt8) : List Char :=
  ['%', upperHexDigit (byte.toNat / 16), upperHexDigit (byte.toNat % 16)]

def percentEncodeChar (keep : Char → Bool) (char : Char) : List Char :=
  if keep char then [char]
  else (String.utf8EncodeChar char).flatMap percentByte

def percentEncode (keep : Char → Bool) (chars : List Char) : List Char :=
  chars.flatMap (percentEncodeChar keep)

def escapedByte? (high low : Char) : Option UInt8 :=
  match hexValue? high, hexValue? low with
  | some high, some low => some (UInt8.ofNat (16 * high + low))
  | _, _ => none

def percentDecode : List Char → List UInt8
  | [] => []
  | '%' :: high :: low :: chars =>
      match escapedByte? high low with
      | some byte => byte :: percentDecode chars
      | none => String.utf8EncodeChar '%' ++ percentDecode (high :: low :: chars)
  | char :: chars => String.utf8EncodeChar char ++ percentDecode chars

example : percentEncode Char.isAlphanum "a/é".toList = "a%2F%C3%A9".toList := by decide

end ProbeLifecycle.Text
