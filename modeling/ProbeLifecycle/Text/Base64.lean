/-!
# Base64

Three bytes become four characters of six bits each; a shorter last group is
filled with equals signs.
-/

namespace ProbeLifecycle.Text

def base64Alphabet : List Char :=
  "ABCDEFGHIJKLMNOPQRSTUVWXYZabcdefghijklmnopqrstuvwxyz0123456789+/".toList

def base64Digit (bits : Nat) : Char :=
  base64Alphabet.getD (bits % 64) '='

def base64 : List UInt8 → List Char
  | [] => []
  | [first] =>
      let bits := first.toNat * 16
      [base64Digit (bits / 64), base64Digit bits, '=', '=']
  | [first, second] =>
      let bits := (first.toNat * 256 + second.toNat) * 4
      [base64Digit (bits / 4096), base64Digit (bits / 64), base64Digit bits, '=']
  | first :: second :: third :: bytes =>
      let bits := (first.toNat * 256 + second.toNat) * 256 + third.toNat
      base64Digit (bits / 262144) :: base64Digit (bits / 4096) ::
        base64Digit (bits / 64) :: base64Digit bits :: base64 bytes

example : base64 [0x61, 0x3A, 0x62, 0x62] = "YTpiYg==".toList := by decide

end ProbeLifecycle.Text
