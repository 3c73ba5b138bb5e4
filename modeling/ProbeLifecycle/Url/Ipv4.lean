import ProbeLifecycle.Text.Percent
import ProbeLifecycle.Url.Error

/-!
# IPv4 addresses

A host whose last part is a number is an IPv4 address.  Its parts may be
decimal, octal after a zero or hexadecimal after `0x`, and the last part fills
all bytes that no other part gives.
-/

namespace ProbeLifecycle.Ipv4

open Text

/-- What a part says: a number that may be too large, or nothing. -/
inductive Part where
  | number (value : Nat)
  | notNumber
  deriving DecidableEq, Repr

def digits? (base : Nat) (digits : List Char) : Option Nat :=
  digits.foldl
    (fun value digit =>
      match value, hexValue? digit with
      | some value, some digit =>
          if digit < base then some (base * value + digit) else none
      | _, _ => none)
    (some 0)

/-- Reads a part; after a base mark the digits may be missing. -/
def part (chars : List Char) : Part :=
  let value :=
    match chars with
    | [] => none
    | '0' :: 'x' :: digits => digits? 16 digits
    | '0' :: 'X' :: digits => digits? 16 digits
    | '0' :: digit :: digits => digits? 8 (digit :: digits)
    | digits => digits? 10 digits
  match value with
  | some value => .number value
  | none => .notNumber

def parts (host : List Char) : List (List Char) :=
  let parts := host.splitOn '.'
  if parts.getLast? = some [] then parts.dropLast else parts

/-- Whether a host has to be read as an IPv4 address. -/
def endsInNumber (host : List Char) : Bool :=
  match (parts host).getLast? with
  | some last =>
      (!last.isEmpty && last.all Char.isDigit) || part last != .notNumber
  | none => false

def combine? (values : List Nat) : Option Nat :=
  match values.getLast? with
  | none => none
  | some last =>
      let leading := values.dropLast
      if 4 ≤ leading.length ∨ Nat.pow 256 (4 - leading.length) ≤ last ∨
          leading.any fun value => 255 < value then none
      else
        some (leading.zipIdx.foldl
          (fun address value => address + value.1 * Nat.pow 256 (3 - value.2))
          last)

def Part.value? : Part → Option Nat
  | .number value => if value < Nat.pow 2 32 then some value else none
  | .notNumber => none

/-- The four bytes of an address in decimal, with dots between them. -/
def text (address : Nat) : String :=
  ".".intercalate
    [(address / Nat.pow 256 3 % 256).repr, (address / Nat.pow 256 2 % 256).repr,
      (address / 256 % 256).repr, (address % 256).repr]

def read (host : List Char) : Except UrlError String :=
  match ((parts host).mapM fun chars => (part chars).value?) with
  | none => .error .invalidIpv4
  | some values =>
      match combine? values with
      | none => .error .invalidIpv4
      | some address => .ok (text address)

end ProbeLifecycle.Ipv4
