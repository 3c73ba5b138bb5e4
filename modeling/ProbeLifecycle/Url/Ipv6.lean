import ProbeLifecycle.Text.Percent
import ProbeLifecycle.Url.Error

/-!
# IPv6 addresses

An address is eight pieces of sixteen bits with colons between them.  Two
colons in a row stand for at least one piece of zero, and the last two pieces
may be written as an IPv4 address.  In the normal form the longest run of at
least two zero pieces is left out.
-/

namespace ProbeLifecycle.Ipv6

open Text

/-- Reads a piece of one to four hexadecimal digits. -/
def piece? (chars : List Char) : Option Nat :=
  if chars.isEmpty ∨ 4 < chars.length then none
  else
    chars.foldl
      (fun value char =>
        match value, hexValue? char with
        | some value, some digit => some (16 * value + digit)
        | _, _ => none)
      (some 0)

/-- Reads one to three decimal digits for a byte, without leading zeros. -/
def byte? (chars : List Char) : Option Nat :=
  if chars.isEmpty ∨ 3 < chars.length ∨
      (1 < chars.length ∧ chars.head? = some '0') then none
  else
    let value := chars.foldl
      (fun value char =>
        match value with
        | some value =>
            if '0' ≤ char ∧ char ≤ '9' then
              some (10 * value + (char.toNat - '0'.toNat))
            else none
        | none => none)
      (some 0)
    value.filter (· ≤ 255)

def embeddedIpv4? (chars : List Char) : Option (List Nat) :=
  match (chars.splitOn '.').mapM byte? with
  | some [first, second, third, fourth] =>
      some [256 * first + second, 256 * third + fourth]
  | _ => none

/-- Reads pieces with colons between them; the last may be an IPv4 address if
the address ends there. -/
def pieces? (atEnd : Bool) : List (List Char) → Option (List Nat)
  | [] => some []
  | [last] =>
      if atEnd && last.contains '.' then embeddedIpv4? last
      else (piece? last).map fun piece => [piece]
  | chars :: rest =>
      match piece? chars, pieces? atEnd rest with
      | some piece, some pieces => some (piece :: pieces)
      | _, _ => none

def group? (atEnd : Bool) (chars : List Char) : Option (List Nat) :=
  if chars.isEmpty then some [] else pieces? atEnd (chars.splitOn ':')

def splitAtGap : List Char → Option (List Char × List Char)
  | ':' :: ':' :: after => some ([], after)
  | char :: chars =>
      (splitAtGap chars).map fun halves => (char :: halves.1, halves.2)
  | [] => none

def address? (chars : List Char) : Option (List Nat) :=
  match splitAtGap chars with
  | none =>
      match group? true chars with
      | some pieces => if pieces.length = 8 then some pieces else none
      | none => none
  | some (before, after) =>
      match group? false before, group? true after with
      | some before, some after =>
          if before.length + after.length ≤ 7 then
            some (before ++
              List.replicate (8 - before.length - after.length) 0 ++ after)
          else none
      | _, _ => none

/-- The length of the run of zeros at the start. -/
def zeroRun (pieces : List Nat) : Nat :=
  (pieces.takeWhile (· = 0)).length

/-- The start and the length of the first longest run of zeros. -/
def longestZeroRun (start : Nat) (best : Nat × Nat) : List Nat → Nat × Nat
  | [] => best
  | piece :: pieces =>
      let length := zeroRun (piece :: pieces)
      longestZeroRun (start + 1) (if best.2 < length then (start, length) else best)
        pieces

def piecesText (pieces : List Nat) : String :=
  ":".intercalate (pieces.map fun piece => .ofList (Nat.toDigits 16 piece))

def text (pieces : List Nat) : String :=
  let run := longestZeroRun 0 (0, 1) pieces
  if run.2 < 2 then "[" ++ piecesText pieces ++ "]"
  else
    "[" ++ piecesText (pieces.take run.1) ++ "::" ++
      piecesText (pieces.drop (run.1 + run.2)) ++ "]"

def read (chars : List Char) : Except UrlError String :=
  match address? chars with
  | some pieces => .ok (text pieces)
  | none => .error .invalidIpv6

end ProbeLifecycle.Ipv6
