import ProbeLifecycle.Text.Decimal
import ProbeLifecycle.Url.Basic
import ProbeLifecycle.Url.Host

/-!
# Authorities

The part of an address that names its host: perhaps a user name and a password
before an at sign, the host, and perhaps a port after a colon.
-/

namespace ProbeLifecycle

open Text

structure Authority where
  username : String := ""
  password : String := ""
  host : String
  port : Option Nat := none
  deriving DecidableEq, Repr

namespace Authority

def isUserinfoChar : Char → Bool :=
  visibleExcept
    [' ', '"', '#', '<', '>', '?', '`', '\x7b', '\x7d', '/', ':', ';', '=', '@',
      '[', '\\', ']', '^', '|']

/-- Text before and after the last at sign; without one nothing is before. -/
def splitUserinfo (chars : List Char) : Option (List Char) × List Char :=
  let hostAndPort := (chars.reverse.takeWhile (· != '@')).reverse
  if chars.contains '@' then
    (some (chars.take (chars.length - hostAndPort.length - 1)), hostAndPort)
  else (none, hostAndPort)

/-- Text up to the first colon outside brackets. -/
def takeHost (inside : Bool) : List Char → List Char
  | [] => []
  | char :: chars =>
      if char = ':' ∧ !inside then []
      else
        char :: takeHost (char = '[' || (inside && char != ']')) chars

def userinfoText (chars : List Char) : String :=
  .ofList (percentEncode isUserinfoChar chars)

/-- The value of a port's digits; no digits are no port. -/
def readPort (chars : List Char) : Except UrlError (Option Nat) :=
  if chars.isEmpty then .ok none
  else if chars.all Char.isDigit ∧ digitsValue chars ≤ 65535 then
    .ok (some (digitsValue chars))
  else .error .invalidPort

/-- An authority cut into its parts, none of which has been read. -/
structure Parts where
  username : List Char
  password : List Char
  host : List Char
  port : List Char
  deriving DecidableEq, Repr

/-- Cuts an authority into its parts; the port keeps its colon. -/
def cut (chars : List Char) : Parts :=
  let (userinfo, hostAndPort) := splitUserinfo chars
  let host := takeHost false hostAndPort
  { username := (userinfo.getD []).takeWhile (· != ':')
    password := ((userinfo.getD []).dropWhile (· != ':')).drop 1
    host
    port := hostAndPort.drop host.length }

/-- Reads the parts of an authority, its host by the given rule.  A backslash
that is not the end of the authority ends the port. -/
def ofParts (readHost : List Char → Except UrlError String) (parts : Parts) :
    Except UrlError Authority := do
  let host ← readHost parts.host
  let port ← readPort ((parts.port.drop 1).takeWhile (· != '\\'))
  return {
    username := userinfoText parts.username
    password := userinfoText parts.password
    host
    port }

def read (chars : List Char) : Except UrlError Authority :=
  let parts := cut chars
  if parts.host.isEmpty then .error .emptyHost else ofParts Host.read parts

/-- Reads the authority of an address of another kind, which may lack a host if
nothing else is there; `goesOn` tells whether something follows it. -/
def readOpaque (goesOn : Bool) (chars : List Char) :
    Except UrlError Authority :=
  let parts := cut chars
  if parts.host.isEmpty &&
      (!parts.port.isEmpty || !parts.username.isEmpty ||
        !parts.password.isEmpty || (goesOn && chars == ['@'])) then
    .error .emptyHost
  else ofParts Host.readOpaque parts

end Authority

end ProbeLifecycle
