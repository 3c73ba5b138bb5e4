import ProbeLifecycle.Text.WhiteSpace
import ProbeLifecycle.Url.Authority

/-!
# Reading addresses

The text of an address is read leniently: space around it and tabs and line
ends inside it are ignored, backslashes are slashes, and any number of slashes
may follow the scheme.  Addresses with a scheme that is not of the web are
checked and told apart, but have no further use.
-/

namespace ProbeLifecycle

open Text

/-- A text that is an address: one of the web, or of another scheme. -/
inductive Address where
  | web (url : Url)
  | other
  deriving DecidableEq, Repr

namespace Address

def isSchemeChar (char : Char) : Bool :=
  char.isAlphanum || char == '+' || char == '-' || char == '.'

def takeScheme? (chars : List Char) : Option (String × List Char) :=
  match chars with
  | [] => none
  | first :: _ =>
      let scheme := chars.takeWhile isSchemeChar
      match chars.drop scheme.length with
      | ':' :: rest =>
          if first.isAlpha then some (.ofList (scheme.map Char.toLower), rest)
          else none
      | _ => none

def isSlash (char : Char) : Bool :=
  char == '/' || char == '\\'

/-- The end of an authority in an address with slashes of both kinds. -/
def endsAuthority (char : Char) : Bool :=
  isSlash char || char == '?' || char == '#'

def isQueryChar : Char → Bool :=
  visibleExcept [' ', '"', '#', '<', '>', '\'']

def isFragmentChar : Char → Bool :=
  visibleExcept [' ', '"', '<', '>', '`']

def partAfter (keep : Char → Bool) : List Char → Option String
  | [] => none
  | _ :: chars => some (.ofList (percentEncode keep chars))

/-- Reads what follows the authority: path, query and fragment. -/
def withRest (scheme : WebScheme) (authority : Authority) (chars : List Char) :
    Url :=
  let pathAndQuery := chars.takeWhile (· != '#')
  let path := pathAndQuery.takeWhile (· != '?')
  { scheme
    username := authority.username
    password := authority.password
    host := authority.host
    port := authority.port.filter (· != scheme.defaultPort)
    path := .ofChars (path.drop 1)
    query := partAfter isQueryChar (pathAndQuery.dropWhile (· != '?'))
    fragment := partAfter isFragmentChar (chars.dropWhile (· != '#')) }

def readAuthority (chars : List Char) : Except UrlError Authority :=
  Authority.read (chars.takeWhile fun char => !endsAuthority char)

def readWeb (scheme : WebScheme) (chars : List Char) : Except UrlError Address := do
  let chars := chars.dropWhile isSlash
  let authority ← readAuthority chars
  return .web (withRest scheme authority
    (chars.dropWhile fun char => !endsAuthority char))

/-- Checks the rest of a file address, whose host may be missing. -/
def checkFile (chars : List Char) : Except UrlError Address :=
  match chars with
  | first :: second :: rest =>
      let host := rest.takeWhile fun char => !endsAuthority char
      if !(isSlash first && isSlash second) || host.isEmpty ||
          Path.isDrive (.ofList host) then .ok .other
      else (Host.read host).map fun _ => .other
  | _ => .ok .other

/-- Checks the rest of an address whose scheme has no rules of its own. -/
def checkOpaque (chars : List Char) : Except UrlError Address :=
  match chars with
  | '/' :: '/' :: rest =>
      let authority :=
        rest.takeWhile fun char => char != '/' && char != '?' && char != '#'
      (Authority.readOpaque (authority.length < rest.length) authority).map
        fun _ => .other
  | _ => .ok .other

def ofScheme (scheme : String) (chars : List Char) : Except UrlError Address :=
  if scheme = "http" then readWeb .http chars
  else if scheme = "https" then readWeb .https chars
  else if scheme = "ftp" ∨ scheme = "ws" ∨ scheme = "wss" then
    (readAuthority (chars.dropWhile isSlash)).map fun _ => .other
  else if scheme = "file" then checkFile chars
  else checkOpaque chars

/-- The text without what addresses ignore. -/
def significantChars (text : String) : List Char :=
  (stripEnds (fun char => char.toNat ≤ 0x20) text.toList).filter
    fun char => !isIgnoredChar char

def read (text : String) : Except UrlError Address :=
  match takeScheme? (significantChars text) with
  | none => .error .relativeWithoutBase
  | some (scheme, rest) => ofScheme scheme rest

end Address

end ProbeLifecycle
