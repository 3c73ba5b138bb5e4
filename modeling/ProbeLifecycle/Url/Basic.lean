import ProbeLifecycle.Text.Form
import ProbeLifecycle.Url.Path

/-!
# Web addresses

An address for HTTP or HTTPS with all its parts.  Every part except the port
holds text in the form in which it is written, so writing an address only puts
its parts together.
-/

namespace ProbeLifecycle

open Text

inductive WebScheme where
  | http
  | https
  deriving DecidableEq, Repr

namespace WebScheme

def name : WebScheme → String
  | http => "http"
  | https => "https"

def defaultPort : WebScheme → Nat
  | http => 80
  | https => 443

end WebScheme

structure Url where
  scheme : WebScheme
  username : String := ""
  password : String := ""
  host : String
  port : Option Nat := none
  path : Path := .root
  query : Option String := none
  fragment : Option String := none
  deriving DecidableEq, Repr

namespace Url

/-- User name and password before the host; an empty password is not written,
and without either the sign after them is not written. -/
def credentialsText (url : Url) : String :=
  if url.username = "" ∧ url.password = "" then ""
  else if url.password = "" then url.username ++ "@"
  else url.username ++ ":" ++ url.password ++ "@"

def markedText (mark : String) : Option String → String
  | some text => mark ++ text
  | none => ""

/-- Path and query, as they are sent to the host. -/
def target (url : Url) : String :=
  String.ofList url.path.chars ++ markedText "?" url.query

def text (url : Url) : String :=
  url.scheme.name ++ "://" ++ url.credentialsText ++ url.host ++
    markedText ":" (url.port.map Nat.repr) ++ url.target ++
    markedText "#" url.fragment

/-- Whether an address is one whose path is no list of segments: what follows the
colon after its scheme does not begin with a slash. -/
def cannotBeBase (url : Url) : Bool :=
  (url.text.toList.drop (url.scheme.name.length + 1)).head? != some '/'

theorem cannotBeBase_eq_false (url : Url) : url.cannotBeBase = false := by
  have begins : ∃ rest, url.text.toList = url.scheme.name.toList ++ ':' :: '/' :: rest :=
    ⟨_, by simp [text, String.toList_append, List.append_assoc]; rfl⟩
  obtain ⟨rest, begins⟩ := begins
  unfold cannotBeBase
  rw [begins, ← List.drop_drop, ← String.length_toList, List.drop_left]
  rfl

def appendPair (url : Url) (name value : String) : Url :=
  let pair := String.ofList (formPair name value)
  { url with
    query := some (
      match url.query with
      | none => pair
      | some query => if query = "" then pair else query ++ "&" ++ pair) }

/-- Takes one empty segment off the end of the path and adds others. -/
def extendPath (url : Url) (segments : List String) : Url :=
  { url with path := url.path.popIfEmpty.extend segments }

end Url

end ProbeLifecycle
