import ProbeLifecycle.Http.Message
import ProbeLifecycle.Json.Writer

/-!
# Requests and responses of the service

The service is itself asked over HTTP.  What matters of a request is its
method, its target, the type of its body and the body, which is text: bodies
that are not UTF-8 are left out.
-/

namespace ProbeLifecycle.Web

structure Request where
  method : String
  target : String
  contentType : Option String := none
  body : String := ""
  deriving DecidableEq, Repr

namespace Request

/-- The target without a fragment, and without the scheme and the host that may
stand before its path. -/
def pathAndQuery (request : Request) : List Char :=
  let target := request.target.toList.takeWhile (· != '#')
  match target.dropWhile Address.isSchemeChar with
  | ':' :: '/' :: '/' :: rest =>
      rest.dropWhile fun char => char != '/' && char != '?'
  | _ => target

def path (request : Request) : List Char :=
  request.pathAndQuery.takeWhile (· != '?')

/-- The query of the target, without its mark. -/
def query (request : Request) : List Char :=
  (request.pathAndQuery.dropWhile (· != '?')).drop 1

end Request

structure Response where
  status : Nat
  contentType : Option String := none
  body : String := ""
  allow : Option String := none
  deriving DecidableEq, Repr

namespace Response

def text (status : Nat) (body : String) : Response where
  status := status
  contentType := some "text/plain; charset=utf-8"
  body := body

def json (status : Nat) (value : Json.Value) : Response where
  status := status
  contentType := some "application/json"
  body := value.text

def failure (status : Nat) (message : String) : Response :=
  json status (.object [("error", .string message)])

def empty (status : Nat) : Response where
  status := status

/-- The response to a request that asks for no body. -/
def withoutBody (response : Response) : Response :=
  { response with body := "" }

end Response

end ProbeLifecycle.Web
