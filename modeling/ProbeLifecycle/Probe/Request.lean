import ProbeLifecycle.Http.Message
import ProbeLifecycle.Probe.Json

/-!
# Requests to the probe service

Three calls make up the protocol: looking up the probes of a cluster, creating
a probe, and asking for the termination of a cluster's probe.  Every request
names the tenant, and with authentication the token and the client that holds
it.
-/

namespace ProbeLifecycle

inductive Call where
  | lookup (clusterId : String)
  | create (request : ProbeRequest)
  | terminate (clusterId : String)
  deriving DecidableEq, Repr

namespace Call

def clusterId : Call → String
  | lookup clusterId => clusterId
  | create request => request.clusterId
  | terminate clusterId => clusterId

def method : Call → Method
  | lookup _ => .get
  | create _ => .post
  | terminate _ => .patch

def body : Call → String
  | lookup _ => ""
  | create request => request.json.text
  | terminate _ => (transitionJson .terminating).text

end Call

/-- Proof of identity in a request: a token and the client that obtained it. -/
structure Bearer where
  token : String
  username : String
  deriving DecidableEq, Repr

structure ApiRequest where
  call : Call
  url : Url
  tenant : String
  bearer : Option Bearer
  deriving DecidableEq, Repr

namespace ApiRequest

def bearerHeaders : Option Bearer → List Header
  | some bearer =>
      [⟨"authorization", "Bearer " ++ bearer.token⟩,
        ⟨"x-username", bearer.username⟩]
  | none => []

def headers (request : ApiRequest) : List Header :=
  [⟨"content-type", "application/json"⟩, ⟨"x-tenant", request.tenant⟩] ++
    bearerHeaders request.bearer

/-- The message, unless a header cannot be sent. -/
def message? (request : ApiRequest) : Option Message :=
  Message.build? request.call.method request.url request.headers
    request.call.body

end ApiRequest

end ProbeLifecycle
