import ProbeLifecycle.Text.Quoted
import ProbeLifecycle.Token.Error

/-!
# Failures of probe operations

An operation on probes fails because its address is unusable, because a token
or a request did not come through, or because the service answered with an
error or with something that is no probe.  A deletion that cannot look its
probe up wraps the failure of the lookup.
-/

namespace ProbeLifecycle

inductive ProbeError where
  | invalidUrl (url reason : String)
  | client (reason : String)
  | auth (error : TokenError)
  | transport (fault : TransportFault)
  | api (status : Nat) (body : String)
  | decode (problem : Json.Problem)
  | lookup (error : ProbeError)
  deriving DecidableEq, Repr

namespace ProbeError

def message : ProbeError → String
  | invalidUrl url reason =>
      "invalid probe API URL " ++ Text.quoted url ++ ": " ++ reason
  | client reason => "failed to build HTTP client: " ++ reason
  | auth error => "failed to add auth headers: " ++ error.message
  | transport fault => "failed to send HTTP request: " ++ fault.message
  | api status body =>
      "API request failed with status " ++ status.repr ++ ": " ++ body
  | decode problem => "failed to unmarshal response: " ++ problem.message
  | lookup error => "failed to check existing probe: " ++ error.message

def status? : ProbeError → Option Nat
  | api status _ => some status
  | lookup error => error.status?
  | _ => none

/-- The service was reached and refused the request. -/
def isApiError (error : ProbeError) : Bool :=
  error.status?.isSome

/-- The service or the token issuer gave no readable reply. -/
def isTransport : ProbeError → Bool
  | transport _ => true
  | auth (.transport _) => true
  | lookup error => error.isTransport
  | _ => false

end ProbeError

end ProbeLifecycle
