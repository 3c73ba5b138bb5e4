import ProbeLifecycle.Http.Delivery
import ProbeLifecycle.Json.Problem

/-!
# Failures to obtain a token

A token request can fail on its way, be refused by the issuer, or be answered
with something that holds no token.
-/

namespace ProbeLifecycle

inductive TokenError where
  | transport (fault : TransportFault)
  | refused (status : Nat) (body : String)
  | parse (problem : Json.Problem)
  | emptyToken
  deriving DecidableEq, Repr

def TokenError.message : TokenError → String
  | .transport fault => "failed to request access token: " ++ fault.message
  | .refused status body =>
      "token request failed with status " ++ status.repr ++ ": " ++ body
  | .parse problem => "failed to parse token response: " ++ problem.message
  | .emptyToken => "token response did not contain an access token"

end ProbeLifecycle
