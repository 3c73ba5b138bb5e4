import ProbeLifecycle.Http.Reply
import ProbeLifecycle.Plan.Basic
import ProbeLifecycle.Token.Error
import ProbeLifecycle.Token.Response

/-!
# Providing tokens

A provider hands out the cached token while it is valid and otherwise asks the
issuer for a new one.  It keeps the lock of the cache meanwhile, so whoever
waits for the lock finds the new token.  A failure leaves the cache as it was.
-/

namespace ProbeLifecycle

/-- Provides tokens for one client; the leeway is taken off the lifetime of every
token, and both are whole seconds, as the settings and the issuer give them. -/
structure TokenProvider where
  client : OidcClient
  leeway : Nat
  deriving DecidableEq

/-- What the issuer grants, given what became of a token request. -/
def Delivery.grant (delivery : Delivery) : Except TokenError TokenResponse :=
  match delivery.receive with
  | .error fault => .error (.transport fault)
  | .ok received =>
      if isSuccess received.status then
        match Json.decode TokenResponse.reader received.body with
        | .error problem => .error (.parse problem)
        | .ok response =>
            if response.accessToken = "" then .error .emptyToken
            else .ok response
      else .error (.refused received.status received.body)

namespace TokenProvider

variable (provider : TokenProvider)

def lifetime (response : TokenResponse) : Nat :=
  response.expiresIn - provider.leeway

/-- The token that a grant gives, if the clock can represent its expiry. -/
def accessToken? (fetchedAt : Instant) (response : TokenResponse) :
    Option AccessToken :=
  (fetchedAt.after? (provider.lifetime response)).map fun expiresAt =>
    ⟨response.accessToken, expiresAt⟩

/-- Asks the issuer for a new token while holding the lock of the cache. -/
def refresh (cached : Option AccessToken) :
    Plan (Except TokenError AccessToken) := do
  let fetchedAt ← Plan.now
  let delivery ← Plan.send (.token provider.client.tokenRequest)
  match delivery.grant with
  | .error error =>
      Plan.record (.tokenRefresh false)
      Plan.leaveCache cached
      return .error error
  | .ok response =>
      match provider.accessToken? fetchedAt response with
      | none =>
          Plan.leaveCache cached
          Plan.halt .clockOverflow
      | some token =>
          Plan.record (.tokenRefresh true)
          Plan.leaveCache (some token)
          return .ok token

def token : Plan (Except TokenError AccessToken) := do
  let cached ← Plan.takeCache
  match cached with
  | none => provider.refresh cached
  | some token =>
      let now ← Plan.now
      if token.IsValidAt now then
        Plan.leaveCache cached
        return .ok token
      else provider.refresh cached

end TokenProvider

def invalidateToken : Plan Unit := do
  let _ ← Plan.takeCache
  Plan.leaveCache none

end ProbeLifecycle
