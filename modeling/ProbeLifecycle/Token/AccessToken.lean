import ProbeLifecycle.Time.Instant

/-!
# Access tokens

A token authenticates requests until it expires.  A request that starts exactly
when the token expires may no longer use it.
-/

namespace ProbeLifecycle

structure AccessToken where
  value : String
  expiresAt : Instant
  deriving DecidableEq, Repr

/-- A request that starts now may use the token. -/
def AccessToken.IsValidAt (token : AccessToken) (now : Instant) : Prop :=
  now < token.expiresAt

instance (token : AccessToken) (now : Instant) :
    Decidable (token.IsValidAt now) :=
  inferInstanceAs (Decidable (now < token.expiresAt))

end ProbeLifecycle
