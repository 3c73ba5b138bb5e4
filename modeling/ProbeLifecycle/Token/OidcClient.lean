import ProbeLifecycle.Text.Quoted
import ProbeLifecycle.Text.WhiteSpace

/-!
# Credentials for the token issuer

An OpenID Connect client has an identifier and a secret, and knows where the
issuer takes token requests: the issuer's address may name that endpoint or be
the base that it lies under.
-/

namespace ProbeLifecycle

open Text

structure OidcClient where
  clientId : String
  clientSecret : String
  issuerUrl : String
  scope : Option String := some "profile"
  deriving DecidableEq

namespace OidcClient

def tokenSegment : String := "/token"

/-- The address that token requests go to. -/
def tokenUrl (client : OidcClient) : String :=
  let issuer := stripEnd (· == '/') client.issuerUrl.toList
  if tokenSegment.toList.isSuffixOf issuer then .ofList issuer
  else .ofList (issuer ++ tokenSegment.toList)

def describeOptional : Option String → String
  | some text => "Some(" ++ quoted text ++ ")"
  | none => "None"

/-- A description for logs, in which the secret is not shown. -/
def describe (client : OidcClient) : String :=
  "OidcConfig \x7b client_id: " ++ quoted client.clientId ++
    ", client_secret: " ++ quoted "<redacted>" ++
    ", issuer_url: " ++ quoted client.issuerUrl ++
    ", scope: " ++ describeOptional client.scope ++ " \x7d"

end OidcClient

end ProbeLifecycle
