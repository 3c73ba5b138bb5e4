import ProbeLifecycle.Http.Message
import ProbeLifecycle.Token.OidcClient

/-!
# Token requests

A token is requested with the client's own credentials, as a form that is
posted to the token endpoint.
-/

namespace ProbeLifecycle

open Text

/-- A request for a token: the text of the endpoint's address, and the form. -/
structure TokenRequest where
  endpoint : String
  form : FormPairs
  deriving DecidableEq, Repr

def OidcClient.form (client : OidcClient) : FormPairs :=
  [("grant_type", "client_credentials"), ("client_id", client.clientId),
    ("client_secret", client.clientSecret)] ++
    client.scope.toList.map fun scope => ("scope", scope)

def OidcClient.tokenRequest (client : OidcClient) : TokenRequest where
  endpoint := client.tokenUrl
  form := client.form

namespace TokenRequest

def body (request : TokenRequest) : String :=
  .ofList (encodeForm request.form)

def headers : List Header :=
  [⟨"accept", "application/json"⟩,
    ⟨"content-type", "application/x-www-form-urlencoded"⟩]

/-- The message, if the endpoint's address is one of the web. -/
def message? (request : TokenRequest) : Option Message :=
  match Address.read request.endpoint with
  | .ok (.web url) => Message.build? .post url headers request.body
  | _ => none

end TokenRequest

end ProbeLifecycle
