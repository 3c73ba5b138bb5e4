import ProbeLifecycle.Plan.Surroundings
import ProbeLifecycle.Proofs.ClusterLookups
import ProbeLifecycle.Proofs.PlannedRequests

/-!
# Credentials in token requests

The form that asks for a token is read by the issuer as it was meant: what kind of grant
is wanted, the identifier and the secret of the client, and the scope if there is one.
No character of a credential can end its field, so none can add or change another, and
clients with different credentials send different forms.
-/

namespace ProbeLifecycle

open Text

namespace OidcClient

/-- The fields by which the issuer knows a client and what it asks for. -/
def fields (credentials : OidcClient) : FormPairs :=
  match credentials.scope with
  | none =>
      [("grant_type", "client_credentials"), ("client_id", credentials.clientId),
        ("client_secret", credentials.clientSecret)]
  | some scope =>
      [("grant_type", "client_credentials"), ("client_id", credentials.clientId),
        ("client_secret", credentials.clientSecret), ("scope", scope)]

/-- A token is requested with credentials: by their provider alone, in a session of a
service, or by a service that takes steps side by side. -/
inductive Requests (credentials : OidcClient) (request : TokenRequest) : Prop where
  | alone {ω : Type} {surroundings : Surroundings ω} {leeway : Nat}
      {cache : Option AccessToken} {world : ω} {delivery : Delivery}
      (made : .exchanged (.token request) delivery ∈
        ((⟨credentials, leeway⟩ : TokenProvider).token.run surroundings cache
          world).events)
  | inSession {ω : Type} {surroundings : Surroundings ω} {leeway : Nat}
      {client : ProbeClient} {onlyPublicClusters : Bool} {deletionTimeout : Nat}
      {metricsKept : Bool} {state : SessionState ω} {steps : List Step}
      {delivery : Delivery} (authenticated : client.provider = some ⟨credentials, leeway⟩)
      (made : .exchanged (.token request) delivery ∈
        ((Service.ofClient client onlyPublicClusters deletionTimeout).session metricsKept
          surroundings state steps).1.flatMap StepReport.events)
  | sideBySide {ι : Type} [DecidableEq ι] {leeway : Nat} {client : ProbeClient}
      {onlyPublicClusters : Bool} {deletionTimeout : Nat} {cache : Option AccessToken}
      {tallies : ι → Option Tally} {steps : ι → Step} {trace : List (ι × Act)}
      {later : Scene ι Answer} {task : ι}
      (authenticated : client.provider = some ⟨credentials, leeway⟩)
      (runs : (Scene.start cache fun task =>
        (Service.ofClient client onlyPublicClusters deletionTimeout).plan (tallies task)
          (steps task)).Runs trace later)
      (made : (task, .send (.token request)) ∈ trace)

section Forms

variable {credentials other : OidcClient} {request otherRequest : TokenRequest}

theorem form_eq_fields (credentials : OidcClient) :
    credentials.form = credentials.fields := by
  unfold form fields
  cases credentials.scope with
  | none => rfl
  | some scope => rfl

/-- The fields determine the credentials. -/
theorem fields_inj :
    other.fields = credentials.fields ↔
      other.clientId = credentials.clientId ∧
        other.clientSecret = credentials.clientSecret ∧
        other.scope = credentials.scope := by
  unfold fields
  cases other.scope <;> cases credentials.scope <;> simp

/-- The form is read as it was meant. -/
theorem decodeForm_body (credentials : OidcClient) :
    decodeForm credentials.tokenRequest.body.toList = credentials.fields := by
  rw [TokenRequest.body, String.toList_ofList, decodeForm_encodeForm]
  exact credentials.form_eq_fields

theorem body_inj :
    other.tokenRequest.body = credentials.tokenRequest.body ↔
      other.fields = credentials.fields := by
  constructor
  · intro sameBody
    rw [← decodeForm_body, ← decodeForm_body, sameBody]
  · intro sameFields
    unfold TokenRequest.body tokenRequest
    rw [form_eq_fields, form_eq_fields, sameFields]

/-- The only request for a token is the one that the credentials describe. -/
theorem Requests.eq_tokenRequest (requests : credentials.Requests request) :
    request = credentials.tokenRequest := by
  have own : ∀ {client : ProbeClient} {leeway : Nat},
      client.provider = some ⟨credentials, leeway⟩ →
      client.Sends (fun _ => True) (.token request) →
      request = credentials.tokenRequest := by
    intro client leeway authenticated sends
    cases sends with
    | token authenticatedToo =>
        rw [authenticated] at authenticatedToo
        cases authenticatedToo
        rfl
  cases requests with
  | @alone ω surroundings leeway cache world delivery made =>
      have sendsOnly : (⟨credentials, leeway⟩ : TokenProvider).token.SendsOnly
          (· = .token credentials.tokenRequest) :=
        TokenProvider.sendsOnly_token rfl
      exact Request.token.inj (sendsOnly.of_run made)
  | inSession authenticated made =>
      exact own authenticated (Service.sendsOnly_session
        (Service.sendsOnly_plan _ _ _) made)
  | sideBySide authenticated runs made =>
      refine own authenticated (Plan.SendsOnly.of_runs ?_ runs made)
      exact Service.sendsOnly_plan _ _ _ _ _

theorem body_of_message? {message : Message}
    (built : request.message? = some message) :
    message.method = .post ∧ message.body = request.body := by
  unfold TokenRequest.message? at built
  split at built
  · exact ⟨(Message.of_build built).1, Message.body_of_build built⟩
  · cases built

/-- In every request for a token the issuer reads the fields of the client, with its
credentials as they are, and in their order; what is sent is this form.  Two clients
send the same form only if they have the same identifier, secret and scope. -/
theorem credentials_unaltered (requests : credentials.Requests request) :
    decodeForm request.body.toList = credentials.fields ∧
      (∀ message, request.message? = some message →
        message.method = .post ∧ message.body = request.body) ∧
      ∀ (other : OidcClient) (otherRequest : TokenRequest), other.Requests otherRequest →
        (otherRequest.body = request.body ↔
          other.clientId = credentials.clientId ∧
            other.clientSecret = credentials.clientSecret ∧
            other.scope = credentials.scope) := by
  obtain rfl := requests.eq_tokenRequest
  refine ⟨credentials.decodeForm_body, fun message built => body_of_message? built, ?_⟩
  intro other otherRequest requestsToo
  obtain rfl := requestsToo.eq_tokenRequest
  rw [body_inj, fields_inj]

/-- An identifier, a secret and a scope that look like other fields. -/
theorem credentials_unaltered_separators :
    let credentials : OidcClient :=
      ⟨"é&scope=admin", "a=b+c%26 d", "http://issuer", some "x&client_id=root"⟩
    let message : Message :=
      { method := .post
        target := "/token"
        headers := [⟨"accept", "application/json"⟩,
          ⟨"content-type", "application/x-www-form-urlencoded"⟩]
        body := "grant_type=client_credentials&client_id=%C3%A9%26scope%3Dadmin" ++
          "&client_secret=a%3Db%2Bc%2526+d&scope=x%26client_id%3Droot" }
    credentials.Requests credentials.tokenRequest ∧
      credentials.tokenRequest.message? = some message ∧
      decodeForm message.body.toList =
        [("grant_type", "client_credentials"), ("client_id", "é&scope=admin"),
          ("client_secret", "a=b+c%26 d"), ("scope", "x&client_id=root")] := by
  intro credentials message
  have made : .exchanged (.token credentials.tokenRequest) .hungUp ∈
      ((⟨credentials, 0⟩ : TokenProvider).token.run (.scripted ⟨0⟩) none []).events := by
    decide +kernel
  have requests : credentials.Requests credentials.tokenRequest := .alone made
  have built : credentials.tokenRequest.message? = some message := by decide +kernel
  obtain ⟨decoded, sent, -⟩ := credentials_unaltered requests
  obtain ⟨-, sameBody⟩ := sent message built
  rw [sameBody]
  exact ⟨requests, built, decoded⟩

end Forms

end OidcClient

end ProbeLifecycle
