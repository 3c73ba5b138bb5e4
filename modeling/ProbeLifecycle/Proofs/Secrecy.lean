import ProbeLifecycle.Plan.Surroundings
import ProbeLifecycle.Proofs.WebOperations

/-!
# Where the secret of a client goes

The secret of a client is one field of the form by which a token is requested, and
it goes nowhere else.  Two services that differ only in the secret, in surroundings
that do not make a difference between them, do the same in every session, up to the
value of that field; and their credentials have the same description.
-/

namespace ProbeLifecycle

section Requests

variable (first second secret : String)

def OidcClient.withSecret (client : OidcClient) : OidcClient :=
  { client with clientSecret := secret }

def ProbeClient.withSecret (client : ProbeClient) : ProbeClient :=
  { client with
    provider := client.provider.map fun provider =>
      { provider with client := provider.client.withSecret secret } }

def TokenRequest.withSecret (request : TokenRequest) : TokenRequest :=
  { request with
    form := request.form.map fun field =>
      if field.1 = "client_secret" then (field.1, secret) else field }

theorem TokenRequest.message?_withSecret (request : TokenRequest) :
    (request.withSecret secret).message? =
      request.message?.map fun message =>
        { message with body := (request.withSecret secret).body } := by
  have sameEndpoint : (request.withSecret secret).endpoint = request.endpoint := rfl
  unfold message?
  rw [sameEndpoint]
  cases Address.read request.endpoint with
  | error fault => rfl
  | ok address =>
      cases address with
      | web url =>
          simp only [Message.build?]
          split
          · rfl
          · rfl
      | _ => rfl

namespace Request

/-- The request with another value in the field of the secret, if it is one for a
token. -/
def withSecret : Request → Request
  | .token request => .token (request.withSecret secret)
  | .api request => .api request

theorem withSecret_withSecret (request : Request) :
    (request.withSecret first).withSecret second = request.withSecret second := by
  cases request with
  | api request => rfl
  | token request =>
      simp only [withSecret, TokenRequest.withSecret, List.map_map, token.injEq,
        TokenRequest.mk.injEq, true_and]
      apply List.map_congr_left
      intro field member
      by_cases isSecret : field.1 = "client_secret"
      · simp [isSecret]
      · simp [isSecret]

theorem isSome_message_withSecret (request : Request) :
    (request.withSecret secret).message?.isSome = request.message?.isSome := by
  cases request with
  | api request => rfl
  | token request =>
      simp only [withSecret, message?, request.message?_withSecret, Option.isSome_map]

end Request

theorem OidcClient.tokenRequest_withSecret (client : OidcClient) :
    (client.withSecret secret).tokenRequest =
      client.tokenRequest.withSecret secret := by
  cases client with
  | mk clientId clientSecret issuerUrl scope =>
      cases scope <;> simp [tokenRequest, withSecret, form, tokenUrl,
        TokenRequest.withSecret]

end Requests

namespace Plan

variable {α β : Type} (secret : String)

def withSecret : Plan α → Plan α
  | .done value => .done value
  | .halt cause => .halt cause
  | .lock next => .lock fun cached => (next cached).withSecret
  | .unlock cached next => .unlock cached next.withSecret
  | .clock next => .clock fun now => (next now).withSecret
  | .exchange request next =>
      .exchange (request.withSecret secret) fun delivery =>
        (next delivery).withSecret
  | .measure measurement next => .measure measurement next.withSecret

theorem withSecret_bind (plan : Plan α) (next : α → Plan β) :
    (plan.bind next).withSecret secret =
      (plan.withSecret secret).bind fun value => (next value).withSecret secret := by
  induction plan with
  | done value => rfl
  | halt cause => rfl
  | lock rest ih => simp only [bind, withSecret, ih]
  | unlock cached rest ih => simp only [bind, withSecret, ih]
  | clock rest ih => simp only [bind, withSecret, ih]
  | exchange request rest ih => simp only [bind, withSecret, ih]
  | measure measurement rest ih => simp only [bind, withSecret, ih]

end Plan

section Clients

variable (secret : String)

theorem TokenProvider.token_withSecret (provider : TokenProvider) :
    ({ provider with client := provider.client.withSecret secret } :
        TokenProvider).token =
      provider.token.withSecret secret := by
  have refresh : ∀ cached,
      ({ provider with client := provider.client.withSecret secret } :
          TokenProvider).refresh cached =
        (provider.refresh cached).withSecret secret := by
    intro cached
    simp only [refresh_steps, Plan.withSecret, Request.withSecret,
      OidcClient.tokenRequest_withSecret]
    congr 1
    funext fetchedAt
    congr 1
    funext delivery
    cases delivery.grant with
    | error error => rfl
    | ok response =>
        have sameToken : ({ provider with client := provider.client.withSecret secret } :
            TokenProvider).accessToken? fetchedAt response =
              provider.accessToken? fetchedAt response := rfl
        dsimp only
        rw [sameToken]
        cases provider.accessToken? fetchedAt response with
        | none => rfl
        | some token => rfl
  rw [token_steps, token_steps]
  simp only [Plan.withSecret]
  congr 1
  funext cached
  cases cached with
  | none => exact refresh none
  | some token =>
      simp only [Plan.withSecret]
      congr 1
      funext now
      split
      · rfl
      · exact refresh (some token)

/-- The secret of a client shows in its requests for tokens, and nowhere else. -/
theorem ProbeClient.execute_withSecret (client : ProbeClient) (call : Call) :
    ((client.withSecret secret).execute call).run =
      (client.execute call).run.withSecret secret := by
  have bearer : (client.withSecret secret).bearer.run =
      client.bearer.run.withSecret secret := by
    rw [bearer_steps, bearer_steps]
    cases authenticated : client.provider with
    | none => simp [ProbeClient.withSecret, authenticated, Plan.withSecret]
    | some provider =>
        simp only [ProbeClient.withSecret, authenticated, Option.map_some,
          provider.token_withSecret, Plan.withSecret_bind]
        congr 1
        funext result
        cases result with
        | error error => rfl
        | ok token => rfl
  have sameUse : (client.withSecret secret).isAuthenticated =
      client.isAuthenticated := by
    simp [isAuthenticated, ProbeClient.withSecret]
  rw [execute_steps, execute_steps, bearer, Plan.withSecret_bind]
  congr 1
  funext result
  cases result with
  | error error => rfl
  | ok bearer =>
      simp only [Plan.withSecret, Plan.withSecret_bind, Request.withSecret]
      have sameRequest : (client.withSecret secret).apiRequest call bearer =
          client.apiRequest call bearer := by
        cases call <;> rfl
      rw [sameRequest]
      congr 1
      funext delivery
      unfold dropRefusedToken
      rw [sameUse]
      split
      · rfl
      · rfl

theorem Procedure.plan_withSecret {α : Type} (client : ProbeClient)
    (procedure : Procedure α) :
    procedure.plan (client.withSecret secret) =
      (procedure.plan client).withSecret secret := by
  induction procedure with
  | finish value => rfl
  | measure measurement next ih => simp only [plan, Plan.withSecret, ih]
  | attempt call next ih =>
      simp only [plan, client.execute_withSecret, Plan.withSecret_bind, ih]

end Clients

section Runs

variable {ω : Type}

/-- Surroundings that treat a request with one secret as others do with another. -/
structure Surroundings.TreatsAlike (surroundings others : Surroundings ω)
    (first second : String) : Prop where
  clock : others.clock = surroundings.clock
  deliver : ∀ request : Request,
    others.deliver (request.withSecret second) =
      surroundings.deliver (request.withSecret first)

def Event.withSecret (secret : String) : Event → Event
  | .exchanged request delivery => .exchanged (request.withSecret secret) delivery
  | event => event

@[simp]
theorem measurements_withSecret (secret : String) (events : List Event) :
    measurements (events.map (Event.withSecret secret)) = measurements events := by
  induction events with
  | nil => rfl
  | cons event events ih =>
      cases event <;> simp [Event.withSecret, ih]

def Run.withSecret {α : Type} (run : Run ω α) (secret : String) : Run ω α :=
  { run with events := run.events.map (Event.withSecret secret) }

variable {surroundings others : Surroundings ω} {first second : String}

theorem Surroundings.TreatsAlike.exchange
    (alike : surroundings.TreatsAlike others first second) (request : Request)
    (world : ω) :
    others.exchange (request.withSecret second) world =
      surroundings.exchange (request.withSecret first) world := by
  have sent := Request.isSome_message_withSecret second request
  have sentToo := Request.isSome_message_withSecret first request
  unfold Surroundings.exchange
  cases message : request.message? with
  | none =>
      rw [message, Option.isSome_none, Option.isSome_eq_false_iff,
        Option.isNone_iff_eq_none] at sent sentToo
      rw [sent, sentToo]
  | some text =>
      rw [message, Option.isSome_some] at sent sentToo
      obtain ⟨_, isMessage⟩ := Option.isSome_iff_exists.mp sent
      obtain ⟨_, isMessageToo⟩ := Option.isSome_iff_exists.mp sentToo
      simp only [isMessage, isMessageToo, alike.deliver]

/-- A plan does the same with both secrets, where they are treated alike. -/
theorem Plan.run_withSecret {α : Type}
    (alike : surroundings.TreatsAlike others first second) (plan : Plan α)
    (cache : Option AccessToken) (world : ω) :
    (plan.withSecret second).run others cache world =
      ((plan.withSecret first).run surroundings cache world).withSecret second := by
  induction plan generalizing cache world with
  | done value => rfl
  | halt cause => rfl
  | lock next ih =>
      simp only [Plan.withSecret, Plan.run, ih]
      rfl
  | unlock cached next ih =>
      simp only [Plan.withSecret, Plan.run, ih]
      rfl
  | clock next ih =>
      simp only [Plan.withSecret, Plan.run, alike.clock, ih]
      rfl
  | exchange request next ih =>
      simp only [Plan.withSecret, Plan.run, alike.exchange, ih]
      simp only [Run.withSecret, Run.after, List.map_cons, Event.withSecret,
        Request.withSecret_withSecret]
  | measure measurement next ih =>
      simp only [Plan.withSecret, Plan.run, ih]
      rfl

end Runs

def StepReport.withSecret (secret : String) (report : StepReport) : StepReport :=
  { report with events := report.events.map (Event.withSecret secret) }

namespace Service

variable {ω : Type} {surroundings others : Surroundings ω} {first second : String}
  (client : ProbeClient) (onlyPublicClusters : Bool) (deletionTimeout : Nat)
  (metricsKept : Bool)

theorem step_withSecret (alike : surroundings.TreatsAlike others first second)
    (state : SessionState ω) (step : Step) :
    let service := fun secret =>
      ofClient (client.withSecret secret) onlyPublicClusters deletionTimeout
    let taken := (service first).step metricsKept surroundings state step
    (service second).step metricsKept others state step =
      (taken.1.withSecret second, taken.2) := by
  intro service taken
  simp only [taken, Service.step]
  generalize (if metricsKept then _ else _ : Option Tally) = tally
  obtain ⟨procedure, isPlan⟩ :=
    exists_procedure onlyPublicClusters deletionTimeout tally step
  have run_eq : ((service second).plan tally step).run others state.cache
        state.world =
      (((service first).plan tally step).run surroundings state.cache
        state.world).withSecret second := by
    simp only [service, ← isPlan, Procedure.plan_withSecret]
    exact Plan.run_withSecret alike _ _ _
  rw [run_eq]
  simp only [Run.withSecret, measurements_withSecret, StepReport.withSecret]

/-- Two services that differ only in the secret of their credentials, in
surroundings that treat the secrets alike, report the same in every session, but for
the value of the secret's field in requests for tokens.  They end in the same state,
and their credentials have the same description. -/
theorem session_withSecret (alike : surroundings.TreatsAlike others first second)
    (state : SessionState ω) (steps : List Step) :
    let session := fun secret =>
      (ofClient (client.withSecret secret) onlyPublicClusters
        deletionTimeout).session metricsKept
    let taken := session first surroundings state steps
    session second others state steps =
        (taken.1.map (StepReport.withSecret second), taken.2) ∧
      ∀ credentials : OidcClient,
        (credentials.withSecret first).describe =
          (credentials.withSecret second).describe := by
  intro session taken
  refine ⟨?_, fun _ => rfl⟩
  simp only [session, taken]
  induction steps generalizing state with
  | nil => rfl
  | cons next steps ih =>
      have now := step_withSecret client onlyPublicClusters deletionTimeout
        metricsKept alike state next
      simp only [Service.session, List.map_cons]
      rw [now, ih]

/-- A token is granted for either secret, and the service is asked with it. -/
theorem session_withSecret_granted :
    let client : ProbeClient :=
      ⟨⟨{ scheme := .http, host := "probes" }, "hcp"⟩,
        some ⟨⟨"hcp", "", "http://issuer", none⟩, 0⟩⟩
    let session := fun secret =>
      (ofClient (client.withSecret secret) false 900).session true (.scripted ⟨0⟩)
    let grant : ScriptedReply :=
      ⟨some 200, .complete (Text.utf8Bytes
        "\x7b\"access_token\":\"t1\",\"expires_in\":60\x7d".toList)⟩
    let state : SessionState (List ScriptedReply) :=
      { world := [grant, ⟨some 404, .complete []⟩] }
    let asked := fun secret => Request.token ⟨"http://issuer/token",
      [("grant_type", "client_credentials"), ("client_id", "hcp"),
        ("client_secret", secret)]⟩
    let logged := fun secret =>
      exchanges ((session secret state [.get "c1"]).1.flatMap StepReport.events)
    (Surroundings.scripted ⟨0⟩).TreatsAlike (.scripted ⟨0⟩) "hidden" "other" ∧
      (logged "hidden").head? = some (asked "hidden", grant.delivery) ∧
      (logged "other").head? = some (asked "other", grant.delivery) ∧
      (session "other" state [.get "c1"]).2 =
        (session "hidden" state [.get "c1"]).2 := by
  intro client session grant state asked logged
  have alike : (Surroundings.scripted ⟨0⟩).TreatsAlike (.scripted ⟨0⟩) "hidden"
      "other" := ⟨rfl, fun _ => rfl⟩
  have same : session "other" state [.get "c1"] =
      ((session "hidden" state [.get "c1"]).1.map (StepReport.withSecret "other"),
        (session "hidden" state [.get "c1"]).2) :=
    (session_withSecret client false 900 true alike state [.get "c1"]).1
  have first : (logged "hidden").head? = some (asked "hidden", grant.delivery) := by
    decide +kernel
  have second : (logged "other").head? = some (asked "other", grant.delivery) := by
    decide +kernel
  refine ⟨alike, first, second, ?_⟩
  rw [same]

end Service

end ProbeLifecycle
