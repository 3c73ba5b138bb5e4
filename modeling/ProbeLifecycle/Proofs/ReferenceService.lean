import ProbeLifecycle.Proofs.FaithfulService
import ProbeLifecycle.Proofs.TokenLedger

/-!
# A service that holds its probes in a list

The service keeps its probes in the order in which they were requested and writes
what it shows as JSON; the issuer grants one token to everybody.  What a client
does in these surroundings is free of faults, if its requests can be sent.
-/

namespace ProbeLifecycle.ReferenceService

open Json ProbeClient Text

def newLabels (request : ProbeRequest) : Labels where
  entries :=
    [(Probe.clusterLabel, request.clusterId),
      (Probe.privateLabel, privateLabelValue request.isPrivate)]
  ascending := by
    have before : Probe.clusterLabel < Probe.privateLabel := by decide
    simpa [KeysAscending] using before

def newProbe (request : ProbeRequest) : Probe where
  id := "probe-" ++ request.clusterId
  clusterId := request.clusterId
  apiserverUrl := some request.apiserverUrl
  labels := newLabels request

def reply (status : Nat) (text : List Char) : Delivery :=
  .reply status (.complete (utf8Bytes text))

/-- The reply by which the issuer grants a token for a minute. -/
def grant : Delivery :=
  reply 200 "\x7b\"access_token\":\"token\",\"expires_in\":60\x7d".toList

def answerCall (store : List Probe) : Call → Delivery × List Probe
  | .lookup clusterId =>
      (reply 200 (listingText (matching clusterId store)), store)
  | .terminate clusterId => (reply 202 [], foreign clusterId store)
  | .create request =>
      (reply 201 (newProbe request).json.write, store ++ [newProbe request])

/-- The service and the issuer, with a clock that stands still. -/
def surroundings : Surroundings (List Probe) where
  clock store := (⟨0⟩, store)
  deliver request store :=
    match request with
    | .token _ => (grant, store)
    | .api request => answerCall store request.call

theorem cluster?_newProbe (request : ProbeRequest) :
    (newProbe request).cluster? = some request.clusterId := by
  by_cases noId : request.clusterId = ""
  · have labelled : (newLabels request).get? Probe.clusterLabel =
        some request.clusterId := rfl
    simp only [Probe.cluster?, newProbe, noId, if_true, labelled]
  · simp only [Probe.cluster?, newProbe, noId, if_false]

theorem answers (call : Call) (store : List Probe) :
    Answers call (answerCall store call).1 store (answerCall store call).2 := by
  cases call with
  | lookup clusterId => exact .listed (.written rfl)
  | terminate clusterId => exact .removed rfl
  | create request =>
      have pending : (newProbe request).status = .pending := rfl
      have labelled : (newProbe request).labels.get? Probe.privateLabel =
          some (privateLabelValue request.isPrivate) := rfl
      exact .added (.written rfl) pending (cluster?_newProbe request) labelled

theorem grant_eq : grant.grant = .ok ⟨"token", none, 60⟩ := by
  decide +kernel

def IsUsual : Event → Prop
  | .clockRead now => now = ⟨0⟩
  | .exchanged (.token _) delivery => delivery = grant ∨ delivery = .unsent
  | _ => True

section Events

variable {store later : List Probe} {events : List Event}

theorem isUsual_of_mem (passes : surroundings.Pass store events later) :
    ∀ event ∈ events, IsUsual event := by
  induction passes with
  | idle => simp
  | clock rest ih => exact List.forall_mem_cons.mpr ⟨rfl, ih⟩
  | locked rest ih => exact List.forall_mem_cons.mpr ⟨trivial, ih⟩
  | unlocked cached rest ih => exact List.forall_mem_cons.mpr ⟨trivial, ih⟩
  | measured measurement rest ih => exact List.forall_mem_cons.mpr ⟨trivial, ih⟩
  | exchange request rest ih =>
      refine List.forall_mem_cons.mpr ⟨?_, ih⟩
      cases request with
      | api request => trivial
      | token request =>
          unfold Surroundings.exchange
          cases Request.message? (.token request) with
          | none => exact .inr rfl
          | some message => exact .inl rfl

theorem IsUsual.response_eq {request : TokenRequest} {delivery : Delivery}
    {response : TokenResponse}
    (usual : IsUsual (.exchanged (.token request) delivery))
    (granted : delivery.grant = .ok response) :
    response = ⟨"token", none, 60⟩ := by
  rcases usual with rfl | rfl
  · exact (Except.ok.inj (grant_eq.symm.trans granted)).symm
  · cases granted

theorem served (passes : surroundings.Pass store events later)
    (sendable : ∀ exchange ∈ exchanges events, exchange.1.message? ≠ none) :
    Served (exchanges events) store later := by
  induction passes with
  | idle => exact .nil
  | clock rest ih => exact ih sendable
  | locked rest ih => exact ih sendable
  | unlocked cached rest ih => exact ih sendable
  | measured measurement rest ih => exact ih sendable
  | @exchange store later events request rest ih =>
      obtain ⟨isSendable, restSendable⟩ := List.forall_mem_cons.mp sendable
      have served := ih restSendable
      obtain ⟨message, isMessage⟩ := Option.ne_none_iff_exists'.mp isSendable
      have exchanged : surroundings.exchange request store =
          surroundings.deliver request store := by
        rw [Surroundings.exchange, isMessage]
      rw [exchanged] at served
      rw [exchanges_cons, exchanged]
      cases request with
      | token request => exact .token grant_eq served
      | api request => exact .api (answers request.call store) served

theorem noOverflow (client : ProbeClient)
    (usual : ∀ event ∈ events, IsUsual event) : ¬ client.Overflows events := by
  intro overflows
  cases overflows with
  | @granted provider _ fetchedAt delivery _ _ authenticated granted overflow =>
      have atStart : IsUsual (.clockRead fetchedAt) := usual _ (by simp)
      have grants : IsUsual
          (.exchanged (.token provider.client.tokenRequest) delivery) :=
        usual _ (by simp)
      obtain rfl := grants.response_eq granted
      obtain rfl : fetchedAt = ⟨0⟩ := atStart
      have short : 60 - provider.leeway ≤ Instant.largestSeconds :=
        Nat.le_trans (Nat.sub_le _ _) (by decide)
      have atStart : (0 : Nat) / nanosecondsPerSecond = 0 := Nat.zero_div _
      dsimp only at overflow
      omega

end Events

/-- Nothing but the one token is cached. -/
def Holds (cache : Option AccessToken) : Prop :=
  ∀ token, cache = some token → token.value = "token"

def bearer (client : ProbeClient) : Option Bearer :=
  client.provider.map fun provider => ⟨"token", provider.client.clientId⟩

def apiHeaders (client : ProbeClient) : List Header :=
  client.collection.url.credentialsHeader?.toList ++
    [⟨"content-type", "application/json"⟩,
      ⟨"x-tenant", client.collection.tenant⟩] ++
    ApiRequest.bearerHeaders (bearer client)

structure CanSend (client : ProbeClient) : Prop where
  token : ∀ provider, client.provider = some provider →
    provider.client.tokenRequest.message? ≠ none
  api : ∀ header ∈ apiHeaders client, header.IsSendable

theorem CanSend.message?_ne_none {client : ProbeClient}
    (canSend : CanSend client) (call : Call) :
    (client.apiRequest call (bearer client)).message? ≠ none := by
  have credentials : (client.callUrl call).credentialsHeader? =
      client.collection.url.credentialsHeader? := by
    cases call with
    | lookup clusterId => rfl
    | create request => rfl
    | terminate clusterId => rfl
  have headers : (client.callUrl call).credentialsHeader?.toList ++
      (client.apiRequest call (bearer client)).headers = apiHeaders client := by
    rw [credentials, apiHeaders, List.append_assoc]
    rfl
  have sendable := canSend.api
  rw [← headers] at sendable
  have built : (client.apiRequest call (bearer client)).message? =
      some ⟨call.method, (client.callUrl call).target, _, call.body⟩ :=
    if_pos sendable
  rw [built]
  exact Option.some_ne_none _

section Clients

variable {client : ProbeClient} {cache later : Option AccessToken}
  {events : List Event}

theorem holds_of_provides {provider : TokenProvider}
    {conclusion : Conclusion (Except TokenError AccessToken)}
    (provides : provider.Provides cache events conclusion later)
    (usual : ∀ event ∈ events, IsUsual event) (holds : Holds cache) :
    Holds later ∧
      ∀ token, conclusion = .finished (.ok token) → token.value = "token" := by
  cases provides with
  | reused valid =>
      refine ⟨holds, ?_⟩
      rintro _ ⟨⟩
      exact holds _ rfl
  | refused misses refusal => exact ⟨holds, by simp⟩
  | overflowed misses granted overflow => exact ⟨holds, by simp⟩
  | @refreshed _ _ _ delivery _ token misses granted issued =>
      have grants : IsUsual
          (.exchanged (.token provider.client.tokenRequest) delivery) :=
        usual _ (by simp)
      have isToken : token.value = "token" := by
        rw [TokenProvider.eq_of_accessToken? issued, grants.response_eq granted]
      constructor
      · rintro _ ⟨⟩
        exact isToken
      · rintro _ ⟨⟩
        exact isToken

/-- The requests of a call can be sent. -/
theorem sendable_of_makes (canSend : CanSend client) {call : Call}
    {conclusion : Conclusion (Except ProbeError Reply)}
    (makes : client.Makes call cache events conclusion later)
    (usual : ∀ event ∈ events, IsUsual event) (holds : Holds cache) :
    Holds later ∧ ∀ exchange ∈ exchanges events, exchange.1.message? ≠ none := by
  have asks : ∀ {provider : TokenProvider} {events conclusion later},
      client.provider = some provider →
      provider.Provides cache events conclusion later →
      ∀ exchange ∈ exchanges events, exchange.1.message? ≠ none := by
    intro provider events conclusion later authenticated provides exchange member
    rcases exchanges_provides provides with none | ⟨delivery, one⟩
    · rw [none] at member
      cases member
    · rw [one, List.mem_singleton] at member
      rw [member]
      exact canSend.token provider authenticated
  have sends := canSend.message?_ne_none call
  cases makes with
  | plain unauthenticated =>
      refine ⟨holds, ?_⟩
      intro exchange member
      rw [bearer, unauthenticated] at sends
      rw [List.mem_singleton.mp member]
      exact sends
  | broken authenticated provides =>
      exact ⟨(holds_of_provides provides usual holds).1,
        asks authenticated provides⟩
  | unprovided authenticated provides =>
      exact ⟨(holds_of_provides provides usual holds).1,
        asks authenticated provides⟩
  | @sent events token middle provider delivery authenticated provides =>
      obtain ⟨usualAsking, -⟩ := List.forall_mem_append.mp usual
      obtain ⟨holdsMiddle, isToken⟩ :=
        holds_of_provides provides usualAsking holds
      constructor
      · unfold Delivery.cacheAfter
        split
        · simp [Holds]
        · exact holdsMiddle
      · intro exchange member
        rw [exchanges_append, exchanges_cons, exchanges_dropping,
          List.append_nil, List.mem_append, List.mem_singleton] at member
        rcases member with asking | rfl
        · exact asks authenticated provides exchange asking
        · rw [bearer, authenticated] at sends
          rw [isToken token rfl]
          exact sends

theorem sendable_of_conducts (canSend : CanSend client) {α : Type}
    {procedure : Procedure α} {attempts : List Attempt}
    {conclusion : Conclusion α}
    (conducts :
      procedure.Conducts client cache attempts events conclusion later)
    (usual : ∀ event ∈ events, IsUsual event) (holds : Holds cache) :
    Holds later ∧ ∀ exchange ∈ exchanges events, exchange.1.message? ≠ none := by
  induction conducts with
  | finish => exact ⟨holds, by simp⟩
  | measure rest ih => exact ih (List.forall_mem_cons.mp usual).2 holds
  | attempt makes rest ih =>
      obtain ⟨usualMade, usualRest⟩ := List.forall_mem_append.mp usual
      obtain ⟨holdsMiddle, sendableMade⟩ :=
        sendable_of_makes canSend makes usualMade holds
      obtain ⟨holdsLater, sendableRest⟩ := ih usualRest holdsMiddle
      refine ⟨holdsLater, ?_⟩
      rw [exchanges_append]
      exact List.forall_mem_append.mpr ⟨sendableMade, sendableRest⟩
  | broken makes => exact sendable_of_makes canSend makes usual holds

/-- Whatever a client does in these surroundings is free of faults. -/
theorem isFaultFree (canSend : CanSend client) {α : Type} {plan : Plan α}
    (carriesOut : client.CarriesOut plan) (holds : Holds cache)
    (store : List Probe) :
    let run := plan.run surroundings cache store
    run.IsFaultFree client store run.world ∧ Holds run.cache := by
  intro run
  have passes := surroundings.pass_run plan cache store
  have usual := isUsual_of_mem passes
  obtain ⟨procedure, isPlan⟩ := carriesOut
  obtain ⟨attempts, conducts⟩ :=
    procedure.conducts_run surroundings client cache store
  rw [isPlan] at conducts
  obtain ⟨holdsLater, sendable⟩ :=
    sendable_of_conducts canSend conducts usual holds
  exact ⟨⟨served passes sendable, noOverflow client usual⟩, holdsLater⟩

end Clients

end ProbeLifecycle.ReferenceService
