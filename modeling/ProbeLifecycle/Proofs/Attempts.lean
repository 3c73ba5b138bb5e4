import ProbeLifecycle.Proofs.Operations

/-!
# What comes of attempts

The complete reply to a call can say that a cluster has a probe or has none,
that its probe is terminated, or that a new probe is created.  Whatever else
comes of a call is a failure.  Each attempt takes one exchange with the service,
before which a token may be obtained; without a token it takes none.
-/

namespace ProbeLifecycle

open ProbeClient

namespace Attempt

/-- A complete listing has a probe of the cluster, and the first one is this. -/
inductive Finds (clusterId : String) (probe : Probe) : Attempt → Prop where
  | listed {reply : Reply} {probes : List Probe}
      (success : isSuccess reply.status = true)
      (read : Json.decode readListing reply.body = .ok probes)
      (first :
        probes.find? (fun probe => probe.cluster? == some clusterId) =
          some probe) :
      Finds clusterId probe ⟨.lookup clusterId, .ok reply⟩

inductive FindsNone (clusterId : String) : Attempt → Prop where
  | unknown {reply : Reply} (notFound : reply.status = notFoundStatus) :
      FindsNone clusterId ⟨.lookup clusterId, .ok reply⟩
  | unlisted {reply : Reply} {probes : List Probe}
      (success : isSuccess reply.status = true)
      (read : Json.decode readListing reply.body = .ok probes)
      (absent : ∀ probe ∈ probes, probe.cluster? ≠ some clusterId) :
      FindsNone clusterId ⟨.lookup clusterId, .ok reply⟩

/-- The service terminates the probe of the cluster or knows of none. -/
inductive Terminates (clusterId : String) : Attempt → Prop where
  | unknown {reply : Reply} (notFound : reply.status = notFoundStatus) :
      Terminates clusterId ⟨.terminate clusterId, .ok reply⟩
  | accepted {reply : Reply} (success : isSuccess reply.status = true) :
      Terminates clusterId ⟨.terminate clusterId, .ok reply⟩

inductive Creates (request : ProbeRequest) : Attempt → Prop where
  | accepted {reply : Reply} {probe : Probe}
      (success : isSuccess reply.status = true)
      (read : Json.decode Probe.reader reply.body = .ok probe) :
      Creates request ⟨.create request, .ok reply⟩

/-- A call has failed: it had no complete reply, the reply reports a failure, or
it cannot be read.  That nothing is found is a failure to create only. -/
inductive Fails : Attempt → ProbeError → Prop where
  | unanswered {call : Call} {error : ProbeError} :
      Fails ⟨call, .error error⟩ error
  | refused {call : Call} {reply : Reply}
      (unsuccessful : isSuccess reply.status = false)
      (unexpected :
        reply.status = notFoundStatus → ∃ request, call = .create request) :
      Fails ⟨call, .ok reply⟩ (.api reply.status reply.body)
  | unreadListing {clusterId : String} {reply : Reply} {problem : Json.Problem}
      (success : isSuccess reply.status = true)
      (unread : Json.decode readListing reply.body = .error problem) :
      Fails ⟨.lookup clusterId, .ok reply⟩ (.decode problem)
  | unreadProbe {request : ProbeRequest} {reply : Reply}
      {problem : Json.Problem} (success : isSuccess reply.status = true)
      (unread : Json.decode Probe.reader reply.body = .error problem) :
      Fails ⟨.create request, .ok reply⟩ (.decode problem)

end Attempt

section Replies

variable {clusterId : String} {request : ProbeRequest} {probe : Probe}
  {outcome : Except ProbeError Reply} {error : ProbeError}

def lookupResult (clusterId : String) (outcome : Except ProbeError Reply) :
    Except ProbeError (Option Probe) :=
  (outcome.bind (foundProbes clusterId)).map List.head?

theorem lookupResult_spec (clusterId : String)
    (outcome : Except ProbeError Reply) :
    match lookupResult clusterId outcome with
    | .error error => Attempt.Fails ⟨.lookup clusterId, outcome⟩ error
    | .ok none => Attempt.FindsNone clusterId ⟨.lookup clusterId, outcome⟩
    | .ok (some probe) =>
        Attempt.Finds clusterId probe ⟨.lookup clusterId, outcome⟩ := by
  cases outcome with
  | error error => exact .unanswered
  | ok reply =>
      simp only [lookupResult, Except.bind, foundProbes]
      by_cases notFound : reply.status = notFoundStatus
      · rw [if_pos notFound]
        exact .unknown notFound
      · rw [if_neg notFound]
        by_cases success : isSuccess reply.status = true
        · rw [if_pos success]
          cases read : Json.decode readListing reply.body with
          | error problem =>
              simp only [decodeReply, read]
              exact .unreadListing success read
          | ok probes =>
              simp only [decodeReply, read, mapError_ok, Except.map,
                matching, List.head?_filter]
              cases first : probes.find? fun probe =>
                  probe.cluster? == some clusterId with
              | none =>
                  refine .unlisted success read ?_
                  simpa using List.find?_eq_none.mp first
              | some probe => exact .listed success read first
        · rw [if_neg success]
          refine .refused (Bool.eq_false_iff.mpr success) ?_
          intro unknown
          exact absurd unknown notFound

/-- A status cannot report success and say that nothing is found. -/
theorem status_ne_notFound {reply : Reply}
    (success : isSuccess reply.status = true) :
    reply.status ≠ notFoundStatus := by
  intro notFound
  rw [notFound] at success
  exact absurd success (by decide)

/-- Only a creation can fail because nothing is found. -/
theorem status_ne_of_unexpected {call : Call} {reply : Reply}
    (notCreate : ∀ request, call ≠ .create request)
    (unexpected :
      reply.status = notFoundStatus → ∃ request, call = .create request) :
    reply.status ≠ notFoundStatus := by
  intro notFound
  obtain ⟨request, equal⟩ := unexpected notFound
  exact notCreate request equal

theorem lookupResult_eq_some :
    lookupResult clusterId outcome = .ok (some probe) ↔
      Attempt.Finds clusterId probe ⟨.lookup clusterId, outcome⟩ := by
  constructor
  · intro found
    have spec := lookupResult_spec clusterId outcome
    rwa [found] at spec
  · rintro ⟨success, read, first⟩
    simp [lookupResult, Except.bind, foundProbes, status_ne_notFound success,
      success, decodeReply, read, Except.map, matching, first]

theorem lookupResult_eq_none :
    lookupResult clusterId outcome = .ok none ↔
      Attempt.FindsNone clusterId ⟨.lookup clusterId, outcome⟩ := by
  constructor
  · intro found
    have spec := lookupResult_spec clusterId outcome
    rwa [found] at spec
  · rintro (⟨notFound⟩ | ⟨success, read, absent⟩)
    · simp [lookupResult, Except.bind, foundProbes, notFound, Except.map]
    · simpa [lookupResult, Except.bind, foundProbes,
        status_ne_notFound success, success, decodeReply, read,
        Except.map, matching] using absent

theorem lookupResult_eq_error :
    lookupResult clusterId outcome = .error error ↔
      Attempt.Fails ⟨.lookup clusterId, outcome⟩ error := by
  constructor
  · intro failed
    have spec := lookupResult_spec clusterId outcome
    rwa [failed] at spec
  · intro fails
    cases fails with
    | unanswered => rfl
    | @refused _ reply unsuccessful unexpected =>
        have notUnknown := status_ne_of_unexpected (by simp) unexpected
        simp [lookupResult, Except.bind, foundProbes, notUnknown, unsuccessful,
          Except.map, refusal]
    | unreadListing success unread =>
        simp [lookupResult, Except.bind, foundProbes,
          status_ne_notFound success, success, decodeReply, unread,
          Except.map]

theorem creation_eq_ok :
    (∃ probe, outcome.bind createdProbe = .ok probe) ↔
      Attempt.Creates request ⟨.create request, outcome⟩ := by
  constructor
  · rintro ⟨probe, created⟩
    cases outcome with
    | error error => cases created
    | ok reply =>
        simp only [Except.bind, createdProbe] at created
        split at created
        · rename_i success
          cases read : Json.decode Probe.reader reply.body with
          | error problem => simp [decodeReply, read] at created
          | ok probe => exact .accepted success read
        · cases created
  · rintro ⟨success, read⟩
    simp [Except.bind, createdProbe, success, decodeReply, read]

theorem creation_eq_error :
    outcome.bind createdProbe = .error error ↔
      Attempt.Fails ⟨.create request, outcome⟩ error := by
  constructor
  · intro failed
    cases outcome with
    | error other =>
        cases failed
        exact .unanswered
    | ok reply =>
        simp only [Except.bind, createdProbe] at failed
        split at failed
        · rename_i success
          cases read : Json.decode Probe.reader reply.body with
          | error problem =>
              simp only [decodeReply, read, mapError_error] at failed
              cases failed
              exact .unreadProbe success read
          | ok probe => simp [decodeReply, read] at failed
        · rename_i unsuccessful
          cases failed
          exact .refused (Bool.eq_false_iff.mpr unsuccessful)
            fun _ => ⟨request, rfl⟩
  · intro fails
    cases fails with
    | unanswered => rfl
    | refused unsuccessful unexpected =>
        simp [Except.bind, createdProbe, unsuccessful, refusal]
    | unreadProbe success unread =>
        simp [Except.bind, createdProbe, success, decodeReply, unread]

theorem termination_eq_ok :
    outcome.bind terminated = .ok () ↔
      Attempt.Terminates clusterId ⟨.terminate clusterId, outcome⟩ := by
  constructor
  · intro finished
    cases outcome with
    | error error => cases finished
    | ok reply =>
        simp only [Except.bind, terminated] at finished
        split at finished
        · rename_i acceptable
          rcases acceptable with notFound | success
          · exact .unknown notFound
          · exact .accepted success
        · cases finished
  · rintro (⟨notFound⟩ | ⟨success⟩)
    · simp [Except.bind, terminated, notFound]
    · simp [Except.bind, terminated, success]

theorem termination_eq_error :
    outcome.bind terminated = .error error ↔
      Attempt.Fails ⟨.terminate clusterId, outcome⟩ error := by
  constructor
  · intro failed
    cases outcome with
    | error other =>
        cases failed
        exact .unanswered
    | ok reply =>
        simp only [Except.bind, terminated] at failed
        split at failed
        · cases failed
        · rename_i unacceptable
          obtain ⟨known, unsuccessful⟩ := not_or.mp unacceptable
          cases failed
          exact .refused (Bool.eq_false_iff.mpr unsuccessful)
            fun unknown => absurd unknown known
  · intro fails
    cases fails with
    | unanswered => rfl
    | @refused _ reply unsuccessful unexpected =>
        have notUnknown := status_ne_of_unexpected (by simp) unexpected
        simp [Except.bind, terminated, notUnknown, unsuccessful, refusal]

end Replies

namespace Attempt

variable {clusterId : String} {request : ProbeRequest} {probe : Probe}
  {attempt : Attempt}

theorem Finds.outcome (finds : Finds clusterId probe attempt) :
    ∃ outcome, attempt = ⟨.lookup clusterId, outcome⟩ ∧
      lookupResult clusterId outcome = .ok (some probe) := by
  obtain ⟨call, outcome⟩ := attempt
  obtain rfl : call = .lookup clusterId := by cases finds; rfl
  exact ⟨outcome, rfl, lookupResult_eq_some.mpr finds⟩

theorem FindsNone.outcome (findsNone : FindsNone clusterId attempt) :
    ∃ outcome, attempt = ⟨.lookup clusterId, outcome⟩ ∧
      lookupResult clusterId outcome = .ok none := by
  obtain ⟨call, outcome⟩ := attempt
  obtain rfl : call = .lookup clusterId := by cases findsNone <;> rfl
  exact ⟨outcome, rfl, lookupResult_eq_none.mpr findsNone⟩

theorem Terminates.outcome (terminates : Terminates clusterId attempt) :
    ∃ outcome, attempt = ⟨.terminate clusterId, outcome⟩ ∧
      outcome.bind terminated = .ok () := by
  obtain ⟨call, outcome⟩ := attempt
  obtain rfl : call = .terminate clusterId := by cases terminates <;> rfl
  exact ⟨outcome, rfl, termination_eq_ok.mpr terminates⟩

theorem Creates.outcome (creates : Creates request attempt) :
    ∃ outcome probe, attempt = ⟨.create request, outcome⟩ ∧
      outcome.bind createdProbe = .ok probe := by
  obtain ⟨call, outcome⟩ := attempt
  obtain rfl : call = .create request := by cases creates; rfl
  obtain ⟨probe, created⟩ := creation_eq_ok.mpr creates
  exact ⟨outcome, probe, rfl, created⟩

end Attempt

namespace ProbeClient

variable (client : ProbeClient)

/-- The exchanges that an attempt takes: with the service only, with the issuer
only because it grants no token, or with both. -/
inductive Takes : Attempt → List (Request × Delivery) → Prop where
  | plain {call : Call} {delivery : Delivery}
      (unauthenticated : client.provider = none) :
      Takes ⟨call, delivery.answer⟩
        [(.api (client.apiRequest call none), delivery)]
  | unprovided {call : Call} {provider : TokenProvider} {delivery : Delivery}
      {error : TokenError} (authenticated : client.provider = some provider)
      (refusal : delivery.grant = .error error) :
      Takes ⟨call, .error (.auth error)⟩
        [(.token provider.client.tokenRequest, delivery)]
  | reused {call : Call} {provider : TokenProvider} {token : String}
      {delivery : Delivery} (authenticated : client.provider = some provider) :
      Takes ⟨call, delivery.answer⟩
        [(.api (client.apiRequest call
            (some ⟨token, provider.client.clientId⟩)), delivery)]
  | refreshed {call : Call} {provider : TokenProvider}
      {response : TokenResponse} {granting delivery : Delivery}
      (authenticated : client.provider = some provider)
      (granted : granting.grant = .ok response) :
      Takes ⟨call, delivery.answer⟩
        [(.token provider.client.tokenRequest, granting),
          (.api (client.apiRequest call
            (some ⟨response.accessToken, provider.client.clientId⟩)), delivery)]

inductive TakesAll : List Attempt → List (Request × Delivery) → Prop where
  | none : TakesAll [] []
  | next {attempt : Attempt} {attempts : List Attempt}
      {taken rest : List (Request × Delivery)}
      (takes : client.Takes attempt taken) (takesAll : TakesAll attempts rest) :
      TakesAll (attempt :: attempts) (taken ++ rest)

/-- The last thing that happened is that a token was granted whose expiry the
clock cannot represent: the seconds that it showed and those for which the token
would be used are too many. -/
inductive Overflows : List Event → Prop where
  | granted {provider : TokenProvider} {opening : List Event}
      {fetchedAt : Instant} {delivery : Delivery} {response : TokenResponse}
      {cached : Option AccessToken}
      (authenticated : client.provider = some provider)
      (granted : delivery.grant = .ok response)
      (overflow : Instant.largestSeconds <
        fetchedAt.nanoseconds / nanosecondsPerSecond +
          (response.expiresIn - provider.leeway)) :
      Overflows
        (opening ++
          [.clockRead fetchedAt,
            .exchanged (.token provider.client.tokenRequest) delivery,
            .unlocked cached])

variable {client : ProbeClient}

theorem Overflows.append {events : List Event}
    (overflows : client.Overflows events) (before : List Event) :
    client.Overflows (before ++ events) := by
  obtain ⟨authenticated, granted, overflow⟩ := overflows
  rw [← List.append_assoc]
  exact .granted authenticated granted overflow

theorem Overflows.exists_getLast?_eq {events : List Event}
    (overflows : client.Overflows events) :
    ∃ cached, events.getLast? = some (.unlocked cached) := by
  obtain ⟨authenticated, granted, overflow⟩ := overflows
  rw [List.getLast?_append]
  exact ⟨_, rfl⟩

@[simp]
theorem exchanges_dropping (delivery : Delivery) :
    exchanges delivery.dropping = [] := by
  unfold Delivery.dropping
  split <;> rfl

theorem exchanges_misses {cache : Option AccessToken} {opening : List Event}
    (misses : TokenProvider.Misses cache opening) : exchanges opening = [] := by
  cases misses <;> rfl

theorem exchanges_provides {provider : TokenProvider}
    {cache later : Option AccessToken} {events : List Event}
    {conclusion : Conclusion (Except TokenError AccessToken)}
    (provides : provider.Provides cache events conclusion later) :
    exchanges events = [] ∨
      ∃ delivery, exchanges events =
        [(.token provider.client.tokenRequest, delivery)] := by
  cases provides with
  | reused valid => exact .inl rfl
  | @refused _ _ _ delivery _ misses refusal =>
      exact .inr ⟨delivery, by simp [exchanges_misses misses]⟩
  | @overflowed _ _ _ delivery _ misses granted overflow =>
      exact .inr ⟨delivery, by simp [exchanges_misses misses]⟩
  | @refreshed _ _ _ delivery _ _ misses granted issued =>
      exact .inr ⟨delivery, by simp [exchanges_misses misses]⟩

/-- Whoever asks for a token requests nothing from the service. -/
theorem api_notMem_exchanges {provider : TokenProvider}
    {cache later : Option AccessToken} {events : List Event}
    {conclusion : Conclusion (Except TokenError AccessToken)}
    (provides : provider.Provides cache events conclusion later)
    (request : ApiRequest) (delivery : Delivery) :
    (.api request, delivery) ∉ exchanges events := by
  rcases exchanges_provides provides with none | ⟨granting, one⟩
  · simp [none]
  · simp [one]

section Making

variable {call : Call} {cache later : Option AccessToken} {events : List Event}
  {outcome : Except ProbeError Reply} {cause : Fatal}

theorem Makes.takes
    (makes : client.Makes call cache events (.finished outcome) later) :
    client.Takes ⟨call, outcome⟩ (exchanges events) := by
  cases makes with
  | plain unauthenticated => exact .plain unauthenticated
  | unprovided authenticated provides =>
      cases provides with
      | refused misses refusal =>
          simpa [exchanges_misses misses] using
            Takes.unprovided authenticated refusal
  | sent authenticated provides =>
      cases provides with
      | reused valid => simpa using Takes.reused authenticated
      | refreshed misses granted issued =>
          obtain ⟨expiresAt, -, rfl⟩ := Option.map_eq_some_iff.mp issued
          simpa [exchanges_misses misses] using
            Takes.refreshed authenticated granted

/-- A call that is not made to its end breaks off by an overflow. -/
theorem Makes.overflows
    (makes : client.Makes call cache events (.halted cause) later) :
    cause = .clockOverflow ∧ client.Overflows events := by
  cases makes with
  | broken authenticated provides =>
      cases provides with
      | overflowed misses granted overflow =>
          exact ⟨rfl, .granted authenticated granted
            ((TokenProvider.accessToken?_eq_none_iff _).mp overflow)⟩

end Making

end ProbeClient

namespace Procedure

variable {α : Type} {client : ProbeClient} {procedure : Procedure α}
  {cache later : Option AccessToken} {attempts : List Attempt}
  {events : List Event}

/-- A run that finishes takes the exchanges of its attempts and no others. -/
theorem Conducts.takesAll {value : α}
    (conducts :
      procedure.Conducts client cache attempts events (.finished value) later) :
    client.TakesAll attempts (exchanges events) := by
  generalize conclude : Conclusion.finished value = conclusion at conducts
  induction conducts with
  | finish => exact .none
  | measure rest ih => simpa using ih conclude
  | attempt makes rest ih =>
      rw [exchanges_append]
      exact .next makes.takes (ih conclude)
  | broken makes => cases conclude

/-- A run that does not finish breaks off by an overflow. -/
theorem Conducts.overflows {cause : Fatal}
    (conducts :
      procedure.Conducts client cache attempts events (.halted cause) later) :
    cause = .clockOverflow ∧ client.Overflows events := by
  generalize conclude : Conclusion.halted cause = conclusion at conducts
  induction conducts with
  | finish => cases conclude
  | measure rest ih =>
      obtain ⟨equal, overflows⟩ := ih conclude
      exact ⟨equal, overflows.append [_]⟩
  | attempt makes rest ih =>
      obtain ⟨equal, overflows⟩ := ih conclude
      exact ⟨equal, overflows.append _⟩
  | broken makes =>
      cases conclude
      exact makes.overflows

/-- A run either breaks off by an overflow, or it ends after its attempts and
has taken their exchanges. -/
theorem run_cases {ω : Type} (client : ProbeClient)
    (surroundings : Surroundings ω) (procedure : Procedure α)
    (cache : Option AccessToken) (world : ω) :
    let run := (procedure.plan client).run surroundings cache world
    (run.conclusion = .halted .clockOverflow ∧ client.Overflows run.events) ∨
      ∃ attempts result, run.conclusion = .finished result ∧
        procedure.Ends attempts result ∧
        client.TakesAll attempts (exchanges run.events) := by
  obtain ⟨attempts, conducts⟩ :=
    conducts_run surroundings client procedure cache world
  cases concluded :
      ((procedure.plan client).run surroundings cache world).conclusion with
  | halted cause =>
      rw [concluded] at conducts
      obtain ⟨rfl, overflows⟩ := conducts.overflows
      exact .inl ⟨concluded, overflows⟩
  | finished result =>
      rw [concluded] at conducts
      exact .inr
        ⟨attempts, result, concluded, conducts.ends rfl, conducts.takesAll⟩

end Procedure

end ProbeLifecycle
