import Mathlib.Logic.Function.Iterate
import ProbeLifecycle.Plan.Surroundings
import ProbeLifecycle.Proofs.Paths
import ProbeLifecycle.Proofs.ServiceReplies

/-!
# What failures tell

The failure of an operation tells what happened last: the service refused a request,
a request had no readable reply, or a complete reply had nothing in it that could be
used.  A deletion wraps the failure of its lookup once, and a failure tells the same
however often it is wrapped.
-/

namespace ProbeLifecycle

open ProbeClient

namespace ProbeError

def cause : ProbeError → ProbeError
  | lookup error => error.cause
  | error => error

section Wrapping

variable (error : ProbeError)

theorem cause_ne_lookup (inner : ProbeError) : error.cause ≠ .lookup inner := by
  induction error with
  | lookup error ih => exact ih
  | _ => simp [cause]

@[simp]
theorem status?_cause : error.cause.status? = error.status? := by
  induction error with
  | lookup error ih => exact ih
  | _ => rfl

@[simp]
theorem isApiError_cause : error.cause.isApiError = error.isApiError := by
  simp [isApiError]

@[simp]
theorem isTransport_cause : error.cause.isTransport = error.isTransport := by
  induction error with
  | lookup error ih => exact ih
  | _ => rfl

/-- Every failure is its cause, wrapped some number of times. -/
theorem exists_iterate_cause : ∃ depth, error = lookup^[depth] error.cause := by
  induction error with
  | lookup error ih =>
      obtain ⟨depth, equal⟩ := ih
      refine ⟨depth + 1, ?_⟩
      rw [Function.iterate_succ_apply', cause, ← equal]
  | _ => exact ⟨0, rfl⟩

theorem not_isApiError_of_isTransport (transport : error.isTransport = true) :
    error.isApiError = false := by
  induction error with
  | lookup error ih => exact ih transport
  | api status body => cases transport
  | _ => rfl

end Wrapping

end ProbeError

/-- A complete reply to a token request from which no token can be taken. -/
inductive TokenError.Rejects (reply : Reply) : TokenError → Prop where
  | refused (unsuccessful : isSuccess reply.status = false) :
      Rejects reply (.refused reply.status reply.body)
  | unread {problem : Json.Problem} (success : isSuccess reply.status = true)
      (unread : Json.decode TokenResponse.reader reply.body = .error problem) :
      Rejects reply (.parse problem)
  | empty {response : TokenResponse} (success : isSuccess reply.status = true)
      (read : Json.decode TokenResponse.reader reply.body = .ok response)
      (noToken : response.accessToken = "") : Rejects reply .emptyToken

/-- The last request had a complete reply with nothing in it that could be used. -/
inductive ProbeError.Unusable : ProbeError → List (Request × Delivery) → Prop where
  | listing {earlier : List (Request × Delivery)} {request : ApiRequest}
      {delivery : Delivery} {clusterId : String} {reply : Reply}
      {problem : Json.Problem} (called : request.call = .lookup clusterId)
      (received : delivery.receive = .ok reply)
      (success : isSuccess reply.status = true)
      (unread : Json.decode readListing reply.body = .error problem) :
      Unusable (.decode problem) (earlier ++ [(.api request, delivery)])
  | probe {earlier : List (Request × Delivery)} {request : ApiRequest}
      {delivery : Delivery} {desired : ProbeRequest} {reply : Reply}
      {problem : Json.Problem} (called : request.call = .create desired)
      (received : delivery.receive = .ok reply)
      (success : isSuccess reply.status = true)
      (unread : Json.decode Probe.reader reply.body = .error problem) :
      Unusable (.decode problem) (earlier ++ [(.api request, delivery)])
  | token {earlier : List (Request × Delivery)} {request : TokenRequest}
      {delivery : Delivery} {reply : Reply} {error : TokenError}
      (received : delivery.receive = .ok reply) (rejects : error.Rejects reply) :
      Unusable (.auth error) (earlier ++ [(.token request, delivery)])

/-- What a failure tells of the exchanges after which it is returned. -/
structure ProbeError.Tells (error : ProbeError)
    (exchanged : List (Request × Delivery)) : Prop where
  status_iff : ∀ status, error.status? = some status ↔
    ∃ bytes, (serviceReplies exchanged).getLast? = some (status, .complete bytes) ∧
      isSuccess status = false
  isApiError_iff : error.isApiError = true ↔ ∃ status, error.status? = some status
  isTransport_iff : error.isTransport = true ↔
    ∃ last fault, exchanged.getLast? = some last ∧ last.2.receive = .error fault
  otherwise : error.isApiError = false → error.isTransport = false →
    error.cause.Unusable exchanged

/-- How a request of an attempt ended that was the last one. -/
inductive Attempt.EndsWith : Attempt → List (Request × Delivery) → Prop where
  | api {earlier : List (Request × Delivery)} {request : ApiRequest} {call : Call}
      {delivery : Delivery} (called : request.call = call)
      (silent : serviceReplies earlier = []) :
      EndsWith ⟨call, delivery.answer⟩ (earlier ++ [(.api request, delivery)])
  | token {call : Call} {request : TokenRequest} {delivery : Delivery}
      {error : TokenError} (refusal : delivery.grant = .error error) :
      EndsWith ⟨call, .error (.auth error)⟩ [(.token request, delivery)]

section Attempts

variable {client : ProbeClient} {attempt : Attempt}
  {exchanged : List (Request × Delivery)} {error : ProbeError}

theorem ProbeClient.Takes.endsWith (takes : client.Takes attempt exchanged) :
    attempt.EndsWith exchanged := by
  cases takes with
  | @plain call delivery unauthenticated =>
      exact @Attempt.EndsWith.api [] (client.apiRequest call none) call delivery rfl rfl
  | @reused call provider token delivery authenticated =>
      exact @Attempt.EndsWith.api []
        (client.apiRequest call (some ⟨token, provider.client.clientId⟩)) call
        delivery rfl rfl
  | @refreshed call provider response granting delivery authenticated granted =>
      exact @Attempt.EndsWith.api [(.token provider.client.tokenRequest, granting)]
        (client.apiRequest call
          (some ⟨response.accessToken, provider.client.clientId⟩)) call delivery rfl rfl
  | unprovided authenticated refusal => exact .token refusal

/-- A token request that brought no token ended by a fault, or with a reply from
which no token can be taken. -/
theorem Delivery.grant_eq_error {delivery : Delivery} {error : TokenError}
    (refusal : delivery.grant = .error error) :
    (∃ fault, delivery.receive = .error fault ∧ error = .transport fault) ∨
      ∃ reply, delivery.receive = .ok reply ∧ error.Rejects reply := by
  unfold grant at refusal
  cases received : delivery.receive with
  | error fault =>
      rw [received] at refusal
      cases refusal
      exact .inl ⟨fault, rfl, rfl⟩
  | ok reply =>
      rw [received] at refusal
      refine .inr ⟨reply, rfl, ?_⟩
      dsimp only at refusal
      split at refusal
      · rename_i success
        cases read : Json.decode TokenResponse.reader reply.body with
        | error problem =>
            rw [read] at refusal
            cases refusal
            exact .unread success read
        | ok response =>
            rw [read] at refusal
            dsimp only at refusal
            split at refusal
            · rename_i noToken
              cases refusal
              exact .empty success read noToken
            · cases refusal
      · rename_i unsuccessful
        cases refusal
        exact .refused (Bool.eq_false_iff.mpr unsuccessful)

theorem tells_auth {request : TokenRequest} {delivery : Delivery} {error : TokenError}
    (refusal : delivery.grant = .error error) :
    (ProbeError.auth error).Tells [(.token request, delivery)] := by
  have unanswered : serviceReplies [(.token request, delivery)] = [] := rfl
  rcases Delivery.grant_eq_error refusal with
    ⟨fault, received, rfl⟩ | ⟨reply, received, rejects⟩
  · exact {
      status_iff := by simp [unanswered, ProbeError.status?]
      isApiError_iff := by simp [ProbeError.isApiError, ProbeError.status?]
      isTransport_iff := by simp [ProbeError.isTransport, received]
      otherwise := by simp [ProbeError.isTransport] }
  · have notTransport : (ProbeError.auth error).isTransport = false := by
      cases rejects <;> rfl
    exact {
      status_iff := by simp [unanswered, ProbeError.status?]
      isApiError_iff := by simp [ProbeError.isApiError, ProbeError.status?]
      isTransport_iff := by simp [notTransport, received]
      otherwise := fun _ _ =>
        @ProbeError.Unusable.token [] request delivery reply error received rejects }

theorem getLast?_serviceReplies {earlier : List (Request × Delivery)}
    {request : ApiRequest} {delivery : Delivery}
    (silent : serviceReplies earlier = []) (status : Nat) (bytes : List UInt8) :
    (serviceReplies (earlier ++ [(.api request, delivery)])).getLast? =
        some (status, .complete bytes) ↔
      delivery = .reply status (.complete bytes) := by
  rw [serviceReplies_append, silent]
  cases delivery with
  | reply given body => simp [serviceReplies]
  | _ => simp [serviceReplies]

theorem answer_eq_error {delivery : Delivery} {fault : TransportFault}
    (received : delivery.receive = .error fault) :
    delivery.answer = .error (.transport fault) := by
  rw [Delivery.answer, received, mapError_error]

theorem tells_transport {earlier : List (Request × Delivery)} {request : ApiRequest}
    {delivery : Delivery} {fault : TransportFault}
    (silent : serviceReplies earlier = []) (received : delivery.receive = .error fault) :
    (ProbeError.transport fault).Tells (earlier ++ [(.api request, delivery)]) := by
  have unreplied : ∀ status bytes, delivery ≠ .reply status (.complete bytes) := by
    rintro status bytes rfl
    cases received
  exact {
    status_iff := by
      intro status
      simp only [getLast?_serviceReplies silent, unreplied]
      simp [ProbeError.status?]
    isApiError_iff := by simp [ProbeError.isApiError, ProbeError.status?]
    isTransport_iff := by simp [ProbeError.isTransport, received]
    otherwise := by simp [ProbeError.isTransport] }

section Answered

variable {earlier : List (Request × Delivery)} {request : ApiRequest}
  {delivery : Delivery} {reply : Reply}

theorem lastStatus_iff (silent : serviceReplies earlier = [])
    (received : delivery.receive = .ok reply) (status : Nat) :
    (∃ bytes, (serviceReplies (earlier ++ [(.api request, delivery)])).getLast? =
        some (status, .complete bytes) ∧ isSuccess status = false) ↔
      reply.status = status ∧ isSuccess reply.status = false := by
  obtain ⟨bytes, rfl, body⟩ := Delivery.receive_eq_ok.mp received
  simp only [getLast?_serviceReplies silent, Delivery.reply.injEq, Body.complete.injEq]
  constructor
  · rintro ⟨_, ⟨rfl, rfl⟩, unsuccessful⟩
    exact ⟨rfl, unsuccessful⟩
  · rintro ⟨rfl, unsuccessful⟩
    exact ⟨bytes, ⟨rfl, rfl⟩, unsuccessful⟩

theorem tells_api (silent : serviceReplies earlier = [])
    (received : delivery.receive = .ok reply)
    (unsuccessful : isSuccess reply.status = false) :
    (ProbeError.api reply.status reply.body).Tells
      (earlier ++ [(.api request, delivery)]) where
  status_iff status := by
    rw [lastStatus_iff silent received]
    simp [ProbeError.status?, unsuccessful]
  isApiError_iff := by simp [ProbeError.isApiError, ProbeError.status?]
  isTransport_iff := by simp [ProbeError.isTransport, received]
  otherwise := by simp [ProbeError.isApiError, ProbeError.status?]

theorem tells_decode {problem : Json.Problem} (silent : serviceReplies earlier = [])
    (received : delivery.receive = .ok reply)
    (success : isSuccess reply.status = true)
    (unusable : (ProbeError.decode problem).Unusable
      (earlier ++ [(.api request, delivery)])) :
    (ProbeError.decode problem).Tells (earlier ++ [(.api request, delivery)]) where
  status_iff status := by
    rw [lastStatus_iff silent received]
    simp [ProbeError.status?, success]
  isApiError_iff := by simp [ProbeError.isApiError, ProbeError.status?]
  isTransport_iff := by simp [ProbeError.isTransport, received]
  otherwise := fun _ _ => unusable

end Answered

/-- How a call failed: it got no token, its request had no readable reply, the service
refused it, or the reply had nothing in it that could be used. -/
inductive ProbeError.ArisesFrom (call : Call) :
    ProbeError → List (Request × Delivery) → Prop where
  | auth {request : TokenRequest} {delivery : Delivery} {error : TokenError}
      (refusal : delivery.grant = .error error) :
      ArisesFrom call (.auth error) [(.token request, delivery)]
  | transport {earlier : List (Request × Delivery)} {request : ApiRequest}
      {delivery : Delivery} {fault : TransportFault}
      (silent : serviceReplies earlier = [])
      (received : delivery.receive = .error fault) :
      ArisesFrom call (.transport fault) (earlier ++ [(.api request, delivery)])
  | api {earlier : List (Request × Delivery)} {request : ApiRequest}
      {delivery : Delivery} {reply : Reply} (silent : serviceReplies earlier = [])
      (received : delivery.receive = .ok reply)
      (unsuccessful : isSuccess reply.status = false)
      (unexpected : reply.status = notFoundStatus → ∃ request, call = .create request) :
      ArisesFrom call (.api reply.status reply.body)
        (earlier ++ [(.api request, delivery)])
  | decode {earlier : List (Request × Delivery)} {request : ApiRequest}
      {delivery : Delivery} {reply : Reply} {problem : Json.Problem}
      (silent : serviceReplies earlier = []) (received : delivery.receive = .ok reply)
      (success : isSuccess reply.status = true)
      (unusable : (ProbeError.decode problem).Unusable
        (earlier ++ [(.api request, delivery)])) :
      ArisesFrom call (.decode problem) (earlier ++ [(.api request, delivery)])

theorem Attempt.Fails.arises (fails : attempt.Fails error)
    (endsWith : attempt.EndsWith exchanged) : error.ArisesFrom attempt.call exchanged := by
  cases endsWith with
  | token refusal =>
      cases fails with
      | unanswered => exact .auth refusal
  | @api earlier request call delivery called silent =>
      cases received : delivery.receive with
      | error fault =>
          rw [answer_eq_error received] at fails
          cases fails with
          | unanswered => exact .transport silent received
      | ok reply =>
          rw [Delivery.answer_eq_ok.mpr received] at fails
          cases fails with
          | refused unsuccessful unexpected =>
              exact .api silent received unsuccessful unexpected
          | unreadListing success unread =>
              exact .decode silent received success
                (.listing called received success unread)
          | unreadProbe success unread =>
              exact .decode silent received success
                (.probe called received success unread)

namespace ProbeError.ArisesFrom

variable {call : Call}

/-- A failure tells of the request that was the last one. -/
theorem tells (arises : error.ArisesFrom call exchanged) : error.Tells exchanged := by
  cases arises with
  | auth refusal => exact tells_auth refusal
  | transport silent received => exact tells_transport silent received
  | api silent received unsuccessful unexpected =>
      exact tells_api silent received unsuccessful
  | decode silent received success unusable =>
      exact tells_decode silent received success unusable

/-- Only a failure to delete is a wrapped one. -/
theorem ne_lookup (arises : error.ArisesFrom call exchanged) (inner : ProbeError) :
    error ≠ .lookup inner := by
  rintro rfl
  cases arises

theorem status?_ne (arises : error.ArisesFrom call exchanged)
    (notCreate : ∀ request, call ≠ .create request) :
    error.status? ≠ some notFoundStatus := by
  cases arises with
  | api silent received unsuccessful unexpected =>
      simpa [ProbeError.status?] using status_ne_of_unexpected notCreate unexpected
  | _ => simp [ProbeError.status?]

end ProbeError.ArisesFrom

/-- An attempt that finds a probe ends with a reply that reports success. -/
theorem Attempt.Finds.isSuccess_last {clusterId : String} {probe : Probe}
    (finds : attempt.Finds clusterId probe) (endsWith : attempt.EndsWith exchanged)
    {status : Nat} {bytes : List UInt8}
    (last : (serviceReplies exchanged).getLast? = some (status, .complete bytes)) :
    isSuccess status = true := by
  cases endsWith with
  | token refusal => cases finds
  | @api earlier request call delivery called silent =>
      obtain rfl := (getLast?_serviceReplies silent status bytes).mp last
      cases finds with
      | listed success read first => exact success

end Attempts

namespace ProbeError

variable {error : ProbeError} {first second : List (Request × Delivery)}

theorem Unusable.append (unusable : error.Unusable second)
    (first : List (Request × Delivery)) : error.Unusable (first ++ second) := by
  cases unusable with
  | listing called received success unread =>
      rw [← List.append_assoc]
      exact .listing called received success unread
  | probe called received success unread =>
      rw [← List.append_assoc]
      exact .probe called received success unread
  | token received rejects =>
      rw [← List.append_assoc]
      exact .token received rejects

/-- What happened before the last attempt does not matter, if it was no failure. -/
theorem Tells.append (tells : error.Tells second) (nonempty : second ≠ [])
    (successful : ∀ status bytes,
      (serviceReplies first).getLast? = some (status, .complete bytes) →
        isSuccess status = true) :
    error.Tells (first ++ second) where
  status_iff status := by
    rw [tells.status_iff, serviceReplies_append, List.getLast?_append]
    cases last : (serviceReplies second).getLast? with
    | some reply => simp
    | none =>
        simp only [reduceCtorEq, false_and, exists_false, Option.none_or, false_iff,
          not_exists, not_and, Bool.not_eq_false]
        exact fun bytes => successful status bytes
  isApiError_iff := tells.isApiError_iff
  isTransport_iff := by
    have sameLast : (first ++ second).getLast? = second.getLast? := by
      rw [List.getLast?_append, List.getLast?_eq_some_getLast nonempty, Option.some_or]
    rw [tells.isTransport_iff, sameLast]
  otherwise isOther notTransport :=
    (tells.otherwise isOther notTransport).append first

theorem Tells.lookup (tells : error.Tells second) :
    (ProbeError.lookup error).Tells second where
  status_iff := tells.status_iff
  isApiError_iff := tells.isApiError_iff
  isTransport_iff := tells.isTransport_iff
  otherwise := tells.otherwise

end ProbeError

section Runs

variable {ω : Type} {surroundings : Surroundings ω} {client : ProbeClient}
  {cache : Option AccessToken} {world : ω}

/-- A procedure of one call that has finished has made the call, and what it has
learned is its result. -/
theorem Procedure.endsWith_of_finished {α : Type} {procedure : Procedure α}
    {call : Call} {learned : Except ProbeError Reply → α} {result : α}
    (ends_procedure : ∀ {attempts}, procedure.Ends attempts result →
      ∃ outcome, attempts = [⟨call, outcome⟩] ∧ learned outcome = result)
    (finished : ((procedure.plan client).run surroundings cache world).conclusion =
      .finished result) :
    ∃ outcome, learned outcome = result ∧
      Attempt.EndsWith ⟨call, outcome⟩
        (exchanges ((procedure.plan client).run surroundings cache world).events) := by
  rcases procedure.run_cases client surroundings cache world with
    ⟨halted, overflows⟩ | ⟨attempts, value, concluded, ends, takesAll⟩
  · rw [finished] at halted
    cases halted
  · rw [finished] at concluded
    cases concluded
    obtain ⟨outcome, rfl, equal⟩ := ends_procedure ends
    generalize exchanges _ = exchanged at takesAll ⊢
    cases takesAll with
    | next takes rest =>
        cases rest with
        | none =>
            rw [List.append_nil]
            exact ⟨outcome, equal, takes.endsWith⟩

theorem Attempt.EndsWith.ne_nil {attempt : Attempt}
    {exchanged : List (Request × Delivery)} (endsWith : attempt.EndsWith exchanged) :
    exchanged ≠ [] := by
  cases endsWith <;> simp

/-- The failure of an operation of one call. -/
structure FailsAlone {α : Type} (run : Run ω (Except ProbeError α))
    (error : ProbeError) : Prop where
  tells : error.Tells (exchanges run.events)
  not_wrapped : ∀ inner, error ≠ .lookup inner

theorem failsAlone_create {request : ProbeRequest} {error : ProbeError}
    (failed : (((Procedure.create request).plan client).run surroundings cache
      world).conclusion = .finished (.error error)) :
    FailsAlone (((Procedure.create request).plan client).run surroundings cache world)
      error := by
  obtain ⟨outcome, learned, endsWith⟩ :=
    Procedure.endsWith_of_finished Procedure.ends_create.mp failed
  have fails : Attempt.Fails ⟨.create request, outcome⟩ error :=
    creation_eq_error.mp learned
  have arises := fails.arises endsWith
  exact ⟨arises.tells, arises.ne_lookup⟩

variable {clusterId : String}

theorem failsAlone_lookup {error : ProbeError}
    (failed : (((Procedure.lookup clusterId).plan client).run surroundings cache
      world).conclusion = .finished (.error error)) :
    FailsAlone (((Procedure.lookup clusterId).plan client).run surroundings cache world)
        error ∧
      error.status? ≠ some notFoundStatus := by
  obtain ⟨outcome, learned, endsWith⟩ :=
    Procedure.endsWith_of_finished Procedure.ends_lookup.mp failed
  have arises := (lookupResult_eq_error.mp learned).arises endsWith
  exact ⟨⟨arises.tells, arises.ne_lookup⟩, arises.status?_ne (by simp)⟩

/-- How a deletion fails: because its lookup fails, or after it has found a probe. -/
structure FailsToDelete (looked : Run ω (Except ProbeError (Option Probe)))
    (deleted : Run ω (Except ProbeError Unit)) (error : ProbeError) : Prop where
  tells : error.Tells (exchanges deleted.events)
  known : error.status? ≠ some notFoundStatus
  wrapped_iff : ∀ inner, error = .lookup inner ↔
    looked.conclusion = .finished (.error inner)
  wrapped_once : ∀ inner deeper, error = .lookup inner → inner ≠ .lookup deeper

theorem Run.andThen_of_finished {α β : Type} {run : Run ω α} {value : α}
    (finished : run.conclusion = .finished value)
    (next : α → Option AccessToken → ω → Run ω β) :
    run.andThen next =
      { next value run.cache run.world with
        events := run.events ++ (next value run.cache run.world).events } := by
  unfold andThen
  rw [finished]

/-- A deletion runs its lookup first and then terminates what it has found. -/
theorem run_delete_of_found {found : Except ProbeError (Option Probe)}
    (looked : (((Procedure.lookup clusterId).plan client).run surroundings cache
      world).conclusion = .finished found) :
    let lookup := ((Procedure.lookup clusterId).plan client).run surroundings cache world
    let deletion := ((Procedure.terminateFound clusterId found).plan client).run
      surroundings lookup.cache lookup.world
    ((Procedure.delete clusterId).plan client).run surroundings cache world =
      { deletion with events := lookup.events ++ deletion.events } := by
  rw [Procedure.delete, Procedure.plan_bind, Plan.run_bind,
    Run.andThen_of_finished looked]

theorem failsToDelete {error : ProbeError}
    (failed : (((Procedure.delete clusterId).plan client).run surroundings cache
      world).conclusion = .finished (.error error)) :
    FailsToDelete
      (((Procedure.lookup clusterId).plan client).run surroundings cache world)
      (((Procedure.delete clusterId).plan client).run surroundings cache world)
      error := by
  cases looked : (((Procedure.lookup clusterId).plan client).run surroundings cache
      world).conclusion with
  | halted cause =>
      rw [Procedure.delete, Procedure.plan_bind, Plan.run_bind, Run.andThen, looked]
        at failed
      cases failed
  | finished found =>
      rw [run_delete_of_found looked] at failed ⊢
      cases found with
      | error inner =>
          obtain rfl : ProbeError.lookup inner = error := by
            simpa [Procedure.terminateFound, Procedure.settle, Procedure.plan, Plan.run,
              Run.after] using failed
          obtain ⟨fails, known⟩ := failsAlone_lookup looked
          exact {
            tells := by
              simpa [Procedure.terminateFound, Procedure.settle, Procedure.plan,
                Plan.run, Run.after] using fails.tells.lookup
            known := known
            wrapped_iff := by simp [looked]
            wrapped_once := by
              rintro _ deeper ⟨⟩
              exact fails.not_wrapped deeper }
      | ok probe? =>
          cases probe? with
          | none =>
              simp [Procedure.terminateFound, Procedure.settle, Procedure.plan, Plan.run,
                Run.after] at failed
          | some probe =>
              obtain ⟨outcome, found, endsWithLookup⟩ :=
                Procedure.endsWith_of_finished Procedure.ends_lookup.mp looked
              have finds := lookupResult_eq_some.mp found
              obtain ⟨termination, learned, endsWith⟩ :=
                Procedure.endsWith_of_finished Procedure.ends_terminate.mp failed
              have fails : Attempt.Fails ⟨.terminate clusterId, termination⟩ error :=
                termination_eq_error.mp learned
              have arises := fails.arises endsWith
              exact {
                tells := by
                  rw [exchanges_append]
                  exact arises.tells.append endsWith.ne_nil fun _ _ =>
                    finds.isSuccess_last endsWithLookup
                known := arises.status?_ne (by simp)
                wrapped_iff := by simp [looked, arises.ne_lookup]
                wrapped_once := fun inner _ wrapped =>
                  absurd wrapped (arises.ne_lookup inner) }

end Runs

/-- Every failure of an operation tells what the last exchanges were. -/
theorem failures_tell {ω : Type} (client : ProbeClient) (surroundings : Surroundings ω)
    (cache : Option AccessToken) (world : ω) :
    (∀ request error,
      let run := (client.createProbe request).run.run surroundings cache world
      run.conclusion = .finished (.error error) → FailsAlone run error) ∧
    (∀ clusterId error,
      let run := (client.getProbe clusterId).run.run surroundings cache world
      run.conclusion = .finished (.error error) →
        FailsAlone run error ∧ error.status? ≠ some notFoundStatus) ∧
    (∀ clusterId error,
      let lookup := (client.getProbe clusterId).run.run surroundings cache world
      let run := (client.deleteProbe clusterId).run.run surroundings cache world
      run.conclusion = .finished (.error error) → FailsToDelete lookup run error) ∧
    (∀ error : ProbeError, ¬ (error.isApiError = true ∧ error.isTransport = true)) ∧
    ∀ error : ProbeError, (∃ depth, error = ProbeError.lookup^[depth] error.cause) ∧
      (∀ inner, error.cause ≠ .lookup inner) ∧
      error.status? = error.cause.status? ∧
      error.isApiError = error.cause.isApiError ∧
      error.isTransport = error.cause.isTransport := by
  simp only [← Procedure.plan_create, ← Procedure.plan_lookup, ← Procedure.plan_delete]
  refine ⟨fun _ _ => failsAlone_create, fun _ _ => failsAlone_lookup,
    fun _ _ => failsToDelete, ?_, ?_⟩
  · rintro error ⟨isApiError, isTransport⟩
    rw [error.not_isApiError_of_isTransport isTransport] at isApiError
    cases isApiError
  · intro error
    exact ⟨error.exists_iterate_cause, error.cause_ne_lookup, by simp, by simp, by simp⟩

/-- Without an issuer a deletion fails in its lookup; with a service that breaks off,
a creation fails although a status has come. -/
theorem failures_tell_nested :
    let collection : Collection := ⟨{ scheme := .http, host := "probes" }, "hcp"⟩
    let authenticated : ProbeClient := ⟨collection,
      some ⟨{ clientId := "id", clientSecret := "key", issuerUrl := "http://issuer" }, 0⟩⟩
    let lookup := (authenticated.getProbe "c1").run.run (.unreachable ⟨0⟩) none ()
    let deletion := (authenticated.deleteProbe "c1").run.run (.unreachable ⟨0⟩) none ()
    let plain : ProbeClient := ⟨collection, none⟩
    let creation := (plain.createProbe ⟨"c1", "", none, true⟩).run.run (.scripted ⟨0⟩) none
      [⟨some 500, .truncated⟩]
    deletion.conclusion =
        .finished (.error (.lookup (.auth (.transport .unreached)))) ∧
      FailsToDelete lookup deletion (.lookup (.auth (.transport .unreached))) ∧
      creation.conclusion = .finished (.error (.transport .truncated)) ∧
      FailsAlone creation (.transport .truncated) := by
  intro collection authenticated lookup deletion plain creation
  have deletionFailed : deletion.conclusion =
      .finished (.error (.lookup (.auth (.transport .unreached)))) := by
    decide +kernel
  have creationFailed : creation.conclusion =
      .finished (.error (.transport .truncated)) := by
    decide +kernel
  exact ⟨deletionFailed,
    (failures_tell authenticated (.unreachable ⟨0⟩) none ()).2.2.1 _ _ deletionFailed,
    creationFailed,
    (failures_tell plain _ none _).1 _ _ creationFailed⟩

end ProbeLifecycle
