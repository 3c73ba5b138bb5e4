import ProbeLifecycle.Probe.Client
import ProbeLifecycle.Proofs.TokenUse

/-!
# What making a call leaves

A client without a provider just sends the request.  A client with one asks for
a token first, sends the request with it, and empties the cache if the service
refuses the token.  The events and the cache that a call leaves are listed here
once, and every run is shown to be one of them.
-/

namespace ProbeLifecycle

namespace Delivery

/-- What a requester learns of a request: a complete reply, or the fault. -/
def answer (delivery : Delivery) : Except ProbeError Reply :=
  delivery.receive.mapError .transport

def dropping (delivery : Delivery) : List Event :=
  if delivery.status? = some unauthorizedStatus then [.locked, .unlocked none]
  else []

def cacheAfter (delivery : Delivery) (cache : Option AccessToken) :
    Option AccessToken :=
  if delivery.status? = some unauthorizedStatus then none else cache

end Delivery

namespace ProbeClient

variable (client : ProbeClient)

/-- What making a call leaves: the events, how it ends, and the cache. -/
inductive Makes (call : Call) : Option AccessToken → List Event →
    Conclusion (Except ProbeError Reply) → Option AccessToken → Prop where
  | plain {cache} {delivery : Delivery}
      (unauthenticated : client.provider = none) :
      Makes call cache
        [.exchanged (.api (client.apiRequest call none)) delivery]
        (.finished delivery.answer) cache
  | broken {cache events cause later provider}
      (authenticated : client.provider = some provider)
      (provides : provider.Provides cache events (.halted cause) later) :
      Makes call cache events (.halted cause) later
  | unprovided {cache events error later provider}
      (authenticated : client.provider = some provider)
      (provides :
        provider.Provides cache events (.finished (.error error)) later) :
      Makes call cache events (.finished (.error (.auth error))) later
  | sent {cache events token middle provider} {delivery : Delivery}
      (authenticated : client.provider = some provider)
      (provides :
        provider.Provides cache events (.finished (.ok token)) middle) :
      Makes call cache
        (events ++
          (.exchanged
              (.api (client.apiRequest call
                (some ⟨token.value, provider.client.clientId⟩))) delivery ::
            delivery.dropping))
        (.finished delivery.answer) (delivery.cacheAfter middle)

theorem bearer_steps :
    client.bearer.run =
      match client.provider with
      | none => .done (.ok none)
      | some provider =>
          provider.token.bind fun
            | .ok token =>
                .done (.ok (some ⟨token.value, provider.client.clientId⟩))
            | .error error => .done (.error (.auth error)) := by
  unfold bearer
  cases client.provider with
  | none => rfl
  | some provider =>
      change ExceptT.run (liftM provider.token >>= _) = _
      rw [run_lift_bind]
      congr 1

/-- The steps of making a call. -/
theorem execute_steps (call : Call) :
    (client.execute call).run =
      client.bearer.run.bind fun
        | .error error => .done (.error error)
        | .ok bearer =>
            .exchange (.api (client.apiRequest call bearer)) fun delivery =>
              (client.dropRefusedToken delivery).bind fun _ =>
                .done delivery.answer := by
  unfold execute
  rw [run_except_bind]
  congr 1
  funext result
  cases result with
  | error error => rfl
  | ok bearer =>
      change ExceptT.run (liftM (Plan.send _) >>= _) = _
      rw [run_lift_bind]
      change Plan.exchange _ _ = _
      congr 1
      funext delivery
      change ExceptT.run (liftM (client.dropRefusedToken delivery) >>= _) = _
      rw [run_lift_bind]
      congr 1
      funext dropped
      unfold Delivery.answer
      cases delivery.receive with
      | ok reply => rfl
      | error fault => rfl

variable {client} in
theorem execute_unauthenticated (unauthenticated : client.provider = none)
    (call : Call) :
    (client.execute call).run =
      .exchange (.api (client.apiRequest call none)) fun delivery =>
        .done delivery.answer := by
  rw [execute_steps, bearer_steps, unauthenticated]
  simp only [Plan.bind, dropRefusedToken, isAuthenticated, unauthenticated,
    Option.isSome_none, Bool.false_eq_true, and_false, if_false]
  rfl

section Runs

variable {ω : Type} (surroundings : Surroundings ω)

theorem run_dropRefusedToken (authenticated : client.isAuthenticated = true)
    (delivery : Delivery) (cache : Option AccessToken) (world : ω) :
    (client.dropRefusedToken delivery).run surroundings cache world =
      ⟨.finished (), delivery.cacheAfter cache, world, delivery.dropping⟩ := by
  unfold dropRefusedToken Delivery.cacheAfter Delivery.dropping
  by_cases refused : delivery.status? = some unauthorizedStatus
  · simp only [refused, authenticated, and_self, if_true]
    rfl
  · simp only [refused, false_and, if_false]
    rfl

/-- Making a call leaves one of the listed results. -/
theorem makes_execute (call : Call) (cache : Option AccessToken) (world : ω) :
    let run := (client.execute call).run.run surroundings cache world
    client.Makes call cache run.events run.conclusion run.cache := by
  cases authenticated : client.provider with
  | none =>
      rw [execute_unauthenticated authenticated]
      exact .plain authenticated
  | some provider =>
      rw [execute_steps, bearer_steps, authenticated]
      simp only [Plan.bind_assoc, Plan.run_bind]
      have provides := provider.provides_token surroundings cache world
      generalize provider.token.run surroundings cache world = obtaining
        at provides ⊢
      obtain ⟨conclusion, middle, world, events⟩ := obtaining
      unfold Run.andThen
      cases conclusion with
      | halted cause => exact .broken authenticated provides
      | finished result =>
          cases result with
          | error error =>
              simp only [Plan.bind, Plan.run, List.append_nil]
              exact .unprovided authenticated provides
          | ok token =>
              simp only [Plan.bind, Plan.run, Run.after]
              generalize surroundings.exchange _ world = exchanged
              have sent :
                  client.Makes call cache _ (.finished exchanged.1.answer)
                    (exchanged.1.cacheAfter middle) :=
                .sent authenticated provides
              have isAuthenticated : client.isAuthenticated = true := by
                simp [isAuthenticated, authenticated]
              simp only [Plan.run_bind,
                client.run_dropRefusedToken surroundings isAuthenticated,
                Run.andThen, Plan.run, List.append_nil]
              exact sent

end Runs

end ProbeClient

end ProbeLifecycle
