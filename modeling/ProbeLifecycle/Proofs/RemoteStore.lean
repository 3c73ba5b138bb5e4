import ProbeLifecycle.Proofs.Attempts

/-!
# The state behind the service

The state of a service is seen through a view of the surroundings.  Neither the
clock nor the issuer changes it, and what a request to the service does to it,
together with what comes of the request, is an effect.  A run then changes the
state by the effects of its attempts, one after the other.
-/

namespace ProbeLifecycle

variable {ω σ : Type}

/-- Only requests to the service change the state that is viewed, and each of
them has the effect. -/
structure Surroundings.HasEffect (surroundings : Surroundings ω) (view : ω → σ)
    (effect : Attempt → σ → σ → Prop) : Prop where
  clock : ∀ world, view (surroundings.clock world).2 = view world
  token : ∀ request world,
    view (surroundings.deliver (.token request) world).2 = view world
  api : ∀ request world,
    let exchanged := surroundings.deliver (.api request) world
    effect ⟨request.call, exchanged.1.answer⟩ (view world) (view exchanged.2)

section Changes

variable (effect : Attempt → σ → σ → Prop)

inductive ChangedBy : List (Request × Delivery) → σ → σ → Prop where
  | nil {state} : ChangedBy [] state state
  | token {request delivery exchanged state later}
      (rest : ChangedBy exchanged state later) :
      ChangedBy ((.token request, delivery) :: exchanged) state later
  | unsent {request exchanged state later}
      (rest : ChangedBy exchanged state later) :
      ChangedBy ((.api request, .unsent) :: exchanged) state later
  | api {request delivery exchanged state middle later}
      (changes : effect ⟨request.call, delivery.answer⟩ state middle)
      (rest : ChangedBy exchanged middle later) :
      ChangedBy ((.api request, delivery) :: exchanged) state later

/-- How attempts change a state; one that fails may have been made in vain. -/
inductive AltersBy : List Attempt → σ → σ → Prop where
  | nil {state} : AltersBy [] state state
  | vain {call error attempts state later}
      (rest : AltersBy attempts state later) :
      AltersBy (⟨call, .error error⟩ :: attempts) state later
  | made {attempt attempts state middle later}
      (changes : effect attempt state middle)
      (rest : AltersBy attempts middle later) :
      AltersBy (attempt :: attempts) state later

end Changes

section Runs

variable {surroundings : Surroundings ω} {view : ω → σ}
  {effect : Attempt → σ → σ → Prop}

theorem changedBy_of_pass (hasEffect : surroundings.HasEffect view effect)
    {world later : ω} {events : List Event}
    (passes : surroundings.Pass world events later) :
    ChangedBy effect (exchanges events) (view world) (view later) := by
  induction passes with
  | idle => exact .nil
  | clock rest ih =>
      rw [hasEffect.clock] at ih
      simpa using ih
  | locked rest ih => simpa using ih
  | unlocked cached rest ih => simpa using ih
  | measured measurement rest ih => simpa using ih
  | @exchange world later events request rest ih =>
      rw [exchanges_cons]
      unfold Surroundings.exchange at ih ⊢
      cases message : request.message? with
      | none =>
          -- The request cannot be put into a message and is never sent.
          simp only [message] at ih ⊢
          cases request with
          | token request => exact .token ih
          | api request => exact .unsent ih
      | some message =>
          simp only [message] at ih ⊢
          cases request with
          | token request =>
              rw [hasEffect.token] at ih
              exact .token ih
          | api request => exact .api (hasEffect.api request world) ih

/-- What exchanges change is what their attempts change. -/
theorem altersBy_of_changedBy {client : ProbeClient} {attempts : List Attempt}
    {exchanged : List (Request × Delivery)} {state later : σ}
    (takesAll : client.TakesAll attempts exchanged)
    (changed : ChangedBy effect exchanged state later) :
    AltersBy effect attempts state later := by
  have of_api : ∀ {request delivery rest attempts state},
      ChangedBy effect ((.api request, delivery) :: rest) state later →
      (∀ {middle}, ChangedBy effect rest middle later →
        AltersBy effect attempts middle later) →
      AltersBy effect (⟨request.call, delivery.answer⟩ :: attempts) state
        later := by
    intro request delivery rest attempts state changed next
    cases changed with
    | unsent rest => exact .vain (next rest)
    | api changes rest => exact .made changes (next rest)
  induction takesAll generalizing state with
  | none =>
      cases changed
      exact .nil
  | next takes takesRest ih =>
      cases takes with
      | plain unauthenticated => exact of_api changed ih
      | reused authenticated => exact of_api changed ih
      | unprovided authenticated refusal =>
          cases changed with
          | token rest => exact .vain (ih rest)
      | refreshed authenticated granted =>
          cases changed with
          | token rest => exact of_api rest ih

/-- A run that finishes has changed the state as its attempts do. -/
theorem altersBy_run {α : Type} (hasEffect : surroundings.HasEffect view effect)
    (client : ProbeClient) (procedure : Procedure α)
    (cache : Option AccessToken) (world : ω) {result : α}
    (finished :
      ((procedure.plan client).run surroundings cache world).conclusion =
        .finished result) :
    ∃ attempts, procedure.Ends attempts result ∧
      AltersBy effect attempts (view world)
        (view ((procedure.plan client).run surroundings cache world).world) := by
  obtain ⟨attempts, conducts⟩ :=
    Procedure.conducts_run surroundings client procedure cache world
  have changed := changedBy_of_pass hasEffect
    (surroundings.pass_run (procedure.plan client) cache world)
  refine ⟨attempts, conducts.ends finished, ?_⟩
  rw [finished] at conducts
  exact altersBy_of_changedBy conducts.takesAll changed

theorem AltersBy.split {first second : List Attempt} {state later : σ}
    (alters : AltersBy effect (first ++ second) state later) :
    ∃ middle, AltersBy effect first state middle ∧
      AltersBy effect second middle later := by
  induction first generalizing state with
  | nil => exact ⟨state, .nil, alters⟩
  | cons attempt first ih =>
      cases alters with
      | vain rest =>
          obtain ⟨middle, before, after⟩ := ih rest
          exact ⟨middle, .vain before, after⟩
      | made changes rest =>
          obtain ⟨middle, before, after⟩ := ih rest
          exact ⟨middle, .made changes before, after⟩

end Runs

end ProbeLifecycle
