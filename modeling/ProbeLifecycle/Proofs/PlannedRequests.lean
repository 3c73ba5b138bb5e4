import ProbeLifecycle.Plan.Interleaving
import ProbeLifecycle.Proofs.CallScope
import ProbeLifecycle.Proofs.WebOperations
import ProbeLifecycle.Service.Session

/-!
# Requests in a plan

Which requests a plan may make is written in it, whatever it learns on the way.  What
holds of all of them holds of every request that is made when the plan is carried out,
by itself or beside others.  A client makes the requests for its calls, and to the
issuer only the one that its own credentials describe.
-/

namespace ProbeLifecycle

def Plan.SendsOnly {α : Type} (allowed : Request → Prop) : Plan α → Prop
  | .done _ => True
  | .halt _ => True
  | .lock next => ∀ found, (next found).SendsOnly allowed
  | .unlock _ next => next.SendsOnly allowed
  | .clock next => ∀ now, (next now).SendsOnly allowed
  | .exchange request next =>
      allowed request ∧ ∀ delivery, (next delivery).SendsOnly allowed
  | .measure _ next => next.SendsOnly allowed

section Plans

variable {α β : Type} {allowed : Request → Prop}

theorem Plan.sendsOnly_bind {plan : Plan α} {next : α → Plan β}
    (first : plan.SendsOnly allowed) (second : ∀ value, (next value).SendsOnly allowed) :
    (plan.bind next).SendsOnly allowed := by
  induction plan with
  | done value => exact second value
  | halt cause => trivial
  | lock rest ih => exact fun found => ih found (first found)
  | unlock left rest ih => exact ih first
  | clock rest ih => exact fun now => ih now (first now)
  | exchange request rest ih =>
      exact ⟨first.1, fun delivery => ih delivery (first.2 delivery)⟩
  | measure measurement rest ih => exact ih first

theorem Plan.sendsOnly_when {condition : Prop} {plan : Plan α}
    (sendsOnly : condition → plan.SendsOnly allowed) :
    plan.SendsOnly fun request => condition → allowed request := by
  induction plan with
  | done value => trivial
  | halt cause => trivial
  | lock rest ih => exact fun found => ih found fun holds => sendsOnly holds found
  | unlock left rest ih => exact ih sendsOnly
  | clock rest ih => exact fun now => ih now fun holds => sendsOnly holds now
  | exchange request rest ih =>
      exact ⟨fun holds => (sendsOnly holds).1,
        fun delivery => ih delivery fun holds => (sendsOnly holds).2 delivery⟩
  | measure measurement rest ih => exact ih sendsOnly

/-- What holds of the requests of a plan holds of those in its runs. -/
theorem Plan.SendsOnly.of_run {ω : Type} {surroundings : Surroundings ω}
    {plan : Plan α} {cache : Option AccessToken} {world : ω} {request : Request}
    {delivery : Delivery} (sendsOnly : plan.SendsOnly allowed)
    (member : .exchanged request delivery ∈
      (plan.run surroundings cache world).events) :
    allowed request := by
  induction plan generalizing cache world with
  | done value => cases member
  | halt cause => cases member
  | lock rest ih => exact ih _ (sendsOnly _) (by simpa [run, Run.after] using member)
  | unlock left rest ih => exact ih sendsOnly (by simpa [run, Run.after] using member)
  | clock rest ih => exact ih _ (sendsOnly _) (by simpa [run, Run.after] using member)
  | exchange request rest ih =>
      rcases List.mem_cons.mp member with made | later
      · cases made
        exact sendsOnly.1
      · exact ih _ (sendsOnly.2 _) later
  | measure measurement rest ih =>
      exact ih sendsOnly (by simpa [run, Run.after] using member)

end Plans

section Scenes

variable {ι α : Type} [DecidableEq ι] {allowed : ι → Request → Prop}

def Progress.SendsOnly (allowed : Request → Prop) : Progress α → Prop
  | ready plan => plan.SendsOnly allowed
  | awaiting _ next => ∀ delivery, (next delivery).SendsOnly allowed

theorem Progress.Does.sendsOnly {allowed : Request → Prop} {progress later : Progress α}
    {act : Act} (does : progress.Does act later)
    (sendsOnly : progress.SendsOnly allowed) :
    later.SendsOnly allowed ∧ ∀ request, act = .send request → allowed request := by
  cases does with
  | readClock now => exact ⟨sendsOnly now, fun _ sends => nomatch sends⟩
  | send =>
      refine ⟨sendsOnly.2, fun request same => ?_⟩
      cases same
      exact sendsOnly.1
  | receive delivery => exact ⟨sendsOnly delivery, fun _ sends => nomatch sends⟩
  | measure => exact ⟨sendsOnly, fun _ sends => nomatch sends⟩

theorem Scene.Acts.sendsOnly {scene later : Scene ι α} {task : ι} {act : Act}
    (acts : scene.Acts task act later)
    (sendsOnly : ∀ task, (scene.progress task).SendsOnly (allowed task)) :
    (∀ task, (later.progress task).SendsOnly (allowed task)) ∧
      ∀ request, act = .send request → allowed task request := by
  have advanced : ∀ {progress : Progress α}, progress.SendsOnly (allowed task) →
      ∀ other, ((scene.advance task progress).progress other).SendsOnly
        (allowed other) := by
    intro progress own other
    by_cases same : other = task
    · subst same
      rwa [Scene.advance_progress_self]
    · rw [show (scene.advance task progress).progress other = scene.progress other from
        Function.update_of_ne same ..]
      exact sendsOnly other
  have own := sendsOnly task
  cases acts with
  | lock free waits =>
      rw [waits] at own
      exact ⟨advanced (own _), fun _ sends => nomatch sends⟩
  | unlock holds leaves =>
      rw [leaves] at own
      exact ⟨advanced own, fun _ sends => nomatch sends⟩
  | alone does =>
      obtain ⟨rest, sent⟩ := does.sendsOnly own
      exact ⟨advanced rest, sent⟩

theorem Scene.Runs.sendsOnly {start later : Scene ι α} {trace : List (ι × Act)}
    (runs : start.Runs trace later)
    (sendsOnly : ∀ task, (start.progress task).SendsOnly (allowed task)) :
    (∀ task, (later.progress task).SendsOnly (allowed task)) ∧
      ∀ task request, (task, .send request) ∈ trace → allowed task request := by
  induction runs with
  | idle => exact ⟨sendsOnly, fun _ _ member => nomatch member⟩
  | act before acts ih =>
      obtain ⟨rest, sent⟩ := acts.sendsOnly ih.1
      refine ⟨rest, fun task request member => ?_⟩
      rcases List.mem_append.mp member with earlier | last
      · exact ih.2 task request earlier
      · cases List.mem_singleton.mp last
        exact sent request rfl

/-- What holds of the requests of a plan holds of those that its task sends, whatever
other tasks do meanwhile. -/
theorem Plan.SendsOnly.of_runs {allowed : Request → Prop} {cache : Option AccessToken}
    {plans : ι → Plan α} {trace : List (ι × Act)} {later : Scene ι α} {task : ι}
    {request : Request} (sendsOnly : (plans task).SendsOnly allowed)
    (runs : (Scene.start cache plans).Runs trace later)
    (made : (task, .send request) ∈ trace) : allowed request := by
  have eachSends : ∀ other, (plans other).SendsOnly
      fun request => other = task → allowed request :=
    fun other => Plan.sendsOnly_when fun same => same ▸ sendsOnly
  exact (runs.sendsOnly eachSends).2 task request made rfl

end Scenes

/-- A request of a client that makes certain calls: one for such a call, or the one that
the credentials of its provider describe. -/
inductive ProbeClient.Sends (client : ProbeClient) (allowed : Call → Prop) :
    Request → Prop where
  | token {provider : TokenProvider} (authenticated : client.provider = some provider) :
      Sends client allowed (.token provider.client.tokenRequest)
  | api {call : Call} (isAllowed : allowed call) (bearer : Option Bearer) :
      Sends client allowed (.api (client.apiRequest call bearer))

section Clients

variable {α : Type}

/-- Whoever asks for a token makes the one request for it. -/
theorem TokenProvider.sendsOnly_token {allowed : Request → Prop}
    {provider : TokenProvider} (own : allowed (.token provider.client.tokenRequest)) :
    provider.token.SendsOnly allowed := by
  have refreshes : ∀ cached, (provider.refresh cached).SendsOnly allowed := by
    intro cached
    rw [refresh_steps]
    refine fun fetchedAt => ⟨own, fun delivery => ?_⟩
    dsimp only
    split
    · trivial
    · split
      · trivial
      · trivial
  rw [token_steps]
  intro cached
  cases cached with
  | none => exact refreshes none
  | some token =>
      intro now
      dsimp only
      split
      · trivial
      · exact refreshes (some token)

variable {client : ProbeClient} {allowed : Call → Prop}

theorem ProbeClient.sendsOnly_execute {call : Call} (isAllowed : allowed call) :
    (client.execute call).run.SendsOnly (client.Sends allowed) := by
  rw [execute_steps, bearer_steps]
  apply Plan.sendsOnly_bind
  · cases authenticated : client.provider with
    | none => trivial
    | some provider =>
        apply Plan.sendsOnly_bind (TokenProvider.sendsOnly_token (.token authenticated))
        intro result
        cases result with
        | error error => trivial
        | ok token => trivial
  · intro result
    cases result with
    | error error => trivial
    | ok bearer =>
        refine ⟨.api isAllowed bearer, fun delivery => ?_⟩
        apply Plan.sendsOnly_bind
        · unfold dropRefusedToken
          split
          · exact fun _ => trivial
          · trivial
        · exact fun _ => trivial

/-- A client that carries a procedure out makes requests for its calls. -/
theorem Procedure.sendsOnly_plan {procedure : Procedure α}
    (callsOnly : procedure.CallsOnly allowed) :
    (procedure.plan client).SendsOnly (client.Sends allowed) := by
  induction procedure with
  | finish value => trivial
  | measure measurement next ih => exact ih callsOnly
  | attempt call next ih =>
      obtain ⟨isAllowed, nextCallsOnly⟩ := callsOnly
      exact Plan.sendsOnly_bind (client.sendsOnly_execute isAllowed) fun outcome =>
        ih outcome (nextCallsOnly outcome)

theorem Procedure.callsOnly_true (procedure : Procedure α) :
    procedure.CallsOnly fun _ => True := by
  induction procedure with
  | finish value => trivial
  | measure measurement next ih => exact ih
  | attempt call next ih => exact ⟨trivial, ih⟩

/-- Every step of a service makes requests of its one client. -/
theorem Service.sendsOnly_plan (client : ProbeClient) (onlyPublicClusters : Bool)
    (deletionTimeout : Nat) (tally : Option Tally) (step : Step) :
    ((ofClient client onlyPublicClusters deletionTimeout).plan tally step).SendsOnly
      (client.Sends fun _ => True) := by
  obtain ⟨procedure, isPlan⟩ :=
    exists_procedure onlyPublicClusters deletionTimeout tally step
  rw [← isPlan]
  exact Procedure.sendsOnly_plan procedure.callsOnly_true

end Clients

/-- What holds of the requests of all steps holds of those in a session. -/
theorem Service.sendsOnly_session {ω : Type} {surroundings : Surroundings ω}
    {service : Service} {allowed : Request → Prop}
    (sendsOnly : ∀ tally step, (service.plan tally step).SendsOnly allowed)
    {metricsKept : Bool} {state : SessionState ω} {steps : List Step}
    {request : Request} {delivery : Delivery}
    (member : .exchanged request delivery ∈
      (service.session metricsKept surroundings state steps).1.flatMap
        StepReport.events) :
    allowed request := by
  induction steps generalizing state with
  | nil => cases member
  | cons next steps ih =>
      rw [session, List.flatMap_cons, List.mem_append] at member
      rcases member with now | later
      · exact (sendsOnly _ next).of_run now
      · exact ih later

end ProbeLifecycle
