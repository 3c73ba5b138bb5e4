import ProbeLifecycle.Proofs.Operations
import ProbeLifecycle.Service.Session

/-!
# Operations behind requests

A request to the service is refused, is answered from what is known, or asks for one
operation on the probe of a cluster.  In the last case serving it is to take the
step of the operation, with all that happens on the way, and to show what the
operation answers.
-/

namespace ProbeLifecycle

open Web

namespace Web.Request

/-- The operation on a cluster's probe in which an action consists. -/
def asks (request : Request) (now : Timestamp) : Action → Option Step
  | .getProbe segment => (clusterId segment).toOption.map .get
  | .ensureProbe segment =>
      (clusterId segment).toOption.bind fun id =>
        (description request).toOption.map fun description =>
          .ensure (description.context id)
  | .deleteProbe segment =>
      (clusterId segment).toOption.bind fun id =>
        (requestedAt request now).toOption.map fun requestedAt =>
          .deleteAt id requestedAt now
  | .showMetrics => none
  | .showHealth => none

def operation? (request : Request) (now : Timestamp) : Option Step :=
  (route request).toOption.bind (request.asks now)

/-- What is left of a response, given the method of the request. -/
def cut (request : Request) (response : Response) : Response :=
  if request.method = "HEAD" then response.withoutBody else response

/-- What a request is answered, given what the operation behind it answers. -/
def shown (request : Request) : Step → Answer → Answer
  | .get clusterId, .found result =>
      .response (request.cut (lookupResponse clusterId result))
  | .ensure _, .ensured result => .response (request.cut (ensureResponse result))
  | .deleteAt _ _ _, .deletion result =>
      .response (request.cut (deletionResponse result))
  | _, answer => answer

end Web.Request

namespace Step

def operation? : Step → Option Step
  | .web request now => request.operation? now
  | step => some step

def shown : Step → Step → Answer → Answer
  | .web request _, operation => request.shown operation
  | _, _ => id

theorem operation?_ne_web (step : Step) (request : Web.Request) (now : Timestamp) :
    step.operation? ≠ some (.web request now) := by
  cases step with
  | web asking time =>
      intro isOperation
      obtain ⟨action, -, asks⟩ := Option.bind_eq_some_iff.mp isOperation
      cases action with
      | showMetrics => cases asks
      | showHealth => cases asks
      | getProbe segment =>
          obtain ⟨id, -, impossible⟩ := Option.map_eq_some_iff.mp asks
          cases impossible
      | ensureProbe segment =>
          obtain ⟨id, -, asks⟩ := Option.bind_eq_some_iff.mp asks
          obtain ⟨description, -, impossible⟩ := Option.map_eq_some_iff.mp asks
          cases impossible
      | deleteProbe segment =>
          obtain ⟨id, -, asks⟩ := Option.bind_eq_some_iff.mp asks
          obtain ⟨requestedAt, -, impossible⟩ := Option.map_eq_some_iff.mp asks
          cases impossible
  | _ => simp [operation?]

end Step

namespace Service

variable (onlyPublicClusters : Bool) (deletionTimeout : Nat)
  (tally : Option Tally) (request : Web.Request) (now : Timestamp)

/-- An action is answered at once or by what its operation answers, whoever the
client is. -/
theorem perform_asks (action : Action) :
    let service := fun client =>
      ofClient client onlyPublicClusters deletionTimeout
    let performed := fun client =>
      (service client).server.perform request now tally action
    (request.asks now action = none ∧
        ∃ response, ∀ client, performed client = .done response) ∨
      ∃ operation, request.asks now action = some operation ∧
        ∀ client,
          (fun response => .response (request.cut response)) <$>
              performed client =
            request.shown operation <$>
              (service client).plan tally operation := by
  intro service performed
  cases action with
  | showMetrics => exact .inl ⟨rfl, _, fun _ => rfl⟩
  | showHealth => exact .inl ⟨rfl, _, fun _ => rfl⟩
  | getProbe segment =>
      simp only [Web.Request.asks, performed, Server.perform]
      cases clusterId segment with
      | error response => exact .inl ⟨rfl, _, fun _ => rfl⟩
      | ok id =>
          refine .inr ⟨_, rfl, fun client => ?_⟩
          simp only [orRefuse, plan, Functor.map_map]
          rfl
  | ensureProbe segment =>
      simp only [Web.Request.asks, performed, Server.perform]
      cases clusterId segment with
      | error response => exact .inl ⟨rfl, _, fun _ => rfl⟩
      | ok id =>
          cases description request with
          | error response => exact .inl ⟨rfl, _, fun _ => rfl⟩
          | ok description =>
              refine .inr ⟨_, rfl, fun client => ?_⟩
              simp only [orRefuse, plan, Functor.map_map]
              rfl
  | deleteProbe segment =>
      simp only [Web.Request.asks, performed, Server.perform]
      cases clusterId segment with
      | error response => exact .inl ⟨rfl, _, fun _ => rfl⟩
      | ok id =>
          cases requestedAt request now with
          | error response => exact .inl ⟨rfl, _, fun _ => rfl⟩
          | ok requestedAt =>
              refine .inr ⟨_, rfl, fun client => ?_⟩
              simp only [orRefuse, plan, Functor.map_map]
              rfl

theorem plan_web :
    let service := fun client =>
      ofClient client onlyPublicClusters deletionTimeout
    (request.operation? now = none ∧
        ∃ answer, ∀ client,
          (service client).plan tally (.web request now) = .done answer) ∨
      ∃ operation, request.operation? now = some operation ∧
        ∀ client, (service client).plan tally (.web request now) =
          request.shown operation <$> (service client).plan tally operation := by
  intro service
  -- The body may be dropped before the response is an answer, or after.
  have cutting : ∀ plan : Plan Response,
      Answer.response <$> (if request.method = "HEAD" then
        Response.withoutBody <$> plan else plan) =
        (fun response => .response (request.cut response)) <$> plan := by
    intro plan
    unfold Web.Request.cut
    split
    · rw [Functor.map_map]
    · rfl
  simp only [Web.Request.operation?, plan, Server.serve]
  cases route request with
  | error response => exact .inl ⟨rfl, _, fun _ => rfl⟩
  | ok action =>
      simp only [orRefuse, cutting]
      rcases perform_asks onlyPublicClusters deletionTimeout tally request
        now action with ⟨asksNothing, response, answered⟩ | performed
      · refine .inl ⟨asksNothing, .response (request.cut response), ?_⟩
        intro client
        exact congrArg
          (Functor.map fun response => Answer.response (request.cut response))
          (answered client)
      · exact .inr performed

/-- A step is answered at once, or its plan is that of its operation, whose answer
is shown; which of them does not depend on the client. -/
theorem plan_operation (step : Step) :
    let service := fun client =>
      ofClient client onlyPublicClusters deletionTimeout
    (step.operation? = none ∧
        ∃ answer, ∀ client, (service client).plan tally step = .done answer) ∨
      ∃ operation, step.operation? = some operation ∧
        ∀ client, (service client).plan tally step =
          step.shown operation <$> (service client).plan tally operation := by
  intro service
  cases step with
  | web request now => exact plan_web _ _ tally request now
  | create request => exact .inr ⟨_, rfl, fun _ => (id_map _).symm⟩
  | get clusterId => exact .inr ⟨_, rfl, fun _ => (id_map _).symm⟩
  | delete clusterId => exact .inr ⟨_, rfl, fun _ => (id_map _).symm⟩
  | ensure context => exact .inr ⟨_, rfl, fun _ => (id_map _).symm⟩
  | deleteAt clusterId requestedAt now =>
      exact .inr ⟨_, rfl, fun _ => (id_map _).symm⟩

/-- What a step does is one procedure for all clients. -/
theorem exists_procedure (step : Step) :
    ∃ procedure : Procedure Answer, ∀ client, procedure.plan client =
      (ofClient client onlyPublicClusters deletionTimeout).plan tally step := by
  rcases plan_operation onlyPublicClusters deletionTimeout tally step with
    ⟨-, answer, answered⟩ | ⟨operation, isOperation, isPlan⟩
  · exact ⟨.finish answer, fun client => (answered client).symm⟩
  · suffices exists_operation : ∃ procedure : Procedure Answer, ∀ client,
        procedure.plan client =
          (ofClient client onlyPublicClusters deletionTimeout).plan tally
            operation by
      obtain ⟨procedure, isOperationPlan⟩ := exists_operation
      refine ⟨procedure.map (step.shown operation), fun client => ?_⟩
      rw [Procedure.plan_map, isOperationPlan, isPlan]
    cases operation with
    | web request now => exact absurd isOperation (step.operation?_ne_web _ _)
    | create request =>
        refine ⟨(Procedure.create request).map .created, fun client => ?_⟩
        rw [Procedure.plan_map, Procedure.plan_create]
        rfl
    | get clusterId =>
        refine ⟨(Procedure.lookup clusterId).map .found, fun client => ?_⟩
        rw [Procedure.plan_map, Procedure.plan_lookup]
        rfl
    | delete clusterId =>
        refine ⟨(Procedure.delete clusterId).map .deleted, fun client => ?_⟩
        rw [Procedure.plan_map, Procedure.plan_delete]
        rfl
    | ensure context =>
        refine ⟨(Procedure.ensure onlyPublicClusters context).map .ensured,
          fun client => ?_⟩
        rw [Procedure.plan_map]
        exact congrArg (Functor.map Answer.ensured)
          (Procedure.plan_ensure ⟨client, onlyPublicClusters⟩ context)
    | deleteAt clusterId requestedAt now =>
        -- Whether the deletion is overdue does not depend on the client.
        refine ⟨(Procedure.deleteUnless (deletionTimeout * nanosecondsPerSecond ≤
          now.elapsed requestedAt) clusterId).map .deletion, fun client => ?_⟩
        rw [Procedure.plan_map]
        exact congrArg (Functor.map Answer.deletion)
          (Procedure.plan_deleteUnless
            ⟨client, deletionTimeout * nanosecondsPerSecond⟩ clusterId
            requestedAt now)

section Steps

variable {α ω : Type} {service : Service} {client : ProbeClient}

/-- A step that follows a procedure, step and procedure side by side. -/
theorem step_eq_of_plan {procedure : Procedure α} {change : α → Answer} {step : Step}
    (isPlan : ∀ tally, service.plan tally step = change <$> procedure.plan client)
    (metricsKept : Bool) (surroundings : Surroundings ω)
    (state : SessionState ω) :
    let run := (procedure.plan client).run surroundings state.cache state.world
    service.step metricsKept surroundings state step =
      (⟨run.conclusion.map change, run.events⟩,
        ⟨run.cache, run.world, state.measured ++ measurements run.events⟩) := by
  simp only [Service.step, isPlan, surroundings.run_map]

end Steps

end Service

/-- What steps report, given what their operations report.  A step without one is
answered at once. -/
inductive ShowsAll : List Step → List StepReport → List StepReport → Prop where
  | nil : ShowsAll [] [] []
  | atOnce {step answer steps behind reports}
      (isNone : step.operation? = none) (rest : ShowsAll steps behind reports) :
      ShowsAll (step :: steps) behind (⟨.finished answer, []⟩ :: reports)
  | shown {step operation report steps behind reports}
      (isOperation : step.operation? = some operation)
      (rest : ShowsAll steps behind reports) :
      ShowsAll (step :: steps) (report :: behind)
        (⟨report.conclusion.map (step.shown operation), report.events⟩ :: reports)

theorem ShowsAll.finished {steps : List Step} {behind reports : List StepReport}
    (shows : ShowsAll steps behind reports)
    (finished : ∀ report ∈ reports, ∃ answer,
      report.conclusion = .finished answer) :
    ∀ report ∈ behind, ∃ answer, report.conclusion = .finished answer := by
  induction shows with
  | nil => simp
  | atOnce isNone rest ih => exact ih (List.forall_mem_cons.mp finished).2
  | @shown step operation report _ _ _ isOperation rest ih =>
      obtain ⟨⟨shown, now⟩, later⟩ := List.forall_mem_cons.mp finished
      obtain ⟨answer, concluded, -⟩ := Conclusion.map_eq_finished.mp now
      exact List.forall_mem_cons.mpr ⟨⟨answer, concluded⟩, ih later⟩

namespace Service

section Sessions

variable {ω : Type} (client : ProbeClient) (onlyPublicClusters : Bool)
  (deletionTimeout : Nat) (metricsKept : Bool) (surroundings : Surroundings ω)
  (state : SessionState ω)

theorem step_cases (step : Step) :
    let take := (ofClient client onlyPublicClusters deletionTimeout).step metricsKept
      surroundings state
    (step.operation? = none ∧
        ∃ answer, take step = (⟨.finished answer, []⟩, state)) ∨
      ∃ operation, step.operation? = some operation ∧
        take step =
          (⟨(take operation).1.conclusion.map (step.shown operation),
            (take operation).1.events⟩, (take operation).2) := by
  intro take
  simp only [take, Service.step]
  generalize (if metricsKept then _ else _ : Option Tally) = tally
  rcases plan_operation onlyPublicClusters deletionTimeout tally step with
    ⟨isNone, answer, answered⟩ | ⟨operation, isOperation, isPlan⟩
  · refine .inl ⟨isNone, answer, ?_⟩
    rw [answered client]
    simp [Plan.run]
  · refine .inr ⟨operation, isOperation, ?_⟩
    rw [isPlan client, surroundings.run_map]

/-- A session does what the operations of its steps do. -/
theorem session_operations (steps : List Step) :
    let session := (ofClient client onlyPublicClusters deletionTimeout).session
      metricsKept surroundings state
    let operations := steps.filterMap Step.operation?
    (session steps).2 = (session operations).2 ∧
      ShowsAll steps (session operations).1 (session steps).1 := by
  intro session
  simp only [session]
  induction steps generalizing state with
  | nil => exact ⟨rfl, .nil⟩
  | cons next steps ih =>
      rcases step_cases client onlyPublicClusters deletionTimeout metricsKept
          surroundings state next with
        ⟨isNone, answer, taken⟩ | ⟨operation, isOperation, taken⟩
      · obtain ⟨sameState, shows⟩ := ih state
        simp only [List.filterMap_cons, isNone, Service.session, taken]
        exact ⟨sameState, .atOnce isNone shows⟩
      · obtain ⟨sameState, shows⟩ := ih ((ofClient client onlyPublicClusters
          deletionTimeout).step metricsKept surroundings state operation).2
        simp only [List.filterMap_cons, isOperation, Service.session, taken]
        exact ⟨sameState, .shown isOperation shows⟩

end Sessions

end Service

end ProbeLifecycle
