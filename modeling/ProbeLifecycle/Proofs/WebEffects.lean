import ProbeLifecycle.Plan.Surroundings
import ProbeLifecycle.Proofs.CallScope
import ProbeLifecycle.Proofs.Sequencing
import ProbeLifecycle.Proofs.WebOperations

/-!
# What requests do to the probe service

A request that is refused has no effect at all: nothing is sent for it and nothing
is measured.  A request that only reads sends one lookup at most.  Whoever wants a
probe terminated or created has to say so in a request that names a cluster, gives
what the operation needs, and can be read to its end.
-/

namespace ProbeLifecycle

def apiRequests (events : List Event) : List ApiRequest :=
  (exchanges events).filterMap fun
    | (.api request, _) => some request
    | (.token _, _) => none

section Requests

variable {events : List Event}

theorem apiRequests_append (first second : List Event) :
    apiRequests (first ++ second) = apiRequests first ++ apiRequests second := by
  simp only [apiRequests, exchanges_append, List.filterMap_append]

theorem mem_apiRequests {request : ApiRequest} :
    request ∈ apiRequests events ↔
      ∃ delivery, (.api request, delivery) ∈ exchanges events := by
  simp only [apiRequests, List.mem_filterMap]
  constructor
  · rintro ⟨⟨asked, delivery⟩, member, isApi⟩
    cases asked with
    | token asked => cases isApi
    | api asked =>
        cases isApi
        exact ⟨delivery, member⟩
  · rintro ⟨delivery, member⟩
    exact ⟨(.api request, delivery), member, rfl⟩

variable {cache later : Option AccessToken}

theorem ProbeClient.Makes.length_apiRequests_le {client : ProbeClient} {call : Call}
    {conclusion : Conclusion (Except ProbeError Reply)}
    (makes : client.Makes call cache events conclusion later) :
    (apiRequests events).length ≤ 1 := by
  have none_provided : ∀ {provider : TokenProvider} {events conclusion later},
      provider.Provides cache events conclusion later → apiRequests events = [] := by
    intro provider events conclusion later provides
    unfold apiRequests
    rcases exchanges_provides provides with none | ⟨delivery, one⟩
    · rw [none]
      rfl
    · rw [one]
      rfl
  cases makes with
  | plain unauthenticated => exact Nat.le_refl 1
  | broken authenticated provides => simp [none_provided provides]
  | unprovided authenticated provides => simp [none_provided provides]
  | sent authenticated provides =>
      rw [apiRequests_append, none_provided provides]
      simp [apiRequests]

namespace Procedure

variable {α : Type}

def CallsAtMost : Nat → Procedure α → Prop
  | _, finish _ => True
  | limit, measure _ next => next.CallsAtMost limit
  | 0, attempt _ _ => False
  | limit + 1, attempt _ next => ∀ outcome, (next outcome).CallsAtMost limit

theorem Conducts.length_apiRequests_le {client : ProbeClient}
    {procedure : Procedure α} {attempts : List Attempt}
    {conclusion : Conclusion α}
    (conducts :
      procedure.Conducts client cache attempts events conclusion later)
    {limit : Nat} (callsAtMost : procedure.CallsAtMost limit) :
    (apiRequests events).length ≤ limit := by
  induction conducts generalizing limit with
  | finish => exact Nat.zero_le limit
  | measure rest ih =>
      have fewer := ih callsAtMost
      simpa [apiRequests] using fewer
  | attempt makes rest ih =>
      cases limit with
      | zero => exact callsAtMost.elim
      | succ limit =>
          have one := makes.length_apiRequests_le
          have fewer := ih (callsAtMost _)
          rw [apiRequests_append, List.length_append]
          omega
  | broken makes =>
      cases limit with
      | zero => exact callsAtMost.elim
      | succ limit =>
          have one := makes.length_apiRequests_le
          omega

theorem callsAtMost_lookup (clusterId : String) :
    (lookup clusterId).CallsAtMost 1 := by
  intro outcome
  change (settleFound (outcome.bind _)).CallsAtMost 0
  unfold settleFound
  split
  · trivial
  · trivial

end Procedure

end Requests

namespace Web

namespace Request

/-- What a request asks for, by its method, its path and what it says. -/
inductive AsksFor (request : Request) (now : Timestamp) : Step → Prop where
  | get {segment id} (method : request.method = "GET" ∨ request.method = "HEAD")
      (resource : Resource.ofPath? request.path = some (.probe segment))
      (named : clusterId segment = .ok id) :
      AsksFor request now (.get id)
  | ensure {segment id described} (method : request.method = "PUT")
      (resource : Resource.ofPath? request.path = some (.probe segment))
      (named : clusterId segment = .ok id)
      (describes : description request = .ok described) :
      AsksFor request now (.ensure (described.context id))
  | deleteAt {segment id time} (method : request.method = "DELETE")
      (resource : Resource.ofPath? request.path = some (.probe segment))
      (named : clusterId segment = .ok id)
      (dated : requestedAt request now = .ok time) :
      AsksFor request now (.deleteAt id time now)

theorem exists_resource_of_route {request : Request} {action : Action}
    (routed : (route request).toOption = some action) :
    ∃ resource, Resource.ofPath? request.path = some resource ∧
      resource.action? request.method = some action := by
  unfold route at routed
  cases found : Resource.ofPath? request.path with
  | none => simp [found, Except.toOption] at routed
  | some resource =>
      refine ⟨resource, rfl, ?_⟩
      cases isAction : resource.action? request.method with
      | none => simp [found, isAction, Except.toOption] at routed
      | some chosen => simpa [found, isAction, Except.toOption] using routed

section Actions

variable {resource : Resource} {method : String} {segment : List Char}

theorem action?_eq_getProbe
    (isAction : resource.action? method = some (.getProbe segment)) :
    resource = .probe segment ∧ (method = "GET" ∨ method = "HEAD") := by
  unfold Resource.action? at isAction
  split at isAction <;> simp_all

theorem action?_eq_ensureProbe
    (isAction : resource.action? method = some (.ensureProbe segment)) :
    resource = .probe segment ∧ method = "PUT" := by
  unfold Resource.action? at isAction
  split at isAction <;> simp_all

theorem action?_eq_deleteProbe
    (isAction : resource.action? method = some (.deleteProbe segment)) :
    resource = .probe segment ∧ method = "DELETE" := by
  unfold Resource.action? at isAction
  split at isAction <;> simp_all

end Actions

theorem eq_ok_of_toOption {ε α : Type} {result : Except ε α} {value : α}
    (isSome : result.toOption = some value) : result = .ok value := by
  cases result with
  | error error => cases isSome
  | ok other =>
      cases isSome
      rfl

theorem asksFor_of_operation? {request : Request} {now : Timestamp} {step : Step}
    (isOperation : request.operation? now = some step) :
    request.AsksFor now step := by
  obtain ⟨action, routed, asks⟩ := Option.bind_eq_some_iff.mp isOperation
  obtain ⟨resource, found, isAction⟩ := exists_resource_of_route routed
  cases action with
  | showMetrics => cases asks
  | showHealth => cases asks
  | getProbe segment =>
      obtain ⟨rfl, method⟩ := action?_eq_getProbe isAction
      obtain ⟨id, named, rfl⟩ := Option.map_eq_some_iff.mp asks
      exact .get method found (eq_ok_of_toOption named)
  | ensureProbe segment =>
      obtain ⟨rfl, method⟩ := action?_eq_ensureProbe isAction
      obtain ⟨id, named, asks⟩ := Option.bind_eq_some_iff.mp asks
      obtain ⟨described, describes, rfl⟩ := Option.map_eq_some_iff.mp asks
      exact .ensure method found (eq_ok_of_toOption named)
        (eq_ok_of_toOption describes)
  | deleteProbe segment =>
      obtain ⟨rfl, method⟩ := action?_eq_deleteProbe isAction
      obtain ⟨id, named, asks⟩ := Option.bind_eq_some_iff.mp asks
      obtain ⟨time, dated, rfl⟩ := Option.map_eq_some_iff.mp asks
      exact .deleteAt method found (eq_ok_of_toOption named)
        (eq_ok_of_toOption dated)

end Request

/-- A request that entitles the service to change the probe of a cluster: to all
that keeps it as it should be, or to its termination. -/
inductive Request.Warrants (request : Request) : Call → Prop where
  | put {segment described call} (method : request.method = "PUT")
      (resource : Resource.ofPath? request.path = some (.probe segment))
      (named : clusterId segment = .ok call.clusterId)
      (notBlank : Text.isBlank call.clusterId = false)
      (short : request.body.utf8ByteSize ≤ 65536)
      (decodes :
        Json.decode ClusterDescription.reader request.body = .ok described)
      (usable : Text.isBlank described.apiServerHostname = false) :
      Warrants request call
  | delete {segment clusterId} (method : request.method = "DELETE")
      (resource : Resource.ofPath? request.path = some (.probe segment))
      (named : Web.clusterId segment = .ok clusterId)
      (notBlank : Text.isBlank clusterId = false)
      (dated : requestedAtText request = .ok none ∨
        ∃ value time, requestedAtText request = .ok (some value) ∧
          Rfc3339.read value = .ok time) :
      Warrants request (.terminate clusterId)

theorem description_eq_ok {request : Request} {described : ClusterDescription}
    (describes : description request = .ok described) :
    request.body.utf8ByteSize ≤ largestBody ∧
      Json.decode ClusterDescription.reader request.body = .ok described := by
  unfold description at describes
  by_cases longer : largestBody < request.body.utf8ByteSize
  · simp only [longer, if_true] at describes
    split_ifs at describes
  · refine ⟨Nat.le_of_not_lt longer, ?_⟩
    simp only [longer, if_false] at describes
    cases decoded : Json.decode ClusterDescription.reader request.body with
    | ok other =>
        simp only [decoded] at describes
        split_ifs at describes
        cases describes
        rfl
    | error problem =>
        cases problem <;> simp only [decoded] at describes <;>
          split_ifs at describes

theorem requestedAt_eq_ok {request : Request} {now time : Timestamp}
    (dated : requestedAt request now = .ok time) :
    requestedAtText request = .ok none ∨
      ∃ value time, requestedAtText request = .ok (some value) ∧
        Rfc3339.read value = .ok time := by
  obtain ⟨value?, given, dated⟩ := bind_eq_ok.mp dated
  cases value? with
  | none => exact .inl given
  | some value =>
      refine .inr ⟨value, ?_⟩
      cases read : Rfc3339.read value with
      | ok time => exact ⟨time, given, rfl⟩
      | error fault =>
          simp only [read] at dated
          cases dated

/-- A response that refuses a request, or that finds nothing at its path. -/
def Response.Refuses (response : Response) (request : Request) : Prop :=
  response.status ∈ [400, 405, 413, 415, 422] ∨
    response.status = 404 ∧ Resource.ofPath? request.path = none

section Statuses

@[simp]
theorem status_cut (request : Request) (response : Response) :
    (request.cut response).status = response.status := by
  unfold Request.cut
  split
  · rfl
  · rfl

theorem status_lookupResponse (clusterId : String)
    (result : Except ProbeError (Option Probe)) :
    (lookupResponse clusterId result).status ∈ [200, 404, 502] := by
  rcases result with error | probe | probe <;> simp [lookupResponse,
    Response.failure, Response.json]

theorem status_ensureResponse {result : Except SyncError EnsureOutcome}
    (usable : ∀ error, result = .error error → error.isInvalidInput = false) :
    (ensureResponse result).status ∈ [200, 502] := by
  cases result with
  | error error =>
      simp [ensureResponse, failureResponse, usable error rfl, Response.failure,
        Response.json]
  | ok outcome => simp [ensureResponse, Response.json]

theorem status_deletionResponse {result : Except SyncError DeletionOutcome}
    (usable : ∀ error, result = .error error → error.isInvalidInput = false) :
    (deletionResponse result).status ∈ [200, 503] := by
  cases result with
  | error error =>
      simp [deletionResponse, failureResponse, usable error rfl, Response.failure,
        Response.json]
  | ok outcome => simp [deletionResponse, Response.json]

end Statuses

end Web

namespace Procedure

variable {context : ClusterContext} {clusterId : String} {attempts : List Attempt}

/-- A pass ends at once, or goes to work for a usable cluster. -/
theorem ensure_cases (onlyPublicClusters : Bool) (context : ClusterContext) :
    (∃ result, ensure onlyPublicClusters context = .finish result) ∨
      ∃ desired, context.desiredRequest = .ok desired ∧
        ensure onlyPublicClusters context = converge desired := by
  unfold ensure
  split
  · exact .inl ⟨_, rfl⟩
  · split
    · exact .inl ⟨_, rfl⟩
    · cases usable : context.desiredRequest with
      | error error => exact .inl ⟨_, rfl⟩
      | ok desired => exact .inr ⟨desired, rfl, rfl⟩

theorem isInvalidInput_of_ends_converge {desired : ProbeRequest}
    {result : Except SyncError EnsureOutcome}
    (ends : (converge desired).Ends attempts result) :
    ∀ error, result = .error error → error.isInvalidInput = false := by
  rintro error rfl
  cases ends_converge.mp ends with
  | stopped stops => rfl

theorem isInvalidInput_of_ends_deleteUnless {overdue : Bool}
    (notBlank : Text.isBlank clusterId = false)
    {result : Except SyncError DeletionOutcome}
    (ends : (deleteUnless overdue clusterId).Ends attempts result) :
    ∀ error, result = .error error → error.isInvalidInput = false := by
  rintro error rfl
  rw [deleteUnless, notBlank, if_neg Bool.false_ne_true] at ends
  obtain ⟨_, second, deleted, -, -, later⟩ := ends_bind.mp ends
  cases deleted with
  | ok value =>
      obtain ⟨-, impossible⟩ := ends_finish.mp later
      cases impossible
  | error source =>
      cases overdue with
      | true =>
          obtain ⟨-, impossible⟩ := ends_finish.mp (ends_measure.mp later)
          cases impossible
      | false =>
          obtain ⟨-, same⟩ := ends_finish.mp later
          cases same
          rfl

end Procedure

namespace Service

/-- What serving a request does to the probe service and to what is kept. -/
structure WebEffect {ω : Type} (request : Web.Request) (state : SessionState ω)
    (report : StepReport) (later : SessionState ω) : Prop where
  refused : ∀ response, report.conclusion = .finished (.response response) →
    response.Refuses request → report.events = [] ∧ later = state
  reads : request.method = "GET" ∨ request.method = "HEAD" →
    (apiRequests report.events).length ≤ 1 ∧
      ∀ sent ∈ apiRequests report.events, sent.call.method = .get
  changes : ∀ sent ∈ apiRequests report.events, sent.call.method ≠ .get →
    request.Warrants sent.call

section Steps

variable {α ω : Type} {service : Service} {client : ProbeClient}
  {request : Web.Request} {now : Timestamp}

/-- The effect of a request is that of the procedure by which it is served. -/
theorem webEffect_of_procedure (procedure : Procedure α) (client : ProbeClient)
    (change : α → Answer)
    (isPlan : ∀ tally, service.plan tally (.web request now) =
      change <$> procedure.plan client)
    (refusesAtOnce : ∀ attempts value response, procedure.Ends attempts value →
      change value = .response response → response.Refuses request →
      procedure = .finish value)
    (reads : request.method = "GET" ∨ request.method = "HEAD" →
      procedure.CallsAtMost 1 ∧ procedure.CallsOnly (·.method = .get))
    (changes : procedure.CallsOnly fun call =>
      call.method ≠ .get → request.Warrants call)
    (metricsKept : Bool) (surroundings : Surroundings ω)
    (state : SessionState ω) :
    let taken := service.step metricsKept surroundings state (.web request now)
    WebEffect request state taken.1 taken.2 := by
  obtain ⟨attempts, conducts⟩ :=
    procedure.conducts_run surroundings client state.cache state.world
  rw [step_eq_of_plan isPlan]
  constructor
  · intro response answered refuses
    obtain ⟨value, concluded, isResponse⟩ := Conclusion.map_eq_finished.mp answered
    have atOnce := refusesAtOnce attempts value response (conducts.ends concluded)
      isResponse refuses
    subst atOnce
    simp [Procedure.plan, Plan.run]
  · intro isRead
    obtain ⟨callsAtMost, callsOnly⟩ := reads isRead
    refine ⟨conducts.length_apiRequests_le callsAtMost, fun sent member => ?_⟩
    obtain ⟨delivery, exchanged⟩ := mem_apiRequests.mp member
    exact conducts.callsOnly callsOnly exchanged
  · intro sent member
    obtain ⟨delivery, exchanged⟩ := mem_apiRequests.mp member
    exact conducts.callsOnly changes exchanged

end Steps

section Requests

variable {ω : Type} (client : ProbeClient) (onlyPublicClusters : Bool)
  (deletionTimeout : Nat) {request : Web.Request} {now : Timestamp}
  (metricsKept : Bool) (surroundings : Surroundings ω) (state : SessionState ω)

theorem webEffect_idle (asksNothing : request.operation? now = none) :
    let service := ofClient client onlyPublicClusters deletionTimeout
    let taken := service.step metricsKept surroundings state (.web request now)
    WebEffect request state taken.1 taken.2 := by
  intro service
  rcases step_cases client onlyPublicClusters deletionTimeout metricsKept
      surroundings state (.web request now) with
    ⟨-, answer, taken⟩ | ⟨operation, isOperation, -⟩
  · simp only [service, taken]
    exact ⟨fun _ _ _ => ⟨rfl, rfl⟩, by simp [apiRequests], by simp [apiRequests]⟩
  · rw [show Step.operation? (.web request now) = none from asksNothing] at isOperation
    cases isOperation

theorem not_refuses {response : Web.Response} {segment : List Char}
    {statuses : List Nat} (isProbe :
      Web.Resource.ofPath? request.path = some (.probe segment))
    (status : response.status ∈ statuses)
    (others : ∀ status ∈ statuses, status ∉ [400, 405, 413, 415, 422]) :
    ¬ response.Refuses request := by
  rintro (refusal | ⟨-, unmatched⟩)
  · exact others _ status refusal
  · rw [isProbe] at unmatched
    cases unmatched

theorem not_reads {method : String} (isMethod : request.method = method)
    (others : method ≠ "GET" ∧ method ≠ "HEAD") :
    ¬ (request.method = "GET" ∨ request.method = "HEAD") := by
  rw [isMethod]
  exact not_or.mpr others

theorem webEffect_asksFor {operation : Step}
    (isOperation : request.operation? now = some operation)
    (asksFor : request.AsksFor now operation) :
    let service := ofClient client onlyPublicClusters deletionTimeout
    let taken := service.step metricsKept surroundings state (.web request now)
    WebEffect request state taken.1 taken.2 := by
  intro service
  have isPlan : ∀ tally, service.plan tally (.web request now) =
      request.shown operation <$> service.plan tally operation := by
    intro tally
    rcases plan_web onlyPublicClusters deletionTimeout tally request now with
      ⟨none, -⟩ | ⟨other, same, isPlan⟩
    · rw [isOperation] at none
      cases none
    · rw [isOperation] at same
      cases same
      exact isPlan client
  cases asksFor with
  | @get segment id method resource named =>
      apply webEffect_of_procedure (.lookup id) client fun result =>
        request.shown (.get id) (.found result)
      · intro tally
        rw [isPlan, Procedure.plan_lookup]
        exact (comp_map Answer.found (request.shown (.get id)) _).symm
      · intro attempts value response ends isResponse refuses
        cases isResponse
        have status := Web.status_lookupResponse id value
        rw [← Web.status_cut request] at status
        exact absurd refuses (not_refuses resource status (by decide))
      · intro isRead
        exact ⟨Procedure.callsAtMost_lookup id, Procedure.callsOnly_lookup rfl⟩
      · exact Procedure.callsOnly_lookup fun different => absurd rfl different
  | @ensure segment id described method resource named describes =>
      obtain ⟨short, decodes⟩ := Web.description_eq_ok describes
      have cases_ensure := Procedure.ensure_cases onlyPublicClusters
        (described.context id)
      apply webEffect_of_procedure (.ensure onlyPublicClusters (described.context id))
        client fun result =>
          request.shown (.ensure (described.context id)) (.ensured result)
      · intro tally
        rw [isPlan, Procedure.plan_ensure ⟨client, onlyPublicClusters⟩]
        exact (comp_map Answer.ensured
          (request.shown (.ensure (described.context id))) _).symm
      · intro attempts value response ends isResponse refuses
        cases isResponse
        rcases cases_ensure with ⟨result, atOnce⟩ | ⟨desired, usable, works⟩
        · rw [atOnce] at ends ⊢
          rw [(Procedure.ends_finish.mp ends).2]
        · rw [works] at ends
          have status := Web.status_ensureResponse
            (Procedure.isInvalidInput_of_ends_converge ends)
          rw [← Web.status_cut request] at status
          exact absurd refuses (not_refuses resource status (by decide))
      · intro isRead
        exact absurd isRead (not_reads method (by decide))
      · rcases cases_ensure with ⟨result, atOnce⟩ | ⟨desired, usable, works⟩
        · rw [atOnce]
          trivial
        · obtain ⟨notBlank, hostname, rfl⟩ :=
            ClusterContext.desiredRequest_eq_ok.mp usable
          have warranted : ∀ call : Call, call.clusterId = id →
              request.Warrants call := by
            rintro call rfl
            exact .put method resource named notBlank short decodes hostname
          rw [works]
          exact Procedure.callsOnly_converge (fun _ => warranted _ rfl)
            (fun _ => warranted _ rfl) (fun _ => warranted _ rfl)
  | @deleteAt segment id time method resource named dated =>
      have isDated := Web.requestedAt_eq_ok dated
      let policy : DeletionPolicy :=
        ⟨client, deletionTimeout * nanosecondsPerSecond⟩
      apply webEffect_of_procedure (.deleteUnless (policy.IsOverdue time now) id)
        client fun result =>
          request.shown (.deleteAt id time now) (.deletion result)
      · intro tally
        rw [isPlan]
        exact ((congrArg _ (Procedure.plan_deleteUnless policy id time now)).trans
          (comp_map Answer.deletion (request.shown (.deleteAt id time now))
            _)).symm
      · intro attempts value response ends isResponse refuses
        cases isResponse
        cases blank : Text.isBlank id with
        | true =>
            simp only [Procedure.deleteUnless, blank, if_true] at ends ⊢
            rw [(Procedure.ends_finish.mp ends).2]
        | false =>
            have status := Web.status_deletionResponse
              (Procedure.isInvalidInput_of_ends_deleteUnless blank ends)
            rw [← Web.status_cut request] at status
            exact absurd refuses (not_refuses resource status (by decide))
      · intro isRead
        exact absurd isRead (not_reads method (by decide))
      · cases blank : Text.isBlank id with
        | true =>
            rw [Procedure.deleteUnless, blank, if_pos rfl]
            trivial
        | false =>
            apply Procedure.callsOnly_deleteUnless
            · intro different
              exact absurd rfl different
            · intro _
              exact .delete method resource named blank isDated

/-- For every request to the service: if it is refused, nothing happens; if its
method is to read, at most one lookup is sent to the probe service; and whatever else
is sent there is warranted by the request. -/
theorem webEffect_step (request : Web.Request) (now : Timestamp) :
    let service := ofClient client onlyPublicClusters deletionTimeout
    let taken := service.step metricsKept surroundings state (.web request now)
    WebEffect request state taken.1 taken.2 := by
  cases isOperation : request.operation? now with
  | none => exact webEffect_idle _ _ _ _ _ _ isOperation
  | some operation =>
      exact webEffect_asksFor _ _ _ _ _ _ isOperation
        (Web.Request.asksFor_of_operation? isOperation)

end Requests

end Service

end ProbeLifecycle
