import ProbeLifecycle.Proofs.CallScope
import ProbeLifecycle.Proofs.LiveProbe
import ProbeLifecycle.Proofs.MutationSafety

/-!
# At most one running probe

A service is considered that may lose any request: a lookup that it answers lists
the probes of the cluster in some order, with or without the terminating ones,
and what it was asked to change it has changed or not when the reply is lost.
However often that happens, passes and deletions leave each cluster with one
running probe at most, and change nothing of the other clusters.
-/

namespace ProbeLifecycle

open ProbeClient

/-- The probes of a cluster that are not terminating. -/
def running (clusterId : String) (store : List Probe) : List Probe :=
  (matching clusterId store).filter fun probe => probe.status != .terminating

/-- The probes that do not belong to a cluster. -/
def foreign (clusterId : String) (store : List Probe) : List Probe :=
  store.filter fun probe => probe.cluster? != some clusterId

/-- A faithful listing of the probes of a cluster, in which terminating ones may
be left out. -/
structure IsListing (clusterId : String) (store probes : List Probe) : Prop where
  sound : ∀ probe ∈ probes, probe ∈ matching clusterId store
  complete : ∀ probe ∈ running clusterId store, probe ∈ probes

/-- What a service does with its probes if it may fail at any request.  A change
may have been made although its reply is lost. -/
inductive FaultyEffect : Attempt → List Probe → List Probe → Prop where
  | listed {clusterId outcome store}
      (lists : ∀ probes, outcome.bind (foundProbes clusterId) = .ok probes →
        IsListing clusterId store probes) :
      FaultyEffect ⟨.lookup clusterId, outcome⟩ store store
  | marked {clusterId outcome store} :
      FaultyEffect ⟨.terminate clusterId, outcome⟩ store
        (store.map (Probe.marked clusterId))
  | added {request outcome store} {probe : Probe}
      (pending : probe.status = .pending)
      (cluster : probe.cluster? = some request.clusterId) :
      FaultyEffect ⟨.create request, outcome⟩ store (store ++ [probe])
  | ignored {attempt error store} (fails : Attempt.Fails attempt error) :
      FaultyEffect attempt store store

section Stores

variable {clusterId other : String} {store : List Probe} {probe : Probe}

@[simp]
theorem cluster?_marked (clusterId : String) (probe : Probe) :
    (probe.marked clusterId).cluster? = probe.cluster? := by
  unfold Probe.marked
  split
  · rfl
  · rfl

theorem mem_running :
    probe ∈ running clusterId store ↔
      probe ∈ store ∧ probe.cluster? = some clusterId ∧
        probe.status ≠ .terminating := by
  simp only [running, matching, List.mem_filter, beq_iff_eq, bne_iff_ne,
    and_assoc]

theorem running_map_marked_self :
    running clusterId (store.map (Probe.marked clusterId)) = [] := by
  rw [List.eq_nil_iff_forall_not_mem]
  intro probe member
  obtain ⟨inStore, isOfCluster, notTerminating⟩ := mem_running.mp member
  obtain ⟨original, -, rfl⟩ := List.mem_map.mp inStore
  rw [cluster?_marked] at isOfCluster
  apply notTerminating
  simp [Probe.marked, isOfCluster]

theorem map_marked_of_foreign (unrelated : ∀ probe ∈ store,
    probe.cluster? ≠ some clusterId) :
    store.map (Probe.marked clusterId) = store := by
  have unmarked : ∀ probe ∈ store, probe.marked clusterId = probe := by
    intro probe member
    simp [Probe.marked, unrelated probe member]
  rw [List.map_congr_left unmarked, List.map_id']

/-- Marking the probes of one cluster leaves those of another as they are. -/
theorem running_map_marked (different : other ≠ clusterId) :
    running other (store.map (Probe.marked clusterId)) = running other store := by
  have same : matching other (store.map (Probe.marked clusterId)) =
      matching other store := by
    unfold matching
    rw [List.filter_map]
    have unrelated : ∀ probe ∈ store.filter
        fun probe => probe.cluster? == some other,
        probe.cluster? ≠ some clusterId := by
      intro probe member
      obtain ⟨-, isOfOther⟩ := List.mem_filter.mp member
      rw [beq_iff_eq.mp isOfOther]
      exact fun equal => different (Option.some.inj equal)
    simpa [Function.comp_def] using map_marked_of_foreign unrelated
  unfold running
  rw [same]

theorem foreign_map_marked :
    foreign clusterId (store.map (Probe.marked clusterId)) =
      foreign clusterId store := by
  unfold foreign
  rw [List.filter_map]
  have unrelated : ∀ probe ∈ store.filter
      fun probe => probe.cluster? != some clusterId,
      probe.cluster? ≠ some clusterId := by
    intro probe member
    simpa using (List.mem_filter.mp member).2
  simpa [Function.comp_def] using map_marked_of_foreign unrelated

theorem running_append_singleton :
    running other (store ++ [probe]) =
      running other store ++ running other [probe] := by
  simp [running, matching]

end Stores

/-- The last reply is taken for what it says: where it says that a cluster has no
probe or that its probe is terminated, none is running. -/
def Informed (previous : Option Attempt) (store : List Probe) : Prop :=
  ∀ attempt clusterId, previous = some attempt →
    Attempt.FindsNone clusterId attempt ∨
      Attempt.Terminates clusterId attempt →
    running clusterId store = []

section Effects

variable {previous : Option Attempt} {attempt : Attempt}
  {outcome : Except ProbeError Reply} {error : ProbeError}
  {store later : List Probe}

theorem informed_of_fails (fails : Attempt.Fails attempt error) :
    Informed (some attempt) store := by
  rintro _ clusterId ⟨⟩ (findsNone | terminates)
  · obtain ⟨outcome, rfl, found⟩ := findsNone.outcome
    rw [lookupResult_eq_error.mpr fails] at found
    cases found
  · obtain ⟨outcome, rfl, finished⟩ := terminates.outcome
    rw [termination_eq_error.mpr fails] at finished
    cases finished

/-- What is learned from an attempt is true of the store that it leaves. -/
theorem FaultyEffect.informed (changes : FaultyEffect attempt store later) :
    Informed (some attempt) later := by
  cases changes with
  | ignored fails => exact informed_of_fails fails
  | @listed listedId outcome _ lists =>
      rintro _ clusterId ⟨⟩ (findsNone | terminates)
      · obtain ⟨_, same, found⟩ := findsNone.outcome
        cases same
        have empty : outcome.bind (foundProbes listedId) = .ok [] := by
          unfold lookupResult at found
          cases listing : outcome.bind (foundProbes listedId) with
          | error error =>
              rw [listing] at found
              cases found
          | ok probes =>
              rw [listing] at found
              have first : probes.head? = none := Except.ok.inj found
              rw [List.head?_eq_none_iff.mp first]
        rw [List.eq_nil_iff_forall_not_mem]
        intro probe member
        have listed := (lists [] empty).complete probe member
        cases listed
      · cases terminates
  | @marked markedId outcome _ =>
      rintro _ clusterId ⟨⟩ (findsNone | terminates)
      · cases findsNone
      · obtain ⟨_, same, -⟩ := terminates.outcome
        cases same
        exact running_map_marked_self
  | added pending cluster =>
      rintro _ clusterId ⟨⟩ (findsNone | terminates)
      · cases findsNone
      · cases terminates

/-- A call that may follow what was learned leaves one running probe at most. -/
theorem FaultyEffect.single (changes : FaultyEffect attempt store later)
    (follows : Follows previous attempt.call) (informed : Informed previous store)
    (single : ∀ clusterId, (running clusterId store).length ≤ 1) :
    ∀ clusterId, (running clusterId later).length ≤ 1 := by
  intro clusterId
  cases changes with
  | listed lists => exact single clusterId
  | ignored fails => exact single clusterId
  | @marked markedId outcome _ =>
      by_cases same : clusterId = markedId
      · rw [same, running_map_marked_self]
        exact Nat.zero_le 1
      · rw [running_map_marked same]
        exact single clusterId
  | @added request outcome _ probe pending cluster =>
      rw [running_append_singleton]
      by_cases same : clusterId = request.clusterId
      · have none_running : running clusterId store = [] := by
          rw [same]
          cases follows with
          | missing findsNone => exact informed _ _ rfl (.inl findsNone)
          | terminated terminates => exact informed _ _ rfl (.inr terminates)
        rw [none_running, List.nil_append]
        exact Nat.le_trans (List.length_filter_le _ _)
          (List.length_filter_le _ _)
      · have unrelated : running clusterId [probe] = [] := by
          simp [running, matching, cluster, Ne.symm same]
        rw [unrelated, List.append_nil]
        exact single clusterId

/-- A call for one cluster changes no probe of another. -/
theorem FaultyEffect.foreign_eq (changes : FaultyEffect attempt store later) :
    foreign attempt.call.clusterId later =
      foreign attempt.call.clusterId store := by
  cases changes with
  | listed lists => rfl
  | ignored fails => rfl
  | marked => exact foreign_map_marked
  | added pending cluster => simp [foreign, Call.clusterId, cluster]

end Effects

section Runs

variable {previous : Option Attempt} {exchanged : List (Request × Delivery)}
  {store later : List Probe}

/-- Exchanges in order keep every cluster at one running probe. -/
theorem OrderedExchanges.single
    (ordered : OrderedExchanges previous exchanged)
    (changed : ChangedBy FaultyEffect exchanged store later)
    (informed : Informed previous store)
    (single : ∀ clusterId, (running clusterId store).length ≤ 1) :
    ∀ clusterId, (running clusterId later).length ≤ 1 := by
  -- The invariant is what the last reply has told; every request renews it.
  have of_api : ∀ {previous request delivery rest store},
      Follows previous request.call → Informed previous store →
      (∀ clusterId, (running clusterId store).length ≤ 1) →
      ChangedBy FaultyEffect ((.api request, delivery) :: rest) store later →
      (∀ {middle}, ChangedBy FaultyEffect rest middle later →
        Informed (some ⟨request.call, delivery.answer⟩) middle →
        (∀ clusterId, (running clusterId middle).length ≤ 1) →
        ∀ clusterId, (running clusterId later).length ≤ 1) →
      ∀ clusterId, (running clusterId later).length ≤ 1 := by
    intro previous request delivery rest store follows informed single changed
      next
    cases changed with
    | unsent rest =>
        have fails : Attempt.Fails ⟨request.call, Delivery.unsent.answer⟩
            (.transport .unsent) := .unanswered
        exact next rest (informed_of_fails fails) single
    | api changes rest =>
        exact next rest changes.informed
          (changes.single follows informed single)
  induction ordered generalizing store with
  | nil =>
      cases changed
      exact single
  | obtaining follows =>
      cases changed with
      | token rest =>
          cases rest
          exact single
  | sent follows ordered ih =>
      exact of_api follows informed single changed ih
  | provided granted follows ordered ih =>
      cases changed with
      | token rest => exact of_api follows informed single rest ih

theorem ChangedBy.foreign_eq {clusterId : String}
    (changed : ChangedBy FaultyEffect exchanged store later)
    (about : ∀ request delivery, (.api request, delivery) ∈ exchanged →
      request.call.clusterId = clusterId) :
    foreign clusterId later = foreign clusterId store := by
  induction changed with
  | nil => rfl
  | token rest ih =>
      exact ih fun request delivery member =>
        about request delivery (List.mem_cons_of_mem _ member)
  | unsent rest ih =>
      exact ih fun request delivery member =>
        about request delivery (List.mem_cons_of_mem _ member)
  | api changes rest ih =>
      have unchanged := changes.foreign_eq
      rw [about _ _ List.mem_cons_self] at unchanged
      rw [← unchanged]
      exact ih fun request delivery member =>
        about request delivery (List.mem_cons_of_mem _ member)

end Runs

/-- The cluster that a step of a session is about; requests of callers may be
about any. -/
def Step.cluster? : Step → Option String
  | .create request => some request.clusterId
  | .get clusterId => some clusterId
  | .delete clusterId => some clusterId
  | .ensure context => some context.clusterId
  | .deleteAt clusterId _ _ => some clusterId
  | .web _ _ => none

def Call.IsFor (clusterId : String) (call : Call) : Prop :=
  call.clusterId = clusterId

section Sessions

variable {ω : Type} {surroundings : Surroundings ω}

/-- The requests of a procedure make its calls, whatever is made of its
result. -/
theorem callsOnly_map {α β : Type} {client : ProbeClient}
    {procedure : Procedure α} {allowed : Call → Prop}
    (callsOnly : procedure.CallsOnly allowed) {change : α → β}
    {cache : Option AccessToken} {world : ω} {request : ApiRequest}
    {delivery : Delivery}
    (member : (.api request, delivery) ∈ exchanges
      ((change <$> procedure.plan client).run surroundings cache
        world).events) :
    allowed request.call := by
  rw [surroundings.run_map] at member
  obtain ⟨attempts, conducts⟩ :=
    Procedure.conducts_run surroundings client procedure cache world
  exact conducts.callsOnly callsOnly member

namespace Service

variable (service : Service)

theorem isFor_of_mem_exchanges {step : Step} {clusterId : String}
    (isAbout : step.cluster? = some clusterId) {tally : Option Tally}
    {cache : Option AccessToken} {world : ω} {request : ApiRequest}
    {delivery : Delivery}
    (member : (.api request, delivery) ∈ exchanges
      ((service.plan tally step).run surroundings cache world).events) :
    request.call.IsFor clusterId := by
  cases step with
  | web request now => cases isAbout
  | create desired =>
      cases isAbout
      have scope :
          (Procedure.create desired).CallsOnly (Call.IsFor desired.clusterId) :=
        ⟨rfl, fun _ => trivial⟩
      simp only [plan, ← Procedure.plan_create] at member
      exact callsOnly_map scope member
  | get clusterId =>
      cases isAbout
      have scope : (Procedure.lookup clusterId).CallsOnly (Call.IsFor clusterId) :=
        Procedure.callsOnly_lookup rfl
      simp only [plan, ← Procedure.plan_lookup] at member
      exact callsOnly_map scope member
  | delete clusterId =>
      cases isAbout
      have scope : (Procedure.delete clusterId).CallsOnly (Call.IsFor clusterId) :=
        Procedure.callsOnly_delete rfl rfl
      simp only [plan, ← Procedure.plan_delete] at member
      exact callsOnly_map scope member
  | ensure context =>
      cases isAbout
      have creates : ∀ desired, context.desiredRequest = .ok desired →
          (Call.create desired).IsFor context.clusterId := by
        intro desired usable
        obtain ⟨-, -, rfl⟩ := ClusterContext.desiredRequest_eq_ok.mp usable
        rfl
      have scope : ∀ onlyPublicClusters,
          (Procedure.ensure onlyPublicClusters context).CallsOnly
            (Call.IsFor context.clusterId) :=
        Procedure.callsOnly_ensure rfl rfl creates
      simp only [plan, ← Procedure.plan_ensure] at member
      exact callsOnly_map (scope _) member
  | deleteAt clusterId requestedAt now =>
      cases isAbout
      have scope : ∀ overdue, (Procedure.deleteUnless overdue clusterId).CallsOnly
          (Call.IsFor clusterId) :=
        Procedure.callsOnly_deleteUnless rfl rfl
      simp only [plan, ← Procedure.plan_deleteUnless] at member
      exact callsOnly_map (scope _) member

/-- What a step does to the store is done by its exchanges. -/
theorem changedBy_step {view : ω → List Probe}
    (hasEffect : surroundings.HasEffect view FaultyEffect) (metricsKept : Bool)
    (state : SessionState ω) (step : Step) :
    let taken := service.step metricsKept surroundings state step
    ChangedBy FaultyEffect (exchanges taken.1.events) (view state.world)
      (view taken.2.world) :=
  changedBy_of_pass hasEffect (surroundings.pass_run _ state.cache state.world)

/-- A step that looks probes up first keeps every cluster at one running
probe. -/
theorem step_single {view : ω → List Probe}
    (hasEffect : surroundings.HasEffect view FaultyEffect) (metricsKept : Bool)
    (state : SessionState ω) {step : Step} (guarded : step.isGuarded = true)
    (single : ∀ clusterId, (running clusterId (view state.world)).length ≤ 1) :
    let taken := service.step metricsKept surroundings state step
    ∀ clusterId, (running clusterId (view taken.2.world)).length ≤ 1 := by
  intro taken
  have changed := service.changedBy_step hasEffect metricsKept state step
  have ordered := service.ordered_plan surroundings guarded
    (if metricsKept then some (Tally.ofMeasurements state.measured) else none)
    state.cache state.world
  have nothing_known : Informed none (view state.world) := by
    rintro attempt clusterId ⟨⟩
  exact ordered.single changed nothing_known single

/-- A step about one cluster changes no probe of another. -/
theorem step_foreign {view : ω → List Probe}
    (hasEffect : surroundings.HasEffect view FaultyEffect) (metricsKept : Bool)
    (state : SessionState ω) {step : Step} {clusterId : String}
    (isAbout : step.cluster? = some clusterId) :
    let taken := service.step metricsKept surroundings state step
    foreign clusterId (view taken.2.world) =
      foreign clusterId (view state.world) := by
  intro taken
  have changed := service.changedBy_step hasEffect metricsKept state step
  apply changed.foreign_eq
  intro request delivery member
  exact service.isFor_of_mem_exchanges isAbout member

/-- Whatever requests are lost in a session of steps that look probes up first,
every cluster that has one running probe at most keeps it so, and no step changes
a probe of a cluster that it is not about. -/
theorem session_single {view : ω → List Probe}
    (hasEffect : surroundings.HasEffect view FaultyEffect) (metricsKept : Bool)
    (state : SessionState ω) (steps : List Step)
    (guarded : ∀ step ∈ steps, step.isGuarded = true)
    (single : ∀ clusterId, (running clusterId (view state.world)).length ≤ 1) :
    (∀ clusterId, (running clusterId (view
      (service.session metricsKept surroundings state steps).2.world)).length ≤ 1) ∧
    ∀ earlier step later clusterId, steps = earlier ++ step :: later →
      step.cluster? = some clusterId →
      let before := (service.session metricsKept surroundings state earlier).2
      let taken := service.step metricsKept surroundings before step
      foreign clusterId (view taken.2.world) =
        foreign clusterId (view before.world) := by
  constructor
  · induction steps generalizing state with
    | nil => exact single
    | cons next steps ih =>
        obtain ⟨guardedNext, guardedRest⟩ := List.forall_mem_cons.mp guarded
        apply ih _ guardedRest
        exact service.step_single hasEffect metricsKept state guardedNext single
  · intro earlier step later clusterId split isAbout before taken
    exact service.step_foreign hasEffect metricsKept before isAbout

end Service

end Sessions

/-- A service for one cluster that makes every change and loses the reply.  It
lists no terminating probe. -/
structure ForgetfulService where
  terminated : Nat
  current : Option Bool
  deriving DecidableEq

namespace ForgetfulService

def probe (status : Status) : Probe where
  id := "p1"
  clusterId := "c1"
  status := status

/-- The probe that is not terminating: it has failed, or it is new. -/
def current? (service : ForgetfulService) : List Probe :=
  (service.current.map fun failed =>
    probe (if failed then .failed else .pending)).toList

def probes (service : ForgetfulService) : List Probe :=
  List.replicate service.terminated (probe .terminating) ++ service.current?

def listing (service : ForgetfulService) : Body :=
  .complete (Text.utf8Bytes (match service.current with
    | none => "\x7b\x7d"
    | some true =>
        "\x7b\"probes\":[\x7b\"id\":\"p1\",\"cluster_id\":\"c1\",\"status\":\"failed\"\x7d]\x7d"
    | some false =>
        "\x7b\"probes\":[\x7b\"id\":\"p1\",\"cluster_id\":\"c1\",\"status\":\"pending\"\x7d]\x7d").toList)

def drained (service : ForgetfulService) : ForgetfulService where
  terminated := service.terminated + service.current?.length
  current := none

def surroundings : Surroundings ForgetfulService where
  clock service := (⟨0⟩, service)
  deliver request service :=
    match request with
    | .token _ => (.hungUp, service)
    | .api request =>
        match request.call with
        | .lookup clusterId =>
            if clusterId = "c1" then (.reply 200 service.listing, service)
            else (.reply 404 (.complete []), service)
        | .terminate clusterId =>
            (.hungUp, if clusterId = "c1" then service.drained else service)
        | .create request =>
            if request.clusterId = "c1" ∧ service.current = none then
              (.reply 201 .truncated, { service with current := some false })
            else (.hungUp, service)

variable (service : ForgetfulService)

theorem foundProbes_listing :
    (Delivery.reply 200 service.listing).answer.bind (foundProbes "c1") =
      .ok service.current? := by
  -- The listing does not depend on the terminated probes, so none will do.
  have closed : ∀ current : Option Bool,
      (Delivery.reply 200 (listing ⟨0, current⟩)).answer.bind
        (foundProbes "c1") = .ok (current? ⟨0, current⟩) := by
    rintro (_ | _ | _) <;> decide +kernel
  exact closed service.current

theorem cluster?_of_mem {probe : Probe} (member : probe ∈ service.probes) :
    probe.cluster? = some "c1" := by
  unfold probes current? at member
  rcases List.mem_append.mp member with terminated | current
  · rw [List.eq_of_mem_replicate terminated]
    rfl
  · cases shown : service.current with
    | none => simp [shown] at current
    | some failed =>
        simp only [shown, Option.map_some, Option.toList_some,
          List.mem_singleton] at current
        rw [current]
        rfl

theorem isListing_current? :
    IsListing "c1" service.probes service.current? where
  sound probe member := by
    have inStore : probe ∈ service.probes := List.mem_append_right _ member
    have isOfCluster := service.cluster?_of_mem inStore
    simp [matching, inStore, isOfCluster]
  complete probe member := by
    obtain ⟨inStore, -, notTerminating⟩ := mem_running.mp member
    rcases List.mem_append.mp inStore with terminated | current
    · rw [List.eq_of_mem_replicate terminated] at notTerminating
      exact absurd rfl notTerminating
    · exact current

theorem isListing_nil {clusterId : String} (isOther : clusterId ≠ "c1") :
    IsListing clusterId service.probes [] where
  sound probe member := by cases member
  complete probe member := by
    obtain ⟨inStore, isOfCluster, -⟩ := mem_running.mp member
    rw [service.cluster?_of_mem inStore] at isOfCluster
    exact absurd (Option.some.inj isOfCluster).symm isOther

theorem probes_drained :
    service.drained.probes = service.probes.map (Probe.marked "c1") := by
  have marks : ∀ status, (probe status).marked "c1" = probe .terminating := by
    intro status
    rfl
  obtain ⟨terminated, current⟩ := service
  cases current with
  | none => simp [drained, probes, current?, marks]
  | some failed => simp [drained, probes, current?, marks, List.replicate_succ']

theorem hasEffect : surroundings.HasEffect probes FaultyEffect where
  clock service := rfl
  token request service := rfl
  api request service := by
    obtain ⟨call, url, tenant, bearer⟩ := request
    cases call with
    | lookup clusterId =>
        by_cases isOwn : clusterId = "c1"
        · subst isOwn
          refine .listed ?_
          intro listed found
          have same := service.foundProbes_listing.symm.trans found
          rw [← Except.ok.inj same]
          exact service.isListing_current?
        · simp only [surroundings, isOwn, if_false]
          refine .listed ?_
          intro listed found
          have none_found : listed = [] := (Except.ok.inj found).symm
          rw [none_found]
          exact service.isListing_nil isOwn
    | terminate clusterId =>
        by_cases isOwn : clusterId = "c1"
        · subst isOwn
          simp only [surroundings, if_true, probes_drained]
          exact .marked
        · simp only [surroundings, isOwn, if_false]
          exact .ignored .unanswered
    | create request =>
        by_cases adds : request.clusterId = "c1" ∧ service.current = none
        · simp only [surroundings, adds, and_self, if_true]
          have shows : ForgetfulService.probes ⟨service.terminated, some false⟩ =
              service.probes ++ [probe .pending] := by
            simp [probes, current?, adds.2]
          rw [shows]
          exact .added rfl (by rw [adds.1]; rfl)
        · simp only [surroundings, adds, if_false]
          exact .ignored .unanswered

end ForgetfulService

/-- A failed probe is terminated and a new one created although both replies are
lost; three passes and a deletion leave one running probe at most. -/
theorem session_single_forgetful :
    let service := Service.ofClient
      ⟨⟨{ scheme := .http, host := "probes" }, "hcp"⟩, none⟩ false 900
    let context : ClusterContext := ⟨"c1", "api", .publicOnly, none⟩
    let time := Timestamp.ofLocal 736694 0 0 0
    let state : SessionState ForgetfulService := { world := ⟨0, some true⟩ }
    let steps := [Step.ensure context, .ensure context, .ensure context,
      .deleteAt "c2" time time]
    let left := (service.session false ForgetfulService.surroundings state
      steps).2.world
    ForgetfulService.surroundings.HasEffect ForgetfulService.probes
        FaultyEffect ∧
      (∀ step ∈ steps, step.isGuarded = true) ∧
      (∀ clusterId, (running clusterId state.world.probes).length ≤ 1) ∧
      left = ⟨1, some false⟩ ∧
      (∀ clusterId, (running clusterId left.probes).length ≤ 1) := by
  intro service context time state steps left
  have guarded : ∀ step ∈ steps, step.isGuarded = true := by decide
  have single : ∀ clusterId,
      (running clusterId state.world.probes).length ≤ 1 := by
    intro clusterId
    exact Nat.le_trans (List.length_filter_le _ _) (List.length_filter_le _ _)
  have kept := service.session_single ForgetfulService.hasEffect false state steps
    guarded single
  exact ⟨ForgetfulService.hasEffect, guarded, single, by decide +kernel, kept.1⟩

end ProbeLifecycle
