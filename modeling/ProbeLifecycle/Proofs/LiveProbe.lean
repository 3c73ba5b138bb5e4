import ProbeLifecycle.Plan.Surroundings
import ProbeLifecycle.Proofs.Paths
import ProbeLifecycle.Proofs.RemoteStore
import ProbeLifecycle.Service.Session

/-!
# Whether a pass leaves a live probe

A service is considered that lists the probes of a cluster as they were created,
marks all of them as terminating, and adds new ones at the end, or that fails and
does so or not.  A pass that succeeds leaves a live probe, unless it takes a
terminating one for a good one because it is first in the listing and its label
agrees.  Such a probe is what a pass leaves that fails between termination and
creation.
-/

namespace ProbeLifecycle

open ProbeClient

/-- The probe is terminating if it belongs to the cluster. -/
def Probe.marked (clusterId : String) (probe : Probe) : Probe :=
  if probe.cluster? = some clusterId then { probe with status := .terminating }
  else probe

/-- A probe that has just been created for a request. -/
structure Probe.IsNew (probe : Probe) (request : ProbeRequest) : Prop where
  pending : probe.status = .pending
  cluster : probe.cluster? = some request.clusterId
  isPrivate : probe.isPrivate = request.isPrivate

/-- A probe that watches the cluster as desired. -/
structure Probe.IsLive (probe : Probe) (desired : ProbeRequest) : Prop where
  cluster : probe.cluster? = some desired.clusterId
  notFailed : probe.status ≠ .failed
  notTerminating : probe.status ≠ .terminating
  isPrivate : probe.isPrivate = desired.isPrivate

/-- What the service does with its probes.  What fails may be done or not. -/
inductive StoreEffect : Attempt → List Probe → List Probe → Prop where
  | listed {clusterId outcome store}
      (lists : ∀ probes, outcome.bind (foundProbes clusterId) = .ok probes →
        probes = matching clusterId store) :
      StoreEffect ⟨.lookup clusterId, outcome⟩ store store
  | marked {clusterId outcome store} :
      StoreEffect ⟨.terminate clusterId, outcome⟩ store
        (store.map (Probe.marked clusterId))
  | added {request outcome store probe} (isNew : probe.IsNew request) :
      StoreEffect ⟨.create request, outcome⟩ store (store ++ [probe])
  | ignored {attempt error store} (fails : Attempt.Fails attempt error) :
      StoreEffect attempt store store

/-- The first probe of the cluster is terminating with the label that is desired,
and no probe of the cluster is live. -/
def Stuck (desired : ProbeRequest) (store : List Probe) : Prop :=
  (∃ probe, (matching desired.clusterId store).head? = some probe ∧
      probe.status = .terminating ∧ probe.isPrivate = desired.isPrivate) ∧
    ¬ ∃ probe ∈ store, probe.IsLive desired

section Effects

variable {desired : ProbeRequest} {clusterId : String} {attempt : Attempt}
  {store later : List Probe}

theorem Probe.IsNew.isLive {probe : Probe} (isNew : probe.IsNew desired) :
    probe.IsLive desired where
  cluster := isNew.cluster
  notFailed := by simp [isNew.pending]
  notTerminating := by simp [isNew.pending]
  isPrivate := isNew.isPrivate

theorem lookup_lists {outcome : Except ProbeError Reply} {rest : List Attempt}
    {found : Option Probe}
    (looked : lookupResult clusterId outcome = .ok found)
    (alters :
      AltersBy StoreEffect (⟨.lookup clusterId, outcome⟩ :: rest) store later) :
    (matching clusterId store).head? = found ∧
      AltersBy StoreEffect rest store later := by
  cases alters with
  | vain rest => cases looked
  | made changes rest =>
      cases changes with
      | listed lists =>
          refine ⟨?_, rest⟩
          unfold lookupResult at looked
          cases listing : outcome.bind (foundProbes clusterId) with
          | error error =>
              rw [listing] at looked
              cases looked
          | ok probes =>
              rw [listing] at looked
              cases looked
              rw [lists probes listing]
      | ignored fails =>
          rw [lookupResult_eq_error.mpr fails] at looked
          cases looked

theorem finds_lists {probe : Probe} {rest : List Attempt}
    (finds : Attempt.Finds clusterId probe attempt)
    (alters : AltersBy StoreEffect (attempt :: rest) store later) :
    (matching clusterId store).head? = some probe ∧
      AltersBy StoreEffect rest store later := by
  obtain ⟨outcome, rfl, found⟩ := finds.outcome
  exact lookup_lists found alters

theorem findsNone_lists {rest : List Attempt}
    (findsNone : Attempt.FindsNone clusterId attempt)
    (alters : AltersBy StoreEffect (attempt :: rest) store later) :
    (matching clusterId store).head? = none ∧
      AltersBy StoreEffect rest store later := by
  obtain ⟨outcome, rfl, found⟩ := findsNone.outcome
  exact lookup_lists found alters

theorem creates_adds (creates : Attempt.Creates desired attempt)
    (alters : AltersBy StoreEffect [attempt] store later) :
    ∃ probe ∈ later, probe.IsLive desired := by
  obtain ⟨outcome, shown, rfl, created⟩ := creates.outcome
  cases alters with
  | vain rest => cases created
  | made changes rest =>
      cases rest
      cases changes with
      | @added _ _ _ probe isNew => exact ⟨probe, by simp, isNew.isLive⟩
      | ignored fails =>
          rw [creation_eq_error.mpr fails] at created
          cases created

/-- A probe that deviates from what is desired is not what a pass is stuck at. -/
theorem not_stuck_of_deviates {probe : Probe} {reason : ReplaceReason}
    (first : (matching desired.clusterId store).head? = some probe)
    (deviates : probe.Deviates desired reason) : ¬ Stuck desired store := by
  rintro ⟨⟨other, isFirst, terminating, agrees⟩, -⟩
  obtain rfl : probe = other := by
    rw [first] at isFirst
    exact Option.some.inj isFirst
  cases deviates with
  | failed isFailed => simp [Probe.isFailed, terminating] at isFailed
  | drift isNotFailed differs => exact differs agrees

/-- A pass that succeeds leaves a live probe, exactly unless it was stuck. -/
theorem Converges.live_iff {attempts : List Attempt} {outcome : EnsureOutcome}
    (converges : Converges desired attempts (.ok outcome))
    (alters : AltersBy StoreEffect attempts store later) :
    (∃ probe ∈ later, probe.IsLive desired) ↔ ¬ Stuck desired store := by
  cases converges with
  | @unchanged lookup probe finds agrees =>
      obtain ⟨first, rest⟩ := finds_lists finds alters
      cases rest
      have member := List.mem_of_head? first
      obtain ⟨inStore, isOfCluster⟩ := List.mem_filter.mp member
      constructor
      · intro live stuck
        exact stuck.2 live
      · intro notStuck
        -- A terminating probe with the right label is taken for a good one.
        by_cases terminating : probe.status = .terminating
        · by_contra noneLive
          exact notStuck ⟨⟨probe, first, terminating, agrees.2⟩, noneLive⟩
        · refine ⟨probe, inStore, ?_⟩
          exact {
            cluster := by simpa using isOfCluster
            notFailed := by simpa [Probe.isFailed] using agrees.1
            notTerminating := terminating
            isPrivate := agrees.2 }
  | created findsNone creates =>
      obtain ⟨first, rest⟩ := findsNone_lists findsNone alters
      refine iff_of_true (creates_adds creates rest) ?_
      rintro ⟨⟨probe, isFirst, -⟩, -⟩
      rw [first] at isFirst
      cases isFirst
  | replaced finds deviates deletes creates =>
      obtain ⟨first, rest⟩ := finds_lists finds alters
      obtain ⟨middle, deletion, creation⟩ := rest.split
      exact iff_of_true (creates_adds creates creation)
        (not_stuck_of_deviates first deviates)

end Effects

/-- A service with a probe of a public cluster, which can be terminated.  After that
the connection is lost when a public one shall be created, but a private one is added. -/
inductive LossyService where
  | failed
  | terminating
  | replaced
  deriving DecidableEq

namespace LossyService

def probe (status : Status) : Probe where
  clusterId := "c1"
  status := status

def added : Probe where
  clusterId := "c1"
  labels := Labels.empty.insert "private" "true"

def probes : LossyService → List Probe
  | failed => [probe .failed]
  | terminating => [probe .terminating]
  | replaced => [probe .terminating, added]

def listing (service : LossyService) : Body :=
  .complete (Text.utf8Bytes (match service with
    | failed =>
        "\x7b\"probes\":[\x7b\"cluster_id\":\"c1\",\"status\":\"failed\"\x7d]\x7d"
    | terminating =>
        "\x7b\"probes\":[\x7b\"cluster_id\":\"c1\",\"status\":\"terminating\"\x7d]\x7d"
    | replaced =>
        "\x7b\"probes\":[\x7b\"cluster_id\":\"c1\",\"status\":\"terminating\"\x7d," ++
          "\x7b\"cluster_id\":\"c1\",\"labels\":\x7b\"private\":\"true\"\x7d\x7d]\x7d").toList)

def surroundings : Surroundings LossyService where
  clock service := (⟨0⟩, service)
  deliver request service :=
    match request with
    | .token _ => (.hungUp, service)
    | .api request =>
        match request.call with
        | .lookup clusterId =>
            if clusterId = "c1" then (.reply 200 service.listing, service)
            else (.hungUp, service)
        | .terminate clusterId =>
            if clusterId = "c1" ∧ service ≠ .replaced then
              (.reply 202 (.complete []), .terminating)
            else (.hungUp, service)
        | .create request =>
            if request.clusterId = "c1" ∧ request.isPrivate = true ∧
                service = .terminating then
              (.reply 201 (.complete (Text.utf8Bytes "\x7b\x7d".toList)), .replaced)
            else (.hungUp, service)

theorem foundProbes_listing (service : LossyService) :
    (Delivery.reply 200 service.listing).answer.bind (foundProbes "c1") =
      .ok (matching "c1" service.probes) := by
  cases service <;> decide +kernel

theorem hasEffect : surroundings.HasEffect probes StoreEffect where
  clock service := rfl
  token request service := rfl
  api request service := by
    obtain ⟨call, url, tenant, bearer⟩ := request
    cases call with
    | lookup clusterId =>
        by_cases isOwn : clusterId = "c1"
        · subst isOwn
          refine .listed ?_
          intro probes found
          have listed := (foundProbes_listing service).symm.trans found
          exact (Except.ok.inj listed).symm
        · simp only [surroundings, isOwn, if_false]
          exact .ignored .unanswered
    | terminate clusterId =>
        by_cases marks : clusterId = "c1" ∧ service ≠ .replaced
        · obtain ⟨rfl, present⟩ := marks
          have marked : LossyService.terminating.probes =
              service.probes.map (Probe.marked "c1") := by
            cases service with
            | replaced => exact absurd rfl present
            | _ => rfl
          rw [surroundings]
          dsimp only
          rw [if_pos ⟨rfl, present⟩, marked]
          exact .marked
        · simp only [surroundings, marks, if_false]
          exact .ignored .unanswered
    | create request =>
        by_cases adds : request.clusterId = "c1" ∧ request.isPrivate = true ∧
            service = .terminating
        · obtain ⟨cluster, isPrivate, rfl⟩ := adds
          rw [surroundings]
          dsimp only
          rw [if_pos ⟨cluster, isPrivate, rfl⟩]
          have isNew : added.IsNew request :=
            ⟨rfl, by rw [cluster]; decide, by rw [isPrivate]; decide⟩
          exact .added isNew
        · simp only [surroundings, adds, if_false]
          exact .ignored .unanswered

end LossyService

section Passes

variable {ω : Type}

/-- After whatever a session has done, a pass over a usable cluster that succeeds
leaves a live probe, exactly unless it was stuck. -/
theorem ensure_leaves_live_iff (service : Service) (metricsKept : Bool)
    {surroundings : Surroundings ω} {view : ω → List Probe}
    (hasEffect : surroundings.HasEffect view StoreEffect)
    (state : SessionState ω) (earlier : List Step) {context : ClusterContext}
    {desired : ProbeRequest} (usable : context.desiredRequest = .ok desired)
    (wanted :
      context.isPrivate = true → service.reconciler.onlyPublicClusters = false) :
    let before := (service.session metricsKept surroundings state earlier).2
    let run := (service.reconciler.ensureProbe context).run.run surroundings
      before.cache before.world
    ∀ outcome, run.conclusion = .finished (.ok outcome) →
      ((∃ probe ∈ view run.world, probe.IsLive desired) ↔
        ¬ Stuck desired (view before.world)) := by
  intro before run outcome succeeded
  simp only [run, ← Procedure.plan_ensure, Procedure.ensure_eq_converge usable wanted]
    at succeeded ⊢
  obtain ⟨attempts, ends, alters⟩ :=
    altersBy_run hasEffect _ _ before.cache before.world succeeded
  exact (Procedure.ends_converge.mp ends).live_iff alters

/-- A pass that replaces a failed probe loses the connection when it creates the new one.
By the next pass the cluster is private, so the terminating probe is replaced as well. -/
theorem ensure_leaves_replacement :
    let service := Service.ofClient
      ⟨⟨{ scheme := .http, host := "probes" }, "hcp"⟩, none⟩ false 900
    let exposed : ClusterContext := ⟨"c1", "api", .publicOnly, none⟩
    let context : ClusterContext := ⟨"c1", "api", .privateOnly, none⟩
    let desired : ProbeRequest := ⟨"c1", "https://api/livez", none, true⟩
    let aborted := (service.reconciler.ensureProbe exposed).run.run
      LossyService.surroundings none .failed
    let before := (service.session false LossyService.surroundings
      { world := LossyService.failed } [.ensure exposed]).2
    let run := (service.reconciler.ensureProbe context).run.run
      LossyService.surroundings before.cache before.world
    aborted.conclusion =
        .finished (.error (.remote .create "c1" (.transport .hungUp))) ∧
      before.world = aborted.world ∧
      context.desiredRequest = .ok desired ∧
      run.conclusion = .finished (.ok (.replaced .drift)) ∧
      ¬ Stuck desired before.world.probes ∧
      ∃ probe ∈ run.world.probes, probe.IsLive desired := by
  intro service exposed context desired aborted before run
  have usable : context.desiredRequest = .ok desired := by decide +kernel
  have lost : aborted.conclusion =
      .finished (.error (.remote .create "c1" (.transport .hungUp))) := by
    decide +kernel
  have left : before.world = .terminating := by decide +kernel
  have leftToo : aborted.world = .terminating := by decide +kernel
  have succeeded : run.conclusion = .finished (.ok (.replaced .drift)) := by
    decide +kernel
  have notStuck : ¬ Stuck desired before.world.probes := by
    rw [left]
    rintro ⟨⟨probe, first, -, agrees⟩, -⟩
    obtain rfl := Option.some.inj first
    cases agrees
  exact ⟨lost, left.trans leftToo.symm, usable, succeeded, notStuck,
    (ensure_leaves_live_iff service false LossyService.hasEffect
      { world := .failed } [.ensure exposed] usable (fun _ => rfl) _ succeeded).mpr
        notStuck⟩

/-- A pass replaces a failed probe and loses the connection when it creates the
new one.  The next pass keeps the terminating probe and reports success. -/
theorem retry_leaves_terminating :
    let service := Service.ofClient
      ⟨⟨{ scheme := .http, host := "probes" }, "hcp"⟩, none⟩ false 900
    let context : ClusterContext := ⟨"c1", "api", .publicOnly, none⟩
    let desired : ProbeRequest := ⟨"c1", "https://api/livez", none, false⟩
    let aborted := (service.reconciler.ensureProbe context).run.run
      LossyService.surroundings none .failed
    let retried := (service.reconciler.ensureProbe context).run.run
      LossyService.surroundings aborted.cache aborted.world
    LossyService.surroundings.HasEffect LossyService.probes StoreEffect ∧
      context.desiredRequest = .ok desired ∧
      aborted.conclusion =
        .finished (.error (.remote .create "c1" (.transport .hungUp))) ∧
      retried.conclusion = .finished (.ok .unchanged) ∧
      ¬ ∃ probe ∈ retried.world.probes, probe.IsLive desired := by
  intro service context desired aborted retried
  have left : retried.world = .terminating := by decide +kernel
  refine ⟨LossyService.hasEffect, by decide +kernel, by decide +kernel,
    by decide +kernel, ?_⟩
  rw [left]
  rintro ⟨probe, member, live⟩
  obtain rfl := List.mem_singleton.mp member
  exact live.notTerminating rfl

end Passes

end ProbeLifecycle
