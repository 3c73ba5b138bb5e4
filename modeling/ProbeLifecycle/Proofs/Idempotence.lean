import ProbeLifecycle.Proofs.ReferenceService

/-!
# Repeating passes and deletions

Where the issuer grants every token and the service answers every request
faithfully, a pass over a cluster succeeds and leaves its first probe as desired,
and a deletion succeeds and leaves none.  A pass or a deletion after that makes
one request, which looks the probe up, and changes nothing.
-/

namespace ProbeLifecycle

open ProbeClient Text

section Attempts

variable {client : ProbeClient} {attempts : List Attempt}
  {exchanged : List (Request × Delivery)} {store later : List Probe}

/-- Exchanges without a fault are those of attempts without a fault, all of which
are sent; the probes keep to the states that have names. -/
theorem Served.serves (takesAll : client.TakesAll attempts exchanged)
    (representable : ∀ probe ∈ store, probe.IsRepresentable)
    (served : Served exchanged store later) :
    Serves attempts store later ∧ sentAttempts exchanged = attempts ∧
      ∀ probe ∈ later, probe.IsRepresentable := by
  have of_api : ∀ {request delivery rest attempts store},
      (∀ probe ∈ store, probe.IsRepresentable) →
      Served ((.api request, delivery) :: rest) store later →
      (∀ {middle}, (∀ probe ∈ middle, probe.IsRepresentable) →
        Served rest middle later →
        Serves attempts middle later ∧ sentAttempts rest = attempts ∧
          ∀ probe ∈ later, probe.IsRepresentable) →
      Serves (⟨request.call, delivery.answer⟩ :: attempts) store later ∧
        sentAttempts ((.api request, delivery) :: rest) =
          ⟨request.call, delivery.answer⟩ :: attempts ∧
        ∀ probe ∈ later, probe.IsRepresentable := by
    intro request delivery rest attempts store representable served next
    cases served with
    | api answers rest =>
        obtain ⟨effect, representable⟩ := answers.effect representable
        obtain ⟨serves, sent, kept⟩ := next representable rest
        exact ⟨.next effect serves, congrArg (_ :: ·) sent, kept⟩
  induction takesAll generalizing store with
  | none =>
      cases served
      exact ⟨.nil, rfl, representable⟩
  | next takes takesRest ih =>
      cases takes with
      | plain unauthenticated => exact of_api representable served ih
      | reused authenticated => exact of_api representable served ih
      | refreshed authenticated granted =>
          cases served with
          | token grantedToo rest => exact of_api representable rest ih
      | unprovided authenticated refusal =>
          -- Every token request is granted.
          cases served with
          | token granted rest =>
              rw [granted] at refusal
              cases refusal

end Attempts

section Runs

variable {ω : Type} (surroundings : Surroundings ω) {store later : List Probe}

theorem Procedure.run_faultFree {α : Type} (client : ProbeClient)
    (procedure : Procedure α) (cache : Option AccessToken) (world : ω)
    (representable : ∀ probe ∈ store, probe.IsRepresentable)
    (faultFree : ((procedure.plan client).run surroundings cache
      world).IsFaultFree client store later) :
    let run := (procedure.plan client).run surroundings cache world
    ∃ attempts result, run.conclusion = .finished result ∧
      procedure.Ends attempts result ∧ Serves attempts store later ∧
      sentAttempts (exchanges run.events) = attempts ∧
      ∀ probe ∈ later, probe.IsRepresentable := by
  obtain ⟨served, noOverflow⟩ := faultFree
  rcases Procedure.run_cases client surroundings procedure cache world with
    ⟨-, overflows⟩ | ⟨attempts, result, finished, ends, takesAll⟩
  · exact absurd overflows noOverflow
  · obtain ⟨serves, sent, kept⟩ := served.serves takesAll representable
    exact ⟨attempts, result, finished, ends, serves, sent, kept⟩

variable {desired : ProbeRequest}

/-- A pass without a fault succeeds and settles the cluster. -/
theorem Reconciler.ensure_faultFree (reconciler : Reconciler)
    {context : ClusterContext} (usable : context.desiredRequest = .ok desired)
    (wanted : context.isPrivate = true → reconciler.onlyPublicClusters = false)
    (representable : ∀ probe ∈ store, probe.IsRepresentable)
    (cache : Option AccessToken) (world : ω) :
    let run := (reconciler.ensureProbe context).run.run surroundings cache world
    run.IsFaultFree reconciler.client store later →
      ((∃ outcome, run.conclusion = .finished (.ok outcome)) ∧
          IsSettled desired later ∧
          ∀ probe ∈ later, probe.IsRepresentable) ∧
        (IsSettled desired store →
          run.conclusion = .finished (.ok .unchanged) ∧
            (sentAttempts (exchanges run.events)).map (·.call) =
              [.lookup desired.clusterId] ∧ later = store) := by
  rw [← Procedure.plan_ensure]
  intro run faultFree
  obtain ⟨attempts, result, finished, ends, serves, sent, kept⟩ :=
    Procedure.run_faultFree surroundings _ _ cache world representable faultFree
  rw [Procedure.ensure_eq_converge usable wanted] at ends
  have converges := Procedure.ends_converge.mp ends
  constructor
  · obtain ⟨⟨outcome, rfl⟩, settled⟩ := converges.of_serves serves
    exact ⟨⟨outcome, finished⟩, settled, kept⟩
  · intro settled
    obtain ⟨rfl, looks, same⟩ := converges.of_serves_settled serves settled
    exact ⟨finished, by rw [sent, looks], same⟩

/-- A deletion without a fault succeeds and leaves no probe of the cluster. -/
theorem DeletionPolicy.delete_faultFree (policy : DeletionPolicy)
    {clusterId : String} (notBlank : isBlank clusterId = false)
    (representable : ∀ probe ∈ store, probe.IsRepresentable)
    (requestedAt now : Timestamp) (cache : Option AccessToken) (world : ω) :
    let run := (policy.deleteProbeAt clusterId requestedAt now).run.run
      surroundings cache world
    run.IsFaultFree policy.client store later →
      run.conclusion = .finished (.ok .deleted) ∧
        later = foreign clusterId store ∧
        (∀ probe ∈ later, probe.IsRepresentable) ∧
        (matching clusterId store = [] →
          (sentAttempts (exchanges run.events)).map (·.call) =
            [.lookup clusterId]) := by
  rw [← Procedure.plan_deleteUnless]
  intro run faultFree
  obtain ⟨attempts, result, finished, ends, serves, sent, kept⟩ :=
    Procedure.run_faultFree surroundings _ _ cache world representable faultFree
  unfold Procedure.deleteUnless at ends
  rw [notBlank, if_neg Bool.false_ne_true] at ends
  obtain ⟨first, second, value, rfl, deleting, verdict⟩ :=
    Procedure.ends_bind.mp ends
  have deletes := Procedure.ends_delete.mp deleting
  obtain ⟨middle, servesFirst, servesSecond⟩ := serves.split
  obtain ⟨rfl, rfl⟩ := deletes.of_serves servesFirst
  obtain ⟨rfl, rfl⟩ := Procedure.ends_finish.mp verdict
  cases servesSecond
  rw [List.append_nil] at sent
  refine ⟨finished, rfl, kept, ?_⟩
  intro none
  rw [sent]
  exact deletes.of_serves_none servesFirst none

/-- Where every request is answered without a fault:

* a pass over a usable cluster that is not skipped succeeds, after which the first
  probe of the cluster has not failed and is private as the cluster is; another
  pass then answers that nothing has changed, makes one request, which looks the
  probe up, and leaves the probes as they are;
* a deletion succeeds, after which the cluster has no probe; another deletion then
  succeeds, makes one request, which looks the probe up, and leaves the probes as
  they are. -/
theorem faultFree_idempotent (reconciler : Reconciler)
    (context : ClusterContext) (hasId : isBlank context.clusterId = false)
    (hasHostname : isBlank context.apiServerHostname = false)
    (wanted : context.isPrivate = true → reconciler.onlyPublicClusters = false)
    (policy : DeletionPolicy) {clusterId : String}
    (notBlank : isBlank clusterId = false) (cache : Option AccessToken)
    (world : ω) {store : List Probe}
    (representable : ∀ probe ∈ store, probe.IsRepresentable) :
    let ensure := (reconciler.ensureProbe context).run.run surroundings
    let delete := fun requestedAt now =>
      (policy.deleteProbeAt clusterId requestedAt now).run.run surroundings
    let pass := ensure cache world
    (∀ settled, pass.IsFaultFree reconciler.client store settled →
      (∃ outcome, pass.conclusion = .finished (.ok outcome)) ∧
        (∃ probe, (matching context.clusterId settled).head? = some probe ∧
          probe.isFailed = false ∧ probe.isPrivate = context.isPrivate) ∧
        let next := ensure pass.cache pass.world
        ∀ later, next.IsFaultFree reconciler.client settled later →
          next.conclusion = .finished (.ok .unchanged) ∧
            (sentAttempts (exchanges next.events)).map (·.call) =
              [.lookup context.clusterId] ∧
            later = settled) ∧
      ∀ requestedAt now,
        let deletion := delete requestedAt now cache world
        ∀ emptied, deletion.IsFaultFree policy.client store emptied →
          deletion.conclusion = .finished (.ok .deleted) ∧
            matching clusterId emptied = [] ∧
            ∀ requestedAt now,
              let next := delete requestedAt now deletion.cache deletion.world
              ∀ later, next.IsFaultFree policy.client emptied later →
                next.conclusion = .finished (.ok .deleted) ∧
                  (sentAttempts (exchanges next.events)).map (·.call) =
                    [.lookup clusterId] ∧
                  later = emptied := by
  intro ensure delete pass
  have usable : context.desiredRequest = .ok
      ⟨context.clusterId, context.probeUrl,
        context.effectiveManagementClusterId, context.isPrivate⟩ :=
    ClusterContext.desiredRequest_eq_ok.mpr ⟨hasId, hasHostname, rfl⟩
  constructor
  · intro settled faultFree
    obtain ⟨⟨succeeds, isSettled, kept⟩, -⟩ := reconciler.ensure_faultFree
      surroundings usable wanted representable cache world faultFree
    refine ⟨succeeds, isSettled, ?_⟩
    intro next later faultFreeNext
    exact (reconciler.ensure_faultFree surroundings usable wanted kept pass.cache
      pass.world faultFreeNext).2 isSettled
  · intro requestedAt now deletion emptied faultFree
    obtain ⟨succeeds, rfl, kept, -⟩ := policy.delete_faultFree surroundings
      notBlank representable requestedAt now cache world faultFree
    refine ⟨succeeds, matching_foreign, ?_⟩
    intro requestedAt now next later faultFreeNext
    obtain ⟨succeedsNext, rfl, -, looks⟩ := policy.delete_faultFree surroundings
      notBlank kept requestedAt now deletion.cache deletion.world faultFreeNext
    exact ⟨succeedsNext, looks matching_foreign,
      foreign_of_matching_nil matching_foreign⟩

/-- The first of two probes has failed and the state of the other is unknown; a
pass and a deletion, each of them made twice. -/
theorem faultFree_idempotent_failed :
    let provider : TokenProvider := ⟨⟨"hcp", "secret", "http://issuer", none⟩, 0⟩
    let client : ProbeClient :=
      ⟨⟨{ scheme := .http, host := "probes" }, "hcp"⟩, some provider⟩
    let store : List Probe :=
      [{ id := "p1", clusterId := "c1", status := .failed },
        { id := "p2", clusterId := "c2", status := .active },
        { id := "p3", clusterId := "c1", status := .other "paused" }]
    let context : ClusterContext := ⟨"c1", "api", .privateOnly, none⟩
    let ensure := ((⟨client, false⟩ : Reconciler).ensureProbe context).run.run
      ReferenceService.surroundings
    let time := Timestamp.ofLocal 736694 0 0 0
    let delete := ((⟨client, 900⟩ : DeletionPolicy).deleteProbeAt "c1" time
      time).run.run ReferenceService.surroundings
    let pass := ensure none store
    let next := ensure pass.cache pass.world
    let deletion := delete none store
    let again := delete deletion.cache deletion.world
    (∀ probe ∈ store, probe.IsRepresentable) ∧
      pass.IsFaultFree client store pass.world ∧
      next.IsFaultFree client pass.world next.world ∧
      deletion.IsFaultFree client store deletion.world ∧
      again.IsFaultFree client deletion.world again.world ∧
      (∃ outcome, pass.conclusion = .finished (.ok outcome)) ∧
      next.conclusion = .finished (.ok .unchanged) ∧
      next.world = pass.world ∧
      deletion.conclusion = .finished (.ok .deleted) ∧
      matching "c1" deletion.world = [] ∧
      again.conclusion = .finished (.ok .deleted) ∧
      again.world = deletion.world := by
  intro provider client store context ensure time delete pass next deletion again
  have representable : ∀ probe ∈ store, probe.IsRepresentable := by
    unfold Probe.IsRepresentable
    decide
  have canSend : ReferenceService.CanSend client := by
    constructor
    · rintro _ ⟨⟩
      decide +kernel
    · decide
  have empty : ReferenceService.Holds none := by
    rintro _ ⟨⟩
  have ensures : ∀ cache store, ReferenceService.Holds cache →
      (ensure cache store).IsFaultFree client store (ensure cache store).world ∧
        ReferenceService.Holds (ensure cache store).cache :=
    fun cache store holds => ReferenceService.isFaultFree canSend
      (CarriesOut.ensureProbe ⟨client, false⟩ context) holds store
  have deletes : ∀ cache store, ReferenceService.Holds cache →
      (delete cache store).IsFaultFree client store (delete cache store).world ∧
        ReferenceService.Holds (delete cache store).cache :=
    fun cache store holds => ReferenceService.isFaultFree canSend
      (CarriesOut.deleteProbeAt ⟨client, 900⟩ "c1" time time) holds store
  obtain ⟨passFree, passHolds⟩ := ensures none store empty
  obtain ⟨nextFree, -⟩ := ensures pass.cache pass.world passHolds
  obtain ⟨deletionFree, deletionHolds⟩ := deletes none store empty
  obtain ⟨againFree, -⟩ := deletes deletion.cache deletion.world deletionHolds
  obtain ⟨passes, deletions⟩ := faultFree_idempotent ReferenceService.surroundings
    ⟨client, false⟩ context (by decide) (by decide) (fun _ => rfl) ⟨client, 900⟩
    (show isBlank "c1" = false by decide) none store representable
  obtain ⟨succeeds, -, repeats⟩ := passes pass.world passFree
  obtain ⟨unchanged, -, kept⟩ := repeats next.world nextFree
  obtain ⟨deleted, none, deletesAgain⟩ :=
    deletions time time deletion.world deletionFree
  obtain ⟨deletedAgain, -, keptAgain⟩ :=
    deletesAgain time time again.world againFree
  exact ⟨representable, passFree, nextFree, deletionFree, againFree, succeeds,
    unchanged, kept, deleted, none, deletedAgain, keptAgain⟩

end Runs

end ProbeLifecycle
