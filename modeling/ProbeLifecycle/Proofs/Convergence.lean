import ProbeLifecycle.Proofs.Paths

/-!
# What a pass decides

The result of a pass and the attempts that it has made are related as in a
decision procedure: each result stands for certain attempts with certain
outcomes, and is given for no others.  Nothing is attempted for a cluster whose
description is unusable or that is to be skipped.
-/

namespace ProbeLifecycle

open ProbeClient Text

section Results

variable {desired : ProbeRequest} {attempts : List Attempt}
  {result : Except SyncError EnsureOutcome}

theorem converges_unchanged :
    Converges desired attempts (.ok .unchanged) ↔
      ∃ lookup probe, attempts = [lookup] ∧
        Attempt.Finds desired.clusterId probe lookup ∧ probe.Agrees desired := by
  constructor
  · intro converges
    cases converges with
    | unchanged finds agrees => exact ⟨_, _, rfl, finds, agrees⟩
  · rintro ⟨lookup, probe, rfl, finds, agrees⟩
    exact .unchanged finds agrees

theorem converges_created :
    Converges desired attempts (.ok .created) ↔
      ∃ lookup creation, attempts = [lookup, creation] ∧
        Attempt.FindsNone desired.clusterId lookup ∧
        Attempt.Creates desired creation := by
  constructor
  · intro converges
    cases converges with
    | created findsNone creates => exact ⟨_, _, rfl, findsNone, creates⟩
  · rintro ⟨lookup, creation, rfl, findsNone, creates⟩
    exact .created findsNone creates

theorem converges_replaced {reason : ReplaceReason} :
    Converges desired attempts (.ok (.replaced reason)) ↔
      ∃ lookup probe deletion creation,
        attempts = lookup :: deletion ++ [creation] ∧
        Attempt.Finds desired.clusterId probe lookup ∧
        probe.Deviates desired reason ∧
        Deletes desired.clusterId deletion (.ok ()) ∧
        Attempt.Creates desired creation := by
  constructor
  · intro converges
    cases converges with
    | replaced finds deviates deletes creates =>
        exact ⟨_, _, _, _, rfl, finds, deviates, deletes, creates⟩
  · rintro ⟨lookup, probe, deletion, creation, rfl, finds, deviates, deletes,
      creates⟩
    exact .replaced finds deviates deletes creates

theorem converges_remote {stage : Stage} {clusterId : String}
    {error : ProbeError} :
    Converges desired attempts (.error (.remote stage clusterId error)) ↔
      clusterId = desired.clusterId ∧ Stops desired attempts stage error := by
  constructor
  · intro converges
    cases converges with
    | stopped stops => exact ⟨rfl, stops⟩
  · rintro ⟨rfl, stops⟩
    exact .stopped stops

end Results

/-- What the result of a pass says about its attempts, and what these say about
the result. -/
structure Reconciler.Decided (reconciler : Reconciler)
    (context : ClusterContext) (exchanged : List (Request × Delivery))
    (attempts : List Attempt) (result : Except SyncError EnsureOutcome) :
    Prop where
  taken : reconciler.client.TakesAll attempts exchanged
  emptyClusterId :
    result = .error .emptyClusterId ↔ isBlank context.clusterId = true
  skipped :
    result = .ok .skipped ↔
      isBlank context.clusterId = false ∧ context.isPrivate = true ∧
        reconciler.onlyPublicClusters = true
  missingHostname : ∀ clusterId,
    result = .error (.missingHostname clusterId) ↔
      clusterId = context.clusterId ∧ isBlank context.clusterId = false ∧
        (context.isPrivate = true → reconciler.onlyPublicClusters = false) ∧
        isBlank context.apiServerHostname = true
  idle :
    exchanged = [] ↔
      result = .error .emptyClusterId ∨ result = .ok .skipped ∨
        result = .error (.missingHostname context.clusterId)
  unchanged :
    result = .ok .unchanged ↔
      ∃ desired lookup probe, context.desiredRequest = .ok desired ∧
        attempts = [lookup] ∧
        Attempt.Finds context.clusterId probe lookup ∧ probe.Agrees desired
  created :
    result = .ok .created ↔
      ∃ desired lookup creation, context.desiredRequest = .ok desired ∧
        attempts = [lookup, creation] ∧
        Attempt.FindsNone context.clusterId lookup ∧
        Attempt.Creates desired creation
  replaced : ∀ reason,
    result = .ok (.replaced reason) ↔
      ∃ desired lookup probe deletion creation,
        context.desiredRequest = .ok desired ∧
        attempts = lookup :: deletion ++ [creation] ∧
        Attempt.Finds context.clusterId probe lookup ∧
        probe.Deviates desired reason ∧
        Deletes context.clusterId deletion (.ok ()) ∧
        Attempt.Creates desired creation
  remote : ∀ stage clusterId error,
    result = .error (.remote stage clusterId error) ↔
      clusterId = context.clusterId ∧
        ∃ desired, context.desiredRequest = .ok desired ∧
          Stops desired attempts stage error

section Passes

variable {reconciler : Reconciler} {context : ClusterContext}
  {exchanged : List (Request × Delivery)} {attempts : List Attempt}
  {result : Except SyncError EnsureOutcome}

theorem ProbeClient.TakesAll.eq_nil_iff {client : ProbeClient}
    (takesAll : client.TakesAll attempts exchanged) :
    exchanged = [] ↔ attempts = [] := by
  cases takesAll with
  | none => simp
  | next takes rest =>
      cases takes <;> simp

theorem decided_nil
    (idle :
      result = .error .emptyClusterId ∨ result = .ok .skipped ∨
        result = .error (.missingHostname context.clusterId))
    (emptyClusterId :
      result = .error .emptyClusterId ↔ isBlank context.clusterId = true)
    (skipped :
      result = .ok .skipped ↔
        isBlank context.clusterId = false ∧ context.isPrivate = true ∧
          reconciler.onlyPublicClusters = true)
    (missingHostname :
      result = .error (.missingHostname context.clusterId) ↔
        isBlank context.clusterId = false ∧
          (context.isPrivate = true → reconciler.onlyPublicClusters = false) ∧
          isBlank context.apiServerHostname = true) :
    reconciler.Decided context [] [] result where
  taken := .none
  emptyClusterId := emptyClusterId
  skipped := skipped
  missingHostname clusterId := by
    constructor
    · rintro rfl
      have equal : clusterId = context.clusterId := by simpa using idle
      subst equal
      exact ⟨rfl, missingHostname.mp rfl⟩
    · rintro ⟨rfl, missing⟩
      exact missingHostname.mpr missing
  idle := iff_of_true rfl idle
  unchanged := by rcases idle with rfl | rfl | rfl <;> simp
  created := by rcases idle with rfl | rfl | rfl <;> simp
  replaced reason := by rcases idle with rfl | rfl | rfl <;> simp
  remote stage clusterId error := by
    have notStopped : ∀ desired, ¬ Stops desired [] stage error :=
      fun desired stops => stops.ne_nil rfl
    rcases idle with rfl | rfl | rfl <;> simp [notStopped]

theorem decided_of_converges {desired : ProbeRequest}
    (taken : reconciler.client.TakesAll attempts exchanged)
    (usable : context.desiredRequest = .ok desired)
    (wanted : context.isPrivate = true → reconciler.onlyPublicClusters = false)
    (converges : Converges desired attempts result) :
    reconciler.Decided context exchanged attempts result := by
  obtain ⟨notBlank, hasHostname, shape⟩ :=
    ClusterContext.desiredRequest_eq_ok.mp usable
  have sameCluster : desired.clusterId = context.clusterId := by rw [shape]
  have notEmpty : result ≠ .error .emptyClusterId := by
    rintro rfl
    cases converges
  have notSkipped : result ≠ .ok .skipped := by
    rintro rfl
    cases converges
  have notMissing : ∀ clusterId, result ≠ .error (.missingHostname clusterId) := by
    rintro clusterId rfl
    cases converges
  refine {
    taken := taken
    emptyClusterId := by simp [notEmpty, notBlank]
    skipped := iff_of_false notSkipped ?_
    missingHostname := by simp [notMissing, hasHostname]
    idle := ?_
    unchanged := ?_
    created := ?_
    replaced := ?_
    remote := ?_ }
  · rintro ⟨-, isPrivate, onlyPublic⟩
    rw [wanted isPrivate] at onlyPublic
    cases onlyPublic
  · rw [taken.eq_nil_iff]
    exact iff_of_false converges.ne_nil
      (by simp [notEmpty, notSkipped, notMissing])
  · rw [converges.result_eq_iff, converges_unchanged]
    simp [usable, sameCluster]
  · rw [converges.result_eq_iff, converges_created]
    simp [usable, sameCluster]
  · intro reason
    rw [converges.result_eq_iff, converges_replaced]
    simp [usable, sameCluster]
  · intro stage clusterId error
    rw [converges.result_eq_iff, converges_remote]
    simp [usable, sameCluster]

/-- The attempts after which a pass ends determine its result and the other way
around. -/
theorem decided_of_ends
    (taken : reconciler.client.TakesAll attempts exchanged)
    (ends :
      (Procedure.ensure reconciler.onlyPublicClusters context).Ends attempts
        result) :
    reconciler.Decided context exchanged attempts result := by
  have nothing : attempts = [] → exchanged = [] :=
    taken.eq_nil_iff.mpr
  unfold Procedure.ensure at ends
  cases blank : isBlank context.clusterId with
  | true =>
      simp only [blank, if_true, Procedure.ends_finish] at ends
      obtain ⟨rfl, rfl⟩ := ends
      rw [nothing rfl]
      exact decided_nil (by simp) (by simp [blank]) (by simp [blank])
        (by simp [blank])
  | false =>
      cases skip : context.isPrivate && reconciler.onlyPublicClusters with
      | true =>
          simp only [blank, skip, if_true, Bool.false_eq_true, if_false,
            Procedure.ends_finish] at ends
          obtain ⟨rfl, rfl⟩ := ends
          rw [nothing rfl]
          rw [Bool.and_eq_true] at skip
          exact decided_nil (by simp) (by simp [blank]) (by simp [blank, skip])
            (by simp [skip])
      | false =>
          have wanted : context.isPrivate = true →
              reconciler.onlyPublicClusters = false := by
            simpa using skip
          simp only [blank, skip, Bool.false_eq_true, if_false] at ends
          cases usable : context.desiredRequest with
          | ok desired =>
              rw [usable] at ends
              exact decided_of_converges taken usable wanted
                (Procedure.ends_converge.mp ends)
          | error error =>
              rw [usable] at ends
              obtain ⟨rfl, rfl⟩ := Procedure.ends_finish.mp ends
              rw [nothing rfl]
              obtain ⟨missing, rfl⟩ :=
                ClusterContext.desiredRequest_eq_error blank usable
              refine decided_nil (by simp) (by simp [blank]) ?_
                (by simpa [blank, missing] using wanted)
              refine iff_of_false (by simp) ?_
              rintro ⟨-, isPrivate, onlyPublic⟩
              simp [isPrivate, onlyPublic] at skip

/-- Whatever the surroundings do, a pass breaks off only because the clock cannot
represent the expiry of a token that was granted; otherwise its result and its
attempts are those of the decision procedure. -/
theorem ensureProbe_decided {ω : Type} (reconciler : Reconciler)
    (context : ClusterContext) (surroundings : Surroundings ω)
    (cache : Option AccessToken) (world : ω) :
    let run := (reconciler.ensureProbe context).run.run surroundings cache world
    (run.conclusion = .halted .clockOverflow ∧
        reconciler.client.Overflows run.events) ∨
      ∃ attempts result, run.conclusion = .finished result ∧
        reconciler.Decided context (exchanges run.events) attempts result := by
  rw [← Procedure.plan_ensure]
  rcases Procedure.run_cases reconciler.client surroundings _ cache world with
    overflows | ⟨attempts, result, finished, ends, taken⟩
  · exact .inl overflows
  · exact .inr ⟨attempts, result, finished, decided_of_ends taken ends⟩

end Passes

end ProbeLifecycle
