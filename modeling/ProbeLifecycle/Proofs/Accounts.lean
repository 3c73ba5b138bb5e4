import ProbeLifecycle.Plan.Surroundings
import ProbeLifecycle.Proofs.Balance
import ProbeLifecycle.Proofs.WebEffects

/-!
# What the metrics account for

Nothing happens in a session but that operations invoke methods, obtain tokens and
answer.  The series that count agree with all of it: every invocation is counted
once, by its outcome, and so is every refresh of the token and every deletion that
fails open.
-/

namespace ProbeLifecycle

namespace Step

/-- What is done to keep probes as they should be: all but to create or delete a
probe directly. -/
def isManaging : Step → Bool
  | .create _ => false
  | .delete _ => false
  | _ => true

inductive Manages : Step → Prop where
  | get {clusterId} : Manages (.get clusterId)
  | ensure {context} : Manages (.ensure context)
  | deleteAt {clusterId requestedAt now} :
      Manages (.deleteAt clusterId requestedAt now)

theorem manages_of_operation? {step operation : Step}
    (managing : step.isManaging = true)
    (isOperation : step.operation? = some operation) : operation.Manages := by
  cases step with
  | create request => cases managing
  | delete clusterId => cases managing
  | web request now =>
      cases Web.Request.asksFor_of_operation? isOperation with
      | get => exact .get
      | ensure => exact .ensure
      | deleteAt => exact .deleteAt
  | get clusterId =>
      cases isOperation
      exact .get
  | ensure context =>
      cases isOperation
      exact .ensure
  | deleteAt clusterId requestedAt now =>
      cases isOperation
      exact .deleteAt

end Step

def StepReport.isFinished (report : StepReport) : Bool :=
  match report.conclusion with
  | .finished _ => true
  | .halted _ => false

theorem StepReport.exists_answer {report : StepReport}
    (finished : report.isFinished = true) :
    ∃ answer, report.conclusion = .finished answer := by
  unfold isFinished at finished
  split at finished
  · exact ⟨_, ‹_›⟩
  · cases finished

namespace Service

/-- The methods that are invoked while operations are carried out one after the
other.  An operation has the same plan whatever was measured before. -/
inductive InvokesAll {ω : Type} (service : Service) (metricsKept : Bool)
    (surroundings : Surroundings ω) :
    SessionState ω → List Step → List Invocation → Prop where
  | nil {state} : InvokesAll service metricsKept surroundings state [] []
  | cons {state operation operations answer invoked later}
      (invokes : service.client.Invokes surroundings (service.plan none operation)
        state.cache state.world invoked answer)
      (rest : InvokesAll service metricsKept surroundings
        (service.step metricsKept surroundings state operation).2 operations later) :
      InvokesAll service metricsKept surroundings state (operation :: operations)
        (invoked ++ later)

/-- The series that count agree with the invocations in a session and with its
reports. -/
structure Accounts (onlyPublicClusters : Bool) (entries : List Entry)
    (invoked : List Invocation) (recorded : String → Nat) : Prop where
  totals : ∀ operation success,
    recorded (requestTotalSeries operation success) =
      invoked.count ⟨operation, success⟩
  durations : ∀ operation success,
    recorded (requestDurationSeries operation success) =
      invoked.count ⟨operation, success⟩
  lookups :
    recorded (requestTotalSeries .getProbe true) +
        recorded (requestTotalSeries .getProbe false) =
      entries.countP (·.step.looksUp) +
        entries.countP (·.step.works onlyPublicClusters) +
          (recorded (requestTotalSeries .deleteProbe true) +
            recorded (requestTotalSeries .deleteProbe false))
  deletions :
    recorded (requestTotalSeries .deleteProbe true) +
        recorded (requestTotalSeries .deleteProbe false) =
      entries.countP (·.step.deletes) +
        entries.countP fun entry => entry.step.replaces entry.report.events
  failedDeletions :
    recorded (requestTotalSeries .deleteProbe false) =
      entries.countP (·.answers Answer.failsOpen) +
        entries.countP (·.answers (Answer.failsIn .delete)) +
          entries.countP (·.answers (Answer.failsIn .deleteFailed)) +
            entries.countP (·.answers (Answer.failsIn .deleteDrifted))
  creations :
    recorded (requestTotalSeries .createProbe true) =
      entries.countP (·.answers Answer.isCreated) +
        entries.countP (·.answers Answer.isReplaced)
  failedCreations :
    recorded (requestTotalSeries .createProbe false) =
      entries.countP (·.answers (Answer.failsIn .create))
  timeouts :
    recorded deletionTimeoutSeries = entries.countP (·.answers Answer.failsOpen)
  refreshes :
    recorded (refreshTotalSeries true) + recorded (refreshTotalSeries false) =
      (exchanges (entries.flatMap (·.report.events))).countP fun exchange =>
        exchange.1.isToken
  refreshDurations :
    recorded refreshDurationSeries =
      (exchanges (entries.flatMap (·.report.events))).countP fun exchange =>
        exchange.1.isToken

theorem countP_operation (invoked : List Invocation) (operation : Operation) :
    invoked.countP (·.operation == operation) =
      invoked.count ⟨operation, true⟩ + invoked.count ⟨operation, false⟩ := by
  induction invoked with
  | nil => rfl
  | cons invocation invoked ih =>
      obtain ⟨other, success⟩ := invocation
      rw [List.countP_cons, List.count_cons, List.count_cons, ih]
      cases success <;> simp <;> omega

theorem countP_isRefresh (measured : List Measurement) :
    measured.countP Measurement.isRefresh =
      measured.count (.tokenRefresh true) + measured.count (.tokenRefresh false) := by
  induction measured with
  | nil => rfl
  | cons measurement measured ih =>
      rw [List.countP_cons, List.count_cons, List.count_cons, ih]
      cases measurement with
      | tokenRefresh success => cases success <;> simp [Measurement.isRefresh] <;> omega
      | _ => simp [Measurement.isRefresh]

theorem accounts_of_balanced {onlyPublicClusters : Bool} {entries : List Entry}
    {invoked : List Invocation}
    (balanced : Balanced onlyPublicClusters entries invoked) :
    let measured := measurements (entries.flatMap (·.report.events))
    Accounts onlyPublicClusters entries invoked
      (Tally.ofMeasurements measured).recorded := by
  intro measured
  have recorded_eq : ∀ {counted name}, Measurement.Counts counted name →
      (Tally.ofMeasurements measured).recorded name = measured.countP counted :=
    fun counts => (Tally.recorded_append counts [] measured).trans (Nat.zero_add _)
  have requested : ∀ {operation success name},
      name ∈ (Measurement.request operation success).series →
        (Tally.ofMeasurements measured).recorded name =
          invoked.count ⟨operation, success⟩ := by
    intro operation success name member
    rw [recorded_eq (Measurement.counts_request member), ← balanced.counted,
      count_invocations]
    rfl
  have totals : ∀ operation success,
      (Tally.ofMeasurements measured).recorded
          (requestTotalSeries operation success) =
        invoked.count ⟨operation, success⟩ :=
    fun operation success => requested (List.mem_pair.mpr (.inr rfl))
  have refreshes := balanced.refreshes
  constructor
  · exact totals
  · exact fun operation success => requested (List.mem_pair.mpr (.inl rfl))
  · simp only [totals, ← countP_operation]
    exact balanced.lookups
  · simp only [totals, ← countP_operation]
    exact balanced.deletions
  · rw [totals]
    exact balanced.failedDeletions
  · rw [totals]
    exact balanced.creations
  · rw [totals]
    exact balanced.failedCreations
  · rw [recorded_eq Measurement.counts_deletionTimeout]
    exact balanced.timeouts
  · rw [recorded_eq (Measurement.counts_refreshTotal true),
      recorded_eq (Measurement.counts_refreshTotal false)]
    exact (countP_isRefresh measured).symm.trans refreshes
  · rw [recorded_eq Measurement.counts_refreshDuration]
    exact refreshes

section Sessions

variable {ω : Type} (client : ProbeClient) (onlyPublicClusters : Bool)
  (deletionTimeout : Nat) (metricsKept : Bool) (surroundings : Surroundings ω)
  (state : SessionState ω)

theorem balanced_step {operation : Step} (manages : operation.Manages)
    {answer : Answer} :
    let service := ofClient client onlyPublicClusters deletionTimeout
    let report := (service.step metricsKept surroundings state operation).1
    report.conclusion = .finished answer →
      ∃ invoked,
        client.Invokes surroundings (service.plan none operation) state.cache
          state.world invoked answer ∧
        Balanced onlyPublicClusters [⟨operation, report⟩] invoked := by
  intro service report ended
  -- An operation does not look at the metrics.
  have plan_eq : ∀ tally,
      service.plan tally operation = service.plan none operation := by
    intro tally
    cases manages <;> rfl
  have isReport : report = ⟨.finished answer,
      ((service.plan none operation).run surroundings state.cache
        state.world).events⟩ := by
    simp only [report, step, plan_eq] at ended ⊢
    rw [ended]
  simp only [report, step, plan_eq] at ended
  rw [isReport]
  cases manages with
  | get =>
      simp only [plan, surroundings.run_map] at ended ⊢
      obtain ⟨found, finished, rfl⟩ := Conclusion.map_eq_finished.mp ended
      obtain ⟨invokes, balanced⟩ := balanced_get finished
      exact ⟨_, invokes.map _, balanced⟩
  | ensure =>
      simp only [plan, surroundings.run_map] at ended ⊢
      obtain ⟨result, finished, rfl⟩ := Conclusion.map_eq_finished.mp ended
      obtain ⟨invoked, invokes, balanced⟩ := balanced_ensure finished
      exact ⟨invoked, invokes.map _, balanced⟩
  | deleteAt =>
      simp only [plan, surroundings.run_map] at ended ⊢
      obtain ⟨result, finished, rfl⟩ := Conclusion.map_eq_finished.mp ended
      obtain ⟨invoked, invokes, balanced⟩ := balanced_deleteProbeAt finished
      exact ⟨invoked, invokes.map _, balanced⟩

/-- Operations that all end are balanced, and are all that is measured. -/
theorem balanced_session {operations : List Step}
    (manages : ∀ operation ∈ operations, operation.Manages) :
    let service := ofClient client onlyPublicClusters deletionTimeout
    let taken := service.session metricsKept surroundings state operations
    let entries := List.zipWith Entry.mk operations taken.1
    (∀ report ∈ taken.1, ∃ answer, report.conclusion = .finished answer) →
      taken.2.measured =
          state.measured ++ measurements (entries.flatMap (·.report.events)) ∧
        ∃ invoked,
          service.InvokesAll metricsKept surroundings state operations invoked ∧
          Balanced onlyPublicClusters entries invoked := by
  intro service
  -- The next operation meets what the ones before have left, so the state is general.
  induction operations generalizing state with
  | nil =>
      intro taken entries finished
      exact ⟨(List.append_nil _).symm, [], .nil, .nil⟩
  | cons operation operations ih =>
      intro taken entries finished
      let now := service.step metricsKept surroundings state operation
      obtain ⟨managesNow, managesLater⟩ := List.forall_mem_cons.mp manages
      obtain ⟨⟨answer, finishedNow⟩, finishedLater⟩ := List.forall_mem_cons.mp finished
      obtain ⟨invoked, invokes, balanced⟩ := balanced_step client onlyPublicClusters
        deletionTimeout metricsKept surroundings state managesNow finishedNow
      obtain ⟨measured, later, invokesLater, balancedLater⟩ :=
        ih now.2 managesLater finishedLater
      refine ⟨?_, invoked ++ later, .cons invokes invokesLater,
        balanced.append balancedLater⟩
      rw [show taken.2.measured = _ from measured]
      simp only [entries, taken, session, List.zipWith_cons_cons, List.flatMap_cons,
        measurements_append, now, step, List.append_assoc]

/-- What has been measured in a session that was not broken off accounts for all that
was done: the methods that were invoked, the refreshes of the token, and the answers
that were given. -/
theorem session_accounts (cache : Option AccessToken) (world : ω) {steps : List Step}
    (managing : ∀ step ∈ steps, step.isManaging = true) :
    let service := ofClient client onlyPublicClusters deletionTimeout
    let state : SessionState ω := { cache, world }
    let session := service.session metricsKept surroundings state
    let operations := steps.filterMap Step.operation?
    (∀ report ∈ (session steps).1, report.isFinished = true) →
      ShowsAll steps (session operations).1 (session steps).1 ∧
        ∃ invoked,
          service.InvokesAll metricsKept surroundings state operations invoked ∧
          Accounts onlyPublicClusters
            (List.zipWith Entry.mk operations (session operations).1) invoked
            (Tally.ofMeasurements (session steps).2.measured).recorded := by
  intro service state session operations finished
  have manages : ∀ operation ∈ operations, operation.Manages := by
    intro operation member
    obtain ⟨step, isStep, isOperation⟩ := List.mem_filterMap.mp member
    exact Step.manages_of_operation? (managing step isStep) isOperation
  -- A step leaves what its operation leaves, and only shows another answer.
  obtain ⟨sameState, shows⟩ := session_operations client onlyPublicClusters
    deletionTimeout metricsKept surroundings state steps
  have operationsFinished := shows.finished fun report member =>
    StepReport.exists_answer (finished report member)
  obtain ⟨measured, invoked, invokes, balanced⟩ := balanced_session client
    onlyPublicClusters deletionTimeout metricsKept surroundings state manages
    operationsFinished
  refine ⟨shows, invoked, invokes, ?_⟩
  rw [show (session steps).2 = (session operations).2 from sameState, measured]
  exact accounts_of_balanced balanced

/-- A probe is replaced, then its deletion fails open, and it is still there.  Both
deletions have looked it up as well, and one token was enough for all. -/
theorem session_accounts_replacing :
    let client : ProbeClient :=
      ⟨⟨{ scheme := .http, host := "probes" }, "hcp"⟩,
        some ⟨⟨"hcp", "", "http://issuer", none⟩, 0⟩⟩
    let service := ofClient client false 900
    let reply := fun (status : Nat) (text : String) =>
      (⟨some status, .complete (Text.utf8Bytes text.toList)⟩ : ScriptedReply)
    let grant := reply 200 "\x7b\"access_token\":\"t1\",\"expires_in\":60\x7d"
    let listing := reply 200
      "\x7b\"probes\":[\x7b\"id\":\"p1\",\"cluster_id\":\"c1\",\"status\":\"active\"\x7d]\x7d"
    let state : SessionState (List ScriptedReply) :=
      { world := [grant, listing, listing, reply 202 "", reply 201 "\x7b\"id\":\"p1\"\x7d",
          listing, reply 500 "", listing] }
    let steps : List Step :=
      [.ensure ⟨"c1", "api", .privateOnly, none⟩,
        .deleteAt "c1" (.ofLocal 736694 0 0 0) (.ofLocal 736694 900 0 0), .get "c1"]
    let taken := service.session true (.scripted ⟨0⟩) state steps
    let recorded := (Tally.ofMeasurements taken.2.measured).recorded
    (∀ step ∈ steps, step.isManaging = true) ∧
      (∀ report ∈ taken.1, report.isFinished = true) ∧
      (∃ invoked,
        service.InvokesAll true (.scripted ⟨0⟩) state steps invoked ∧
        Accounts false (List.zipWith Entry.mk steps taken.1) invoked recorded) ∧
      [requestTotalSeries .getProbe true, requestTotalSeries .deleteProbe true,
          requestTotalSeries .deleteProbe false, requestTotalSeries .createProbe true,
          deletionTimeoutSeries, refreshDurationSeries].map recorded =
        [4, 1, 1, 1, 1, 1] := by
  intro client service reply grant listing state steps taken recorded
  have managing : ∀ step ∈ steps, step.isManaging = true := by decide
  have finished : ∀ report ∈ taken.1, report.isFinished = true := by decide +kernel
  have accounts := session_accounts client false 900 true (.scripted ⟨0⟩) none
    state.world managing finished
  exact ⟨managing, finished, accounts.2, by decide +kernel⟩

end Sessions

end Service

end ProbeLifecycle
