import ProbeLifecycle.Proofs.PolicyInvocations
import ProbeLifecycle.Proofs.Tallies
import ProbeLifecycle.Proofs.WebOperations

/-!
# Invocations and reports in balance

What is invoked on behalf of an operation agrees with the operation and with what it
answers: lookups, passes and deletions are each weighed by themselves, and what is
balanced stays so when it is put together.
-/

namespace ProbeLifecycle

open Text

def Request.isToken : Request → Bool
  | .token _ => true
  | .api _ => false

section Refreshes

variable {cache later : Option AccessToken} {events : List Event}

/-- Each refresh of the token is measured, whatever comes of it. -/
def CountsRefreshes (events : List Event) : Prop :=
  (measurements events).countP Measurement.isRefresh =
    (exchanges events).countP fun exchange => exchange.1.isToken

theorem CountsRefreshes.append {first second : List Event}
    (counts : CountsRefreshes first) (countsToo : CountsRefreshes second) :
    CountsRefreshes (first ++ second) := by
  unfold CountsRefreshes at *
  rw [measurements_append, exchanges_append, List.countP_append,
    List.countP_append, counts, countsToo]

theorem TokenProvider.Provides.countsRefreshes {provider : TokenProvider}
    {result : Except TokenError AccessToken}
    (provides : provider.Provides cache events (.finished result) later) :
    CountsRefreshes events := by
  have idle : ∀ {opening}, TokenProvider.Misses cache opening →
      CountsRefreshes opening := by
    rintro opening (_ | _) <;> rfl
  cases provides with
  | reused valid => rfl
  | refused misses refusal => exact (idle misses).append rfl
  | refreshed misses granted issued => exact (idle misses).append rfl

theorem ProbeClient.Makes.countsRefreshes {client : ProbeClient} {call : Call}
    {outcome : Except ProbeError Reply}
    (makes : client.Makes call cache events (.finished outcome) later) :
    CountsRefreshes events := by
  cases makes with
  | plain unauthenticated => rfl
  | unprovided authenticated provides => exact provides.countsRefreshes
  | @sent _ _ _ _ delivery authenticated provides =>
      have dropping : CountsRefreshes delivery.dropping := by
        unfold Delivery.dropping
        split
        · rfl
        · rfl
      exact provides.countsRefreshes.append dropping

/-- Of a procedure only its calls refresh the token. -/
theorem Procedure.Conducts.countsRefreshes {α : Type} {client : ProbeClient}
    {procedure : Procedure α} {attempts : List Attempt} {value : α}
    {conclusion : Conclusion α}
    (conducts :
      procedure.Conducts client cache attempts events conclusion later)
    (finished : conclusion = .finished value)
    (measuresOnly : procedure.MeasuresOnly (·.isRefresh = false)) :
    CountsRefreshes events := by
  induction conducts with
  | finish => rfl
  | @measure measurement _ _ _ _ _ _ rest ih =>
      obtain ⟨isOther, restMeasuresOnly⟩ := measuresOnly
      have counts := ih finished restMeasuresOnly
      unfold CountsRefreshes at *
      simpa [isOther] using counts
  | attempt makes rest ih =>
      exact makes.countsRefreshes.append (ih finished (measuresOnly _))
  | broken makes => cases finished

end Refreshes

namespace Step

/-- A lookup that is asked for as such. -/
def looksUp : Step → Bool
  | .get _ => true
  | _ => false

/-- A pass that gets past the validation of the cluster and is not skipped. -/
def works (onlyPublicClusters : Bool) : Step → Bool
  | .ensure context =>
      !isBlank context.clusterId && !(context.isPrivate && onlyPublicClusters) &&
        !isBlank context.apiServerHostname
  | _ => false

def deletes : Step → Bool
  | .deleteAt clusterId _ _ => !isBlank clusterId
  | _ => false

def replaces (events : List Event) : Step → Bool
  | .ensure context =>
      match context.desiredRequest with
      | .ok desired => desired.replaces events
      | .error _ => false
  | _ => false

end Step

namespace Answer

def failsOpen : Answer → Bool
  | .deletion (.ok (.failOpen _)) => true
  | _ => false

/-- A failure in a stage of the work on a cluster's probe. -/
def failsIn (stage : Stage) : Answer → Bool
  | .ensured (.error (.remote other _ _)) => other == stage
  | .deletion (.error (.remote other _ _)) => other == stage
  | _ => false

def isCreated : Answer → Bool
  | .ensured (.ok .created) => true
  | _ => false

def isReplaced : Answer → Bool
  | .ensured (.ok (.replaced _)) => true
  | _ => false

end Answer

structure Entry where
  step : Step
  report : StepReport

def Entry.answers (kind : Answer → Bool) (entry : Entry) : Bool :=
  match entry.report.conclusion with
  | .finished answer => kind answer
  | .halted _ => false

/-- The invocations in a session agree with its reports and with what was
measured. -/
structure Balanced (onlyPublicClusters : Bool) (entries : List Entry)
    (invoked : List Invocation) : Prop where
  counted :
    invocations (measurements (entries.flatMap (·.report.events))) = invoked
  lookups :
    invoked.countP (·.operation == .getProbe) =
      entries.countP (·.step.looksUp) +
        entries.countP (·.step.works onlyPublicClusters) +
          invoked.countP (·.operation == .deleteProbe)
  deletions :
    invoked.countP (·.operation == .deleteProbe) =
      entries.countP (·.step.deletes) +
        entries.countP fun entry => entry.step.replaces entry.report.events
  failedDeletions :
    invoked.count ⟨.deleteProbe, false⟩ =
      entries.countP (·.answers Answer.failsOpen) +
        entries.countP (·.answers (Answer.failsIn .delete)) +
          entries.countP (·.answers (Answer.failsIn .deleteFailed)) +
            entries.countP (·.answers (Answer.failsIn .deleteDrifted))
  creations :
    invoked.count ⟨.createProbe, true⟩ =
      entries.countP (·.answers Answer.isCreated) +
        entries.countP (·.answers Answer.isReplaced)
  failedCreations :
    invoked.count ⟨.createProbe, false⟩ =
      entries.countP (·.answers (Answer.failsIn .create))
  timeouts :
    (measurements (entries.flatMap (·.report.events))).count .deletionTimeout =
      entries.countP (·.answers Answer.failsOpen)
  refreshes : CountsRefreshes (entries.flatMap (·.report.events))

namespace Balanced

variable {onlyPublicClusters : Bool}

theorem nil : Balanced onlyPublicClusters [] [] :=
  ⟨rfl, rfl, rfl, rfl, rfl, rfl, rfl, rfl⟩

theorem append {first second : List Entry} {invoked later : List Invocation}
    (balanced : Balanced onlyPublicClusters first invoked)
    (balancedToo : Balanced onlyPublicClusters second later) :
    Balanced onlyPublicClusters (first ++ second) (invoked ++ later) := by
  obtain ⟨counted, lookups, deletions, failedDeletions, creations,
    failedCreations, timeouts, refreshes⟩ := balanced
  obtain ⟨countedToo, lookupsToo, deletionsToo, failedDeletionsToo, creationsToo,
    failedCreationsToo, timeoutsToo, refreshesToo⟩ := balancedToo
  constructor
  · simp only [List.flatMap_append, measurements_append, invocations_append,
      counted, countedToo]
  · simp only [List.countP_append, lookups, lookupsToo]
    omega
  · simp only [List.countP_append, deletions, deletionsToo]
    omega
  · simp only [List.countP_append, List.count_append, failedDeletions,
      failedDeletionsToo]
    omega
  · simp only [List.countP_append, List.count_append, creations, creationsToo]
    omega
  · simp only [List.countP_append, List.count_append, failedCreations,
      failedCreationsToo]
  · simp only [List.flatMap_append, measurements_append, List.countP_append,
      List.count_append, timeouts, timeoutsToo]
  · rw [List.flatMap_append]
    exact refreshes.append refreshesToo

theorem idle {step : Step} {answer : Answer}
    (idles : step.looksUp = false ∧ step.works onlyPublicClusters = false ∧
      step.deletes = false ∧ step.replaces [] = false)
    (plain : answer.failsOpen = false ∧ (∀ stage, answer.failsIn stage = false) ∧
      answer.isCreated = false ∧ answer.isReplaced = false) :
    Balanced onlyPublicClusters [⟨step, ⟨.finished answer, []⟩⟩] [] := by
  constructor <;> simp [Entry.answers, idles, plain, invocations, CountsRefreshes]

theorem lookup {clusterId : String} {found : Except ProbeError (Option Probe)}
    {events : List Event}
    (counted : invocations (measurements events) = [⟨.getProbe, found.isOk⟩])
    (timeouts : (measurements events).count .deletionTimeout = 0)
    (refreshes : CountsRefreshes events) :
    Balanced onlyPublicClusters
      [⟨.get clusterId, ⟨.finished (.found found), events⟩⟩]
      [⟨.getProbe, found.isOk⟩] := by
  constructor <;> simp [Entry.answers, Step.looksUp, Step.works, Step.deletes,
    Step.replaces, Answer.failsOpen, Answer.failsIn, Answer.isCreated,
    Answer.isReplaced, counted, timeouts, refreshes]

theorem pass {context : ClusterContext} {desired : ProbeRequest}
    {result : Except SyncError EnsureOutcome} {events : List Event}
    {invoked : List Invocation}
    (works : (Step.ensure context).works onlyPublicClusters = true)
    (usable : context.desiredRequest = .ok desired)
    (passInvokes :
      PassInvokes desired.clusterId (desired.replaces events) invoked result)
    (counted : invocations (measurements events) = invoked)
    (timeouts : (measurements events).count .deletionTimeout = 0)
    (refreshes : CountsRefreshes events) :
    Balanced onlyPublicClusters
      [⟨.ensure context, ⟨.finished (.ensured result), events⟩⟩] invoked := by
  generalize replaces : desired.replaces events = replacing at passInvokes
  cases passInvokes with
  | @undeleted found reason error =>
      -- A deletion fails in a stage of its own for each reason.
      cases reason <;>
        constructor <;> simp [Entry.answers, Step.looksUp, works, Step.deletes,
          Step.replaces, usable, replaces, Answer.failsOpen, Answer.failsIn,
          Answer.isCreated, Answer.isReplaced, ReplaceReason.stage, counted,
          timeouts, refreshes]
  | _ =>
      constructor <;> simp [Entry.answers, Step.looksUp, works, Step.deletes,
        Step.replaces, usable, replaces, Answer.failsOpen, Answer.failsIn,
        Answer.isCreated, Answer.isReplaced, counted, timeouts, refreshes]

theorem deletion {clusterId : String} {requestedAt now : Timestamp}
    {result : Except SyncError DeletionOutcome} {events : List Event}
    {invoked : List Invocation} (notBlank : isBlank clusterId = false)
    (invokes : DeletionInvokes clusterId invoked result)
    (counted : invocations (measurements events) = invoked)
    (timeouts : (measurements events).count .deletionTimeout =
      if (Answer.deletion result).failsOpen then 1 else 0)
    (refreshes : CountsRefreshes events) :
    Balanced onlyPublicClusters
      [⟨.deleteAt clusterId requestedAt now,
        ⟨.finished (.deletion result), events⟩⟩] invoked := by
  cases invokes <;>
    simp only [Answer.failsOpen] at timeouts <;>
    constructor <;> simp [Entry.answers, Step.looksUp, Step.works, Step.deletes,
      Step.replaces, notBlank, Answer.failsOpen, Answer.failsIn, Answer.isCreated,
      Answer.isReplaced, counted, timeouts, refreshes]

end Balanced

section Operations

variable {ω : Type} {client : ProbeClient} {onlyPublicClusters : Bool}
  {surroundings : Surroundings ω} {cache : Option AccessToken} {world : ω}

theorem Procedure.countsRefreshes_run {α : Type} {procedure : Procedure α} {value : α}
    (measuresOnly : procedure.MeasuresOnly (·.isRefresh = false))
    (finished : ((procedure.plan client).run surroundings cache world).conclusion =
      .finished value) :
    CountsRefreshes
      ((procedure.plan client).run surroundings cache world).events := by
  obtain ⟨attempts, conducts⟩ :=
    procedure.conducts_run surroundings client cache world
  exact conducts.countsRefreshes finished measuresOnly

theorem balanced_get {clusterId : String} {found : Except ProbeError (Option Probe)}
    (finished : ((client.getProbe clusterId).run.run surroundings cache
      world).conclusion = .finished found) :
    let run := (client.getProbe clusterId).run.run surroundings cache world
    client.Invokes surroundings (client.getProbe clusterId).run cache world
        [⟨.getProbe, found.isOk⟩] found ∧
      Balanced onlyPublicClusters
        [⟨.get clusterId, ⟨.finished (.found found), run.events⟩⟩]
        [⟨.getProbe, found.isOk⟩] := by
  intro run
  have invokes : client.Invokes surroundings
      ((client.getProbe clusterId).run.bind .done) cache world
      [⟨.getProbe, found.isOk⟩] found :=
    .get ⟨finished, rfl, rfl⟩ .done
  rw [Plan.bind_done] at invokes
  refine ⟨invokes, .lookup invokes.invocations_eq ?_ ?_⟩
  · simp only [run, ← Procedure.plan_lookup]
    apply Procedure.count_eq_zero_of_measuresOnly
    · exact Procedure.measuresOnly_lookup (by simp) (by simp) clusterId
    · simp
  · simp only [run, ← Procedure.plan_lookup] at finished ⊢
    apply Procedure.countsRefreshes_run _ finished
    apply Procedure.measuresOnly_lookup
    · exact fun _ _ => rfl
    · rfl

theorem ensure_eq_finish {context : ClusterContext}
    (idle : (Step.ensure context).works onlyPublicClusters = false) :
    ∃ result,
      Procedure.ensure onlyPublicClusters context = .finish result ∧
      (Step.ensure context).replaces [] = false ∧
      (Answer.ensured result).failsOpen = false ∧
      (∀ stage, (Answer.ensured result).failsIn stage = false) ∧
      (Answer.ensured result).isCreated = false ∧
      (Answer.ensured result).isReplaced = false := by
  have replacesNothing : (Step.ensure context).replaces [] = false := by
    cases usable : context.desiredRequest with
    | error error => simp [Step.replaces, usable]
    | ok desired => simp [Step.replaces, usable, ProbeRequest.replaces, sentAttempts]
  unfold Procedure.ensure
  cases blank : isBlank context.clusterId with
  | true => exact ⟨_, rfl, replacesNothing, rfl, fun _ => rfl, rfl, rfl⟩
  | false =>
      cases skipped : context.isPrivate && onlyPublicClusters with
      | true => exact ⟨_, rfl, replacesNothing, rfl, fun _ => rfl, rfl, rfl⟩
      | false =>
          have missing : isBlank context.apiServerHostname = true := by
            simpa [Step.works, blank, skipped] using idle
          simp only [ClusterContext.desiredRequest, blank, missing, if_true,
            Bool.false_eq_true, if_false]
          exact ⟨_, rfl, replacesNothing, rfl, fun _ => rfl, rfl, rfl⟩

theorem ensure_eq_converge_of_works {context : ClusterContext}
    (works : (Step.ensure context).works onlyPublicClusters = true) :
    ∃ desired, context.desiredRequest = .ok desired ∧
      Procedure.ensure onlyPublicClusters context = .converge desired := by
  simp only [Step.works, Bool.and_eq_true, Bool.not_eq_true'] at works
  obtain ⟨⟨notBlank, notSkipped⟩, hostname⟩ := works
  have usable : context.desiredRequest = .ok _ :=
    ClusterContext.desiredRequest_eq_ok.mpr ⟨notBlank, hostname, rfl⟩
  exact ⟨_, usable, Procedure.ensure_eq_converge usable (by simpa using notSkipped)⟩

theorem balanced_ensure {reconciler : Reconciler} {context : ClusterContext}
    {result : Except SyncError EnsureOutcome}
    (finished : ((reconciler.ensureProbe context).run.run surroundings cache
      world).conclusion = .finished result) :
    let run := (reconciler.ensureProbe context).run.run surroundings cache world
    ∃ invoked,
      reconciler.client.Invokes surroundings (reconciler.ensureProbe context).run
        cache world invoked result ∧
      Balanced reconciler.onlyPublicClusters
        [⟨.ensure context, ⟨.finished (.ensured result), run.events⟩⟩] invoked := by
  simp only [← Procedure.plan_ensure] at finished ⊢
  cases works : (Step.ensure context).works reconciler.onlyPublicClusters with
  | false =>
      obtain ⟨idled, atOnce, replacesNothing, plain⟩ := ensure_eq_finish works
      rw [atOnce] at finished ⊢
      cases finished
      exact ⟨[], .done, .idle ⟨rfl, works, rfl, replacesNothing⟩ plain⟩
  | true =>
      obtain ⟨desired, usable, atWork⟩ := ensure_eq_converge_of_works works
      rw [atWork] at finished ⊢
      obtain ⟨invoked, invokes, passInvokes⟩ := invokes_converge finished
      refine ⟨invoked, invokes, .pass works usable passInvokes
        invokes.invocations_eq ?_ ?_⟩
      · apply Procedure.count_eq_zero_of_measuresOnly
        · exact Procedure.measuresOnly_converge (by simp) (by simp) desired
        · simp
      · apply Procedure.countsRefreshes_run _ finished
        apply Procedure.measuresOnly_converge
        · exact fun _ _ => rfl
        · rfl

theorem balanced_deleteProbeAt {policy : DeletionPolicy} {clusterId : String}
    {requestedAt now : Timestamp} {result : Except SyncError DeletionOutcome}
    (finished : ((policy.deleteProbeAt clusterId requestedAt now).run.run surroundings
      cache world).conclusion = .finished result) :
    let run := (policy.deleteProbeAt clusterId requestedAt now).run.run surroundings
      cache world
    ∃ invoked,
      policy.client.Invokes surroundings
        (policy.deleteProbeAt clusterId requestedAt now).run cache world invoked
        result ∧
      Balanced onlyPublicClusters
        [⟨.deleteAt clusterId requestedAt now,
          ⟨.finished (.deletion result), run.events⟩⟩] invoked := by
  intro run
  cases blank : isBlank clusterId with
  | true =>
      have atOnce : (policy.deleteProbeAt clusterId requestedAt now).run =
          .done (.error .emptyClusterId) := by
        rw [DeletionPolicy.deleteProbeAt, blank]
        rfl
      simp only [run, atOnce] at finished ⊢
      cases finished
      refine ⟨[], .done, .idle ⟨rfl, rfl, ?_, rfl⟩ ⟨rfl, fun _ => rfl, rfl, rfl⟩⟩
      simp [Step.deletes, blank]
  | false =>
      obtain ⟨invoked, invokes, deletionInvokes⟩ := invokes_deleteProbeAt blank finished
      refine ⟨invoked, invokes, .deletion blank deletionInvokes
        invokes.invocations_eq ?_ ?_⟩
      · simp only [run, policy.run_deleteProbeAt blank] at finished ⊢
        rw [measurements_append, List.count_append,
          DeletionPolicy.count_deletionTimeout_deleteProbe, finished,
          DeletionPolicy.count_verdictEvents, Nat.zero_add]
        cases deletionInvokes <;> rfl
      · simp only [run, ← Procedure.plan_deleteUnless] at finished ⊢
        apply Procedure.countsRefreshes_run _ finished
        apply Procedure.measuresOnly_deleteUnless
        · exact fun _ _ => rfl
        · rfl
        · rfl

end Operations

end ProbeLifecycle
