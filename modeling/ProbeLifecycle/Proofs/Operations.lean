import ProbeLifecycle.Cluster.Deletion
import ProbeLifecycle.Proofs.Procedure

/-!
# The operations as procedures

Every operation on probes and every policy over them is written down as a
procedure, and the plan of the procedure is shown to be the plan of the
operation.
-/

namespace ProbeLifecycle

namespace Procedure

open ProbeClient Text

variable {α : Type}

def settle (operation : Operation) (result : Except ProbeError α) :
    Procedure (Except ProbeError α) :=
  .measure (.request operation result.isOk) (.finish result)

def settleFound :
    Except ProbeError (List Probe) →
      Procedure (Except ProbeError (Option Probe))
  | .ok (first :: _ :: _) =>
      .measure .duplicateProbes (settle .getProbe (.ok (some first)))
  | found => settle .getProbe (found.map List.head?)

def lookup (clusterId : String) : Procedure (Except ProbeError (Option Probe)) :=
  .attempt (.lookup clusterId) fun outcome =>
    settleFound (outcome.bind (foundProbes clusterId))

def create (request : ProbeRequest) : Procedure (Except ProbeError Probe) :=
  .attempt (.create request) fun outcome =>
    settle .createProbe (outcome.bind createdProbe)

/-- Terminates the probe of a cluster that is known to have one. -/
def terminate (clusterId : String) : Procedure (Except ProbeError Unit) :=
  .attempt (.terminate clusterId) fun outcome =>
    settle .deleteProbe (outcome.bind terminated)

def terminateFound (clusterId : String) :
    Except ProbeError (Option Probe) → Procedure (Except ProbeError Unit)
  | .error error => settle .deleteProbe (.error (.lookup error))
  | .ok none => settle .deleteProbe (.ok ())
  | .ok (some _) => terminate clusterId

def delete (clusterId : String) : Procedure (Except ProbeError Unit) :=
  (lookup clusterId).bind (terminateFound clusterId)

def inStage {β : Type} (procedure : Procedure (Except ProbeError α))
    (stage : Stage) (clusterId : String)
    (next : α → Procedure (Except SyncError β)) :
    Procedure (Except SyncError β) :=
  procedure.bind fun
    | .error error => .finish (.error (.remote stage clusterId error))
    | .ok value => next value

def createFor (desired : ProbeRequest) (outcome : EnsureOutcome) :
    Procedure (Except SyncError EnsureOutcome) :=
  (create desired).inStage .create desired.clusterId fun _ =>
    .finish (.ok outcome)

def replace (desired : ProbeRequest) (reason : ReplaceReason) :
    Procedure (Except SyncError EnsureOutcome) :=
  (delete desired.clusterId).inStage reason.stage desired.clusterId fun _ =>
    createFor desired (.replaced reason)

/-- Keeps the probe of a cluster if it is as desired, or replaces it. -/
def adjust (desired : ProbeRequest) (probe : Probe) :
    Procedure (Except SyncError EnsureOutcome) :=
  match probe.replaceReason? desired with
  | none => .finish (.ok .unchanged)
  | some reason => replace desired reason

def converge (desired : ProbeRequest) :
    Procedure (Except SyncError EnsureOutcome) :=
  (lookup desired.clusterId).inStage .lookup desired.clusterId fun
    | none => createFor desired .created
    | some probe => adjust desired probe

def ensure (onlyPublicClusters : Bool) (context : ClusterContext) :
    Procedure (Except SyncError EnsureOutcome) :=
  if isBlank context.clusterId then .finish (.error .emptyClusterId)
  else if context.isPrivate && onlyPublicClusters then .finish (.ok .skipped)
  else
    match context.desiredRequest with
    | .error error => .finish (.error error)
    | .ok desired => converge desired

/-- Deletes the probe of a cluster; a failure is let pass if it is overdue. -/
def deleteUnless (overdue : Bool) (clusterId : String) :
    Procedure (Except SyncError DeletionOutcome) :=
  if isBlank clusterId then .finish (.error .emptyClusterId)
  else
    (delete clusterId).bind fun
      | .ok () => .finish (.ok .deleted)
      | .error error =>
          if overdue then
            .measure .deletionTimeout (.finish (.ok (.failOpen error)))
          else .finish (.error (.remote .delete clusterId error))

section Plans

variable (client : ProbeClient)

theorem run_measured_execute (operation : Operation) (call : Call)
    (next : Reply → ProbePlan α) :
    (measured operation (client.execute call >>= next)).run =
      (client.execute call).run.bind fun
        | .ok reply =>
            (next reply).run.bind fun result =>
              .measure (.request operation result.isOk) (.done result)
        | .error error =>
            .measure (.request operation false) (.done (.error error)) := by
  change (client.execute call >>= next).run.bind _ = _
  rw [run_except_bind, Plan.bind_assoc]
  congr 1
  funext outcome
  cases outcome with
  | error error => rfl
  | ok reply => rfl

theorem plan_create (request : ProbeRequest) :
    (create request).plan client = (client.createProbe request).run := by
  unfold ProbeClient.createProbe
  rw [run_measured_execute]
  simp only [create, plan]
  congr 1
  funext outcome
  cases outcome with
  | error error => rfl
  | ok reply => rfl

theorem plan_lookup (clusterId : String) :
    (lookup clusterId).plan client = (client.getProbe clusterId).run := by
  unfold ProbeClient.getProbe
  rw [run_measured_execute]
  simp only [lookup, plan]
  congr 1
  funext outcome
  cases outcome with
  | error error => rfl
  | ok reply =>
      simp only [Except.bind]
      rw [run_except_bind]
      change _ = Plan.bind (Plan.bind (.done (foundProbes clusterId reply)) _) _
      cases foundProbes clusterId reply with
      | error error => rfl
      | ok probes =>
          cases probes with
          | nil => rfl
          | cons first rest =>
              cases rest with
              | nil => rfl
              | cons second rest => rfl

theorem plan_delete (clusterId : String) :
    (delete clusterId).plan client = (client.deleteProbe clusterId).run := by
  unfold ProbeClient.deleteProbe
  change _ = Plan.bind (ExceptT.run (ExceptT.adapt ProbeError.lookup
    (client.getProbe clusterId) >>= _)) _
  rw [run_except_bind, run_adapt]
  simp only [delete, plan_bind, plan_lookup, Plan.bind_assoc]
  congr 1
  funext found
  cases found with
  | error error => rfl
  | ok probe =>
      cases probe with
      | none => rfl
      | some probe =>
          simp only [terminateFound, terminate, plan, mapError_ok, Plan.bind]
          change _ = Plan.bind (ExceptT.run (client.execute _ >>= _)) _
          rw [run_except_bind, Plan.bind_assoc]
          congr 1
          funext outcome
          cases outcome with
          | error error => rfl
          | ok reply => rfl

/-- A stage of the work on a cluster, and what follows it. -/
theorem plan_inStage {β : Type} {procedure : Procedure (Except ProbeError α)}
    {operation : ProbePlan α} (isPlan : procedure.plan client = operation.run)
    (stage : Stage) (clusterId : String) {next : α → SyncPlan β}
    {after : α → Procedure (Except SyncError β)}
    (isNext : ∀ value, (after value).plan client = (next value).run) :
    (procedure.inStage stage clusterId after).plan client =
      (operation.inStage stage clusterId >>= next).run := by
  unfold ProbePlan.inStage inStage
  rw [run_except_bind, run_adapt, plan_bind, isPlan, Plan.bind_assoc]
  congr 1
  funext result
  cases result with
  | error error => rfl
  | ok value => exact isNext value

variable (reconciler : Reconciler)

theorem plan_createFor (desired : ProbeRequest) (outcome : EnsureOutcome) :
    (createFor desired outcome).plan reconciler.client =
      (reconciler.create desired >>= fun _ => pure outcome : SyncPlan _).run := by
  unfold Reconciler.create
  simp only [bind_assoc, pure_bind]
  exact plan_inStage _ (plan_create _ desired) _ _ fun _ => rfl

theorem plan_replace (desired : ProbeRequest) (reason : ReplaceReason) :
    (replace desired reason).plan reconciler.client =
      (reconciler.replace desired reason).run :=
  plan_inStage _ (plan_delete _ _) _ _ fun _ => plan_createFor _ _ _

theorem plan_converge (desired : ProbeRequest) :
    (converge desired).plan reconciler.client =
      (reconciler.converge desired).run := by
  unfold Reconciler.converge
  refine plan_inStage _ (plan_lookup _ _) _ _ ?_
  intro found
  cases found with
  | none => exact plan_createFor _ _ _
  | some probe =>
      unfold adjust
      cases decided : probe.replaceReason? desired with
      | none => simp [plan, decided]; rfl
      | some reason => simpa [decided] using plan_replace _ _ _

theorem plan_ensure (context : ClusterContext) :
    (ensure reconciler.onlyPublicClusters context).plan reconciler.client =
      (reconciler.ensureProbe context).run := by
  unfold ensure Reconciler.ensureProbe
  split
  · rfl
  · split
    · rfl
    · cases context.desiredRequest with
      | error error => rfl
      | ok desired => exact plan_converge reconciler desired

theorem plan_deleteUnless (policy : DeletionPolicy) (clusterId : String)
    (requestedAt now : Timestamp) :
    (deleteUnless (policy.IsOverdue requestedAt now) clusterId).plan
        policy.client =
      (policy.deleteProbeAt clusterId requestedAt now).run := by
  unfold deleteUnless DeletionPolicy.deleteProbeAt
  split
  · rfl
  · rw [plan_bind, plan_delete]
    change _ = Plan.bind _ _
    congr 1
    funext result
    cases result with
    | ok value => rfl
    | error error =>
        by_cases overdue : policy.IsOverdue requestedAt now
        · simp only [overdue, decide_true, if_true]
          rfl
        · simp only [overdue, decide_false, if_false, Bool.false_eq_true]
          rfl

end Plans

end Procedure

/-- A plan that is carried out by the calls of a client. -/
def ProbeClient.CarriesOut {α : Type} (client : ProbeClient) (plan : Plan α) :
    Prop :=
  ∃ procedure : Procedure α, procedure.plan client = plan

namespace ProbeClient.CarriesOut

theorem ensureProbe (reconciler : Reconciler) (context : ClusterContext) :
    reconciler.client.CarriesOut (reconciler.ensureProbe context).run :=
  ⟨_, Procedure.plan_ensure reconciler context⟩

theorem deleteProbeAt (policy : DeletionPolicy) (clusterId : String)
    (requestedAt now : Timestamp) :
    policy.client.CarriesOut
      (policy.deleteProbeAt clusterId requestedAt now).run :=
  ⟨_, Procedure.plan_deleteUnless policy clusterId requestedAt now⟩

end ProbeClient.CarriesOut

end ProbeLifecycle
