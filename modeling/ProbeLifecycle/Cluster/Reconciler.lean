import ProbeLifecycle.Cluster.Context
import ProbeLifecycle.Probe.Client

/-!
# Keeping a cluster's probe as it should be

One pass over a cluster creates a missing probe, keeps a good one, and replaces
one that the service has given up on or whose private label does not agree with
the cluster.  Any failure ends the pass; a later pass tries again.
-/

namespace ProbeLifecycle

open Text

/-- Why a probe was replaced. -/
inductive ReplaceReason where
  | failed
  | drift
  deriving DecidableEq, Repr

/-- What a pass over a cluster did. -/
inductive EnsureOutcome where
  | skipped
  | created
  | unchanged
  | replaced (reason : ReplaceReason)
  deriving DecidableEq, Repr

def ReplaceReason.name : ReplaceReason → String
  | .failed => "failed"
  | .drift => "drift"

def ReplaceReason.stage : ReplaceReason → Stage
  | .failed => .deleteFailed
  | .drift => .deleteDrifted

def EnsureOutcome.json : EnsureOutcome → Json.Value
  | skipped => .object [("outcome", .string "skipped")]
  | created => .object [("outcome", .string "created")]
  | unchanged => .object [("outcome", .string "unchanged")]
  | replaced reason =>
      .object [("outcome", .string "replaced"), ("reason", .string reason.name)]

/-- Work on a cluster's probe: a plan with a result or a failure. -/
abbrev SyncPlan (α : Type) := ExceptT SyncError Plan α

def ProbePlan.inStage {α : Type} (plan : ProbePlan α) (stage : Stage)
    (clusterId : String) : SyncPlan α :=
  ExceptT.adapt (.remote stage clusterId) plan

/-- Keeps the probes of clusters as they should be. -/
structure Reconciler where
  client : ProbeClient
  onlyPublicClusters : Bool
  deriving DecidableEq

/-- Why an existing probe has to be replaced, if it has to. -/
def Probe.replaceReason? (probe : Probe) (desired : ProbeRequest) :
    Option ReplaceReason :=
  if probe.isFailed then some .failed
  else if probe.isPrivate = desired.isPrivate then none
  else some .drift

namespace Reconciler

variable (reconciler : Reconciler)

def create (desired : ProbeRequest) : SyncPlan Unit := do
  let _ ← (reconciler.client.createProbe desired).inStage .create
    desired.clusterId
  return ()

def replace (desired : ProbeRequest) (reason : ReplaceReason) :
    SyncPlan EnsureOutcome := do
  (reconciler.client.deleteProbe desired.clusterId).inStage reason.stage
    desired.clusterId
  reconciler.create desired
  return .replaced reason

/-- Brings the probe of a cluster to what is desired. -/
def converge (desired : ProbeRequest) : SyncPlan EnsureOutcome := do
  let existing ← (reconciler.client.getProbe desired.clusterId).inStage .lookup
    desired.clusterId
  match existing with
  | none =>
      reconciler.create desired
      return .created
  | some probe =>
      match probe.replaceReason? desired with
      | none => return .unchanged
      | some reason => reconciler.replace desired reason

/-- One pass over a cluster.  A private cluster may be skipped before its host
name is needed. -/
def ensureProbe (context : ClusterContext) : SyncPlan EnsureOutcome :=
  if isBlank context.clusterId then throw .emptyClusterId
  else if context.isPrivate && reconciler.onlyPublicClusters then
    return .skipped
  else
    match context.desiredRequest with
    | .error error => throw error
    | .ok desired => reconciler.converge desired

end Reconciler

end ProbeLifecycle
