import ProbeLifecycle.Cluster.Reconciler
import ProbeLifecycle.Time.Timestamp

/-!
# Deleting a cluster's probe

A cluster that is torn down waits for its probe to be deleted, but not for
ever: once the timeout has passed since the deletion was requested, a failure
no longer holds the cluster up.  The probe may then be left behind, which is
measured.
-/

namespace ProbeLifecycle

open Text

/-- A deletion that lets the teardown go on. -/
inductive DeletionOutcome where
  | deleted
  | failOpen (error : ProbeError)
  deriving DecidableEq, Repr

def DeletionOutcome.name : DeletionOutcome → String
  | .deleted => "deleted"
  | .failOpen _ => "fail_open"

/-- Deletes probes and fails open after a timeout, in nanoseconds. -/
structure DeletionPolicy where
  client : ProbeClient
  timeout : Nat
  deriving DecidableEq

namespace DeletionPolicy

variable (policy : DeletionPolicy)

def IsOverdue (requestedAt now : Timestamp) : Prop :=
  policy.timeout ≤ now.elapsed requestedAt

instance (requestedAt now : Timestamp) :
    Decidable (policy.IsOverdue requestedAt now) :=
  inferInstanceAs (Decidable (_ ≤ _))

/-- Deletes the probe of a cluster whose deletion was requested at one time, as
of another. -/
def deleteProbeAt (clusterId : String) (requestedAt now : Timestamp) :
    SyncPlan DeletionOutcome :=
  if isBlank clusterId then throw .emptyClusterId
  else
    ExceptT.mk do
      match ← (policy.client.deleteProbe clusterId).run with
      | .ok () => return .ok .deleted
      | .error error =>
          if policy.IsOverdue requestedAt now then
            Plan.record .deletionTimeout
            return .ok (.failOpen error)
          else return .error (.remote .delete clusterId error)

end DeletionPolicy

end ProbeLifecycle
