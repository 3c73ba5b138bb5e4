import ProbeLifecycle.Probe.Labels
import ProbeLifecycle.Probe.Status

/-!
# Probes

A probe watches the health endpoint of one cluster's API server.  It says which
cluster it belongs to in a field or, where the field is empty, in a label; a
second label tells whether the cluster is private.
-/

namespace ProbeLifecycle

structure Probe where
  id : String := ""
  clusterId : String := ""
  apiserverUrl : Option String := none
  status : Status := .pending
  labels : Labels := .empty
  deriving DecidableEq

namespace Probe

def clusterLabel : String := "cluster_id"

def privateLabel : String := "private"

/-- The cluster that a probe belongs to. -/
def cluster? (probe : Probe) : Option String :=
  if probe.clusterId = "" then probe.labels.get? clusterLabel
  else some probe.clusterId

def isPrivate (probe : Probe) : Bool :=
  probe.labels.get? privateLabel == some "true"

def isFailed (probe : Probe) : Bool :=
  probe.status == .failed

end Probe

structure ProbeRequest where
  clusterId : String
  apiserverUrl : String
  managementClusterId : Option String := none
  isPrivate : Bool
  deriving DecidableEq, Repr

end ProbeLifecycle
