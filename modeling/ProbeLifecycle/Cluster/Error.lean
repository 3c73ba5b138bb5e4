import ProbeLifecycle.Probe.Error

/-!
# Failures to keep a cluster's probe

Either the description of the cluster is unusable, and nothing was attempted,
or one stage of the work failed at the probe service.
-/

namespace ProbeLifecycle

/-- The stages of the work on one cluster's probe. -/
inductive Stage where
  | lookup
  | deleteFailed
  | deleteDrifted
  | create
  | delete
  deriving DecidableEq, Repr

def Stage.attempt : Stage → String
  | .lookup => "get probe"
  | .deleteFailed => "delete failed probe"
  | .deleteDrifted => "delete drifted probe"
  | .create => "create probe"
  | .delete => "delete probe"

/-- Why a cluster's probe is not as it should be. -/
inductive SyncError where
  | emptyClusterId
  | missingHostname (clusterId : String)
  | remote (stage : Stage) (clusterId : String) (source : ProbeError)
  deriving DecidableEq, Repr

namespace SyncError

def message : SyncError → String
  | emptyClusterId => "cluster ID is required"
  | missingHostname clusterId =>
      "API server hostname is required for cluster " ++ clusterId
  | remote stage clusterId source =>
      "failed to " ++ stage.attempt ++ " for cluster " ++ clusterId ++ ": " ++
        source.message

/-- The failure at the probe service, if there was one. -/
def probeError? : SyncError → Option ProbeError
  | remote _ _ source => some source
  | _ => none

/-- The description of the cluster is unusable. -/
def isInvalidInput (error : SyncError) : Bool :=
  error.probeError?.isNone

end SyncError

end ProbeLifecycle
