import ProbeLifecycle.Web.Server

/-!
# The service

One client of the probe service, and with it one token cache, is shared by the
reconciler, the deletion policy and the server for requests.
-/

namespace ProbeLifecycle

structure Service where
  client : ProbeClient
  reconciler : Reconciler
  deletion : DeletionPolicy
  server : Web.Server
  deriving DecidableEq

namespace Service

/-- The service around a client; the timeout of deletions is in seconds. -/
def ofClient (client : ProbeClient) (onlyPublicClusters : Bool)
    (deletionTimeout : Nat) : Service :=
  let reconciler : Reconciler := ⟨client, onlyPublicClusters⟩
  let deletion : DeletionPolicy :=
    ⟨client, deletionTimeout * nanosecondsPerSecond⟩
  { client, reconciler, deletion, server := ⟨reconciler, deletion⟩ }

def ofSettings (settings : Settings) : Except ProbeError Service :=
  (ProbeClient.ofSettings settings).map fun client =>
    ofClient client settings.onlyPublicClusters settings.deletionTimeout

end Service

end ProbeLifecycle
