import ProbeLifecycle.Cluster.Error
import ProbeLifecycle.Json.Record
import ProbeLifecycle.Probe.Basic
import ProbeLifecycle.Text.WhiteSpace

/-!
# Clusters and the probes they want

A cluster is described by its identifier, the host name of its API server and
how that can be reached.  From a usable description follows the request for the
probe that the cluster should have.
-/

namespace ProbeLifecycle

open Json Text

inductive EndpointAccess where
  | publicOnly
  | publicAndPrivate
  | privateOnly
  deriving DecidableEq, Repr

namespace EndpointAccess

def name : EndpointAccess → String
  | publicOnly => "Public"
  | publicAndPrivate => "PublicAndPrivate"
  | privateOnly => "Private"

def named (name : String) : Option EndpointAccess :=
  if name = "Public" then some publicOnly
  else if name = "PublicAndPrivate" then some publicAndPrivate
  else if name = "Private" then some privateOnly
  else none

def reader : Reader EndpointAccess := readChoice named

end EndpointAccess

/-- What is known of a cluster that a probe shall watch. -/
structure ClusterContext where
  clusterId : String
  apiServerHostname : String
  endpointAccess : EndpointAccess := .publicOnly
  managementClusterId : Option String := none
  deriving DecidableEq, Repr

namespace ClusterContext

/-- The API server can be reached from inside only. -/
def isPrivate (context : ClusterContext) : Bool :=
  context.endpointAccess == .privateOnly

def probeUrl (context : ClusterContext) : String :=
  "https://" ++ trim context.apiServerHostname ++ "/livez"

/-- The management cluster to name in a request: an empty name is none. -/
def effectiveManagementClusterId (context : ClusterContext) : Option String :=
  context.managementClusterId.filter fun id => id != ""

/-- The request for the probe that a usable cluster should have. -/
def desiredRequest (context : ClusterContext) :
    Except SyncError ProbeRequest :=
  if isBlank context.clusterId then .error .emptyClusterId
  else if isBlank context.apiServerHostname then
    .error (.missingHostname context.clusterId)
  else .ok {
    clusterId := context.clusterId
    apiserverUrl := context.probeUrl
    managementClusterId := context.effectiveManagementClusterId
    isPrivate := context.isPrivate }

end ClusterContext

end ProbeLifecycle
