import ProbeLifecycle.Cluster.Context

/-!
# Descriptions of clusters in JSON

A caller describes the cluster of a probe in the body of its request.  Only the
host name is required; a cluster is public unless the description says
otherwise.
-/

namespace ProbeLifecycle

open Json

/-- What a caller says about a cluster besides its identifier. -/
structure ClusterDescription where
  apiServerHostname : String
  endpointAccess : EndpointAccess := .publicOnly
  managementClusterId : Option String := none
  deriving DecidableEq, Repr

namespace ClusterDescription

inductive Field where
  | apiServerHostname
  | endpointAccess
  | managementClusterId
  deriving DecidableEq

def Field.named (name : String) : Option Field :=
  if name = "api_server_hostname" then some .apiServerHostname
  else if name = "endpoint_access" then some .endpointAccess
  else if name = "management_cluster_id" then some .managementClusterId
  else none

abbrev Field.Value : Field → Type
  | .apiServerHostname => String
  | .endpointAccess => EndpointAccess
  | .managementClusterId => Option String

def Field.read : (field : Field) → Reader field.Value
  | .apiServerHostname => readString
  | .endpointAccess => EndpointAccess.reader
  | .managementClusterId => readOptional readString

def ofFields (fields : (field : Field) → Option field.Value) :
    Except Problem ClusterDescription := do
  let apiServerHostname ← required (fields .apiServerHostname)
  return {
    apiServerHostname
    endpointAccess := (fields .endpointAccess).getD .publicOnly
    managementClusterId := (fields .managementClusterId).getD none }

def shape : Shape ClusterDescription where
  Field := Field
  decEq := inferInstance
  order := [.apiServerHostname, .endpointAccess, .managementClusterId]
  named := Field.named
  Value := Field.Value
  read := Field.read
  build := ofFields

def reader : Reader ClusterDescription := shape.reader

def context (description : ClusterDescription) (clusterId : String) :
    ClusterContext where
  clusterId := clusterId
  apiServerHostname := description.apiServerHostname
  endpointAccess := description.endpointAccess
  managementClusterId := description.managementClusterId

end ClusterDescription

end ProbeLifecycle
