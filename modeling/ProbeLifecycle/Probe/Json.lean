import ProbeLifecycle.Json.Record
import ProbeLifecycle.Json.Writer
import ProbeLifecycle.Probe.Basic

/-!
# Probes in JSON

The service and the callers exchange probes as JSON objects.  Reading is
lenient: every field of a probe has a default, and the watched URL goes by two
names.  Writing leaves an empty cluster identifier and an absent URL out.
-/

namespace ProbeLifecycle

open Json

namespace Status

def reader : Reader Status := fun node =>
  (readString node).map ofName

end Status

namespace Labels

def reader : Reader Labels := fun node =>
  (readObject readString node).map ofEntries

/-- Labels as an object in the order of their keys. -/
def json (labels : Labels) : Value :=
  .object (labels.entries.map fun entry => (entry.1, .string entry.2))

end Labels

namespace Probe

inductive Field where
  | id
  | clusterId
  | apiserverUrl
  | status
  | labels
  deriving DecidableEq

def Field.named (name : String) : Option Field :=
  if name = "id" then some .id
  else if name = "cluster_id" then some .clusterId
  else if name = "apiserver_url" ∨ name = "static_url" then some .apiserverUrl
  else if name = "status" then some .status
  else if name = "labels" then some .labels
  else none

abbrev Field.Value : Field → Type
  | .id => String
  | .clusterId => String
  | .apiserverUrl => Option String
  | .status => Status
  | .labels => Labels

def Field.read : (field : Field) → Reader field.Value
  | .id => readString
  | .clusterId => readString
  | .apiserverUrl => readOptional readString
  | .status => Status.reader
  | .labels => Labels.reader

def ofFields (fields : (field : Field) → Option field.Value) : Probe where
  id := (fields .id).getD ""
  clusterId := (fields .clusterId).getD ""
  apiserverUrl := (fields .apiserverUrl).getD none
  status := (fields .status).getD .pending
  labels := (fields .labels).getD .empty

def shape : Shape Probe where
  Field := Field
  decEq := inferInstance
  order := [.id, .clusterId, .apiserverUrl, .status, .labels]
  named := Field.named
  Value := Field.Value
  read := Field.read
  build fields := .ok (ofFields fields)

def reader : Reader Probe := shape.reader

def members (probe : Probe) : List (String × Value) :=
  [("id", .string probe.id)] ++
    (if probe.clusterId = "" then []
      else [("cluster_id", .string probe.clusterId)]) ++
    (match probe.apiserverUrl with
      | some url => [("apiserver_url", .string url)]
      | none => []) ++
    [("status", .string probe.status.name), ("labels", probe.labels.json)]

def json (probe : Probe) : Value :=
  .object probe.members

end Probe

def probesFieldNamed (name : String) : Option Unit :=
  if name = "probes" then some () else none

def listingShape : Shape (List Probe) where
  Field := Unit
  decEq := inferInstance
  order := [()]
  named := probesFieldNamed
  Value _ := List Probe
  read _ := readArray Probe.reader
  build fields := .ok ((fields ()).getD [])

def readListing : Reader (List Probe) := listingShape.reader

def statusFieldNamed (name : String) : Option Unit :=
  if name = "status" then some () else none

def transitionShape : Shape Status where
  Field := Unit
  decEq := inferInstance
  order := [()]
  named := statusFieldNamed
  Value _ := Status
  read _ := Status.reader
  build fields := required (fields ())

def readTransition : Reader Status := transitionShape.reader

def transitionJson (status : Status) : Value :=
  .object [("status", .string status.name)]

/-- A request for a new probe as an object; an absent management cluster is
left out. -/
def ProbeRequest.json (request : ProbeRequest) : Value :=
  .object
    ([("cluster_id", .string request.clusterId),
        ("apiserver_url", .string request.apiserverUrl)] ++
      (match request.managementClusterId with
        | some id => [("management_cluster_id", .string id)]
        | none => []) ++
      [("private", .bool request.isPrivate)])

end ProbeLifecycle
