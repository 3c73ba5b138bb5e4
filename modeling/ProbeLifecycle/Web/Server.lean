import ProbeLifecycle.Cluster.Deletion
import ProbeLifecycle.Cluster.Description
import ProbeLifecycle.Time.Rfc3339
import ProbeLifecycle.Web.MediaType
import ProbeLifecycle.Web.Route

/-!
# Serving requests

Requests that cannot be understood are refused before anything is done for
them.  For the others the service works on the probe of the cluster, and a
failure is answered in a way that tells whether the request or the probe
service is to blame.
-/

namespace ProbeLifecycle.Web

open Text

/-- What serves requests: the client of the probe service and the two policies
that share it. -/
structure Server where
  reconciler : Reconciler
  deletion : DeletionPolicy
  deriving DecidableEq

/-- The largest body, in bytes, that is taken. -/
def largestBody : Nat := 65536

/-- The cluster named in a path, or the response to a name that is no text. -/
def clusterId (segment : List Char) : Except Response String :=
  match decodeUtf8? (percentDecode segment) with
  | some chars => .ok (.ofList chars)
  | none =>
      .error (.text 400 "Invalid URL: Invalid UTF-8 in `cluster_id`")

/-- The description of a cluster in a body, or the response to a body that
holds none. -/
def description (request : Request) : Except Response ClusterDescription :=
  let isJson :=
    match request.contentType with
    | some value => MediaType.isJson (Header.mk "content-type" value).received
    | none => false
  if !isJson then
    .error (.text 415
      "Expected request with `Content-Type: application/json`")
  else if largestBody < request.body.utf8ByteSize then
    .error (.text 413
      "Failed to buffer the request body: length limit exceeded")
  else
    match Json.decode ClusterDescription.reader request.body with
    | .ok description => .ok description
    | .error .unsuitable =>
        .error (.text 422
          ("Failed to deserialize the JSON body into the target type: " ++
            Json.Problem.unsuitable.message))
    | .error problem =>
        .error (.text 400
          ("Failed to parse the request body as JSON: " ++ problem.message))

/-- The parameter that tells when a deletion was requested. -/
def requestedAtName : String := "deletion_requested_at"

/-- The text of the time at which a deletion was requested, if the query gives
one, or the response to a query that gives more. -/
def requestedAtText (request : Request) : Except Response (Option String) :=
  let values := (decodeForm request.query).filter (·.1 == requestedAtName)
  match values with
  | [] => .ok none
  | [(_, value)] => .ok (some value)
  | _ =>
      .error (.text 400
        "Failed to deserialize query string: duplicate field")

/-- The time at which a deletion was requested, now if the query gives none, or
the response to a query that gives no time. -/
def requestedAt (request : Request) (now : Timestamp) :
    Except Response Timestamp := do
  match ← requestedAtText request with
  | none => return now
  | some value =>
      match Rfc3339.read value with
      | .ok time => return time
      | .error fault =>
          throw (.failure 400
            ("invalid deletion_requested_at " ++ quoted value ++ ": " ++
              fault.message))

/-- The response to a failure; `remote` is the status if the probe service is
to blame. -/
def failureResponse (remote : Nat) (error : SyncError) : Response :=
  .failure (if error.isInvalidInput then 400 else remote) error.message

def lookupResponse (clusterId : String) :
    Except ProbeError (Option Probe) → Response
  | .ok (some probe) => .json 200 probe.json
  | .ok none => .failure 404 ("no probe for cluster " ++ clusterId)
  | .error error => .failure 502 error.message

def ensureResponse : Except SyncError EnsureOutcome → Response
  | .ok outcome => .json 200 outcome.json
  | .error error => failureResponse 502 error

def deletionJson : DeletionOutcome → Json.Value
  | .deleted => .object [("outcome", .string DeletionOutcome.deleted.name)]
  | .failOpen error =>
      .object [("error", .string error.message),
        ("outcome", .string (DeletionOutcome.failOpen error).name)]

def deletionResponse : Except SyncError DeletionOutcome → Response
  | .ok outcome => .json 200 (deletionJson outcome)
  | .error error => failureResponse 503 error

/-- The response that shows the metrics, if they are kept. -/
def metricsResponse : Option Tally → Response
  | some tally =>
      .text 200 (String.join (tally.map fun entry =>
        entry.1 ++ " " ++ entry.2.repr ++ "\n"))
  | none => .text 404 "metrics recorder not installed"

/-- Either refuses a request or goes on with what it holds. -/
def orRefuse {α : Type} (checked : Except Response α)
    (next : α → Plan Response) : Plan Response :=
  match checked with
  | .ok value => next value
  | .error response => pure response

namespace Server

variable (server : Server)

def perform (request : Request) (now : Timestamp) (tally : Option Tally) :
    Action → Plan Response
  | .getProbe segment =>
      orRefuse (clusterId segment) fun id =>
        lookupResponse id <$> (server.reconciler.client.getProbe id).run
  | .ensureProbe segment =>
      orRefuse (clusterId segment) fun id =>
        orRefuse (description request) fun description =>
          ensureResponse <$>
            (server.reconciler.ensureProbe (description.context id)).run
  | .deleteProbe segment =>
      orRefuse (clusterId segment) fun id =>
        orRefuse (requestedAt request now) fun requestedAt =>
          deletionResponse <$>
            (server.deletion.deleteProbeAt id requestedAt now).run
  | .showMetrics => pure (metricsResponse tally)
  | .showHealth => pure (.text 200 "ok")

def serve (request : Request) (now : Timestamp) (tally : Option Tally) :
    Plan Response :=
  orRefuse (route request) fun action =>
    let response := server.perform request now tally action
    if request.method = "HEAD" then Response.withoutBody <$> response
    else response

end Server

end ProbeLifecycle.Web
