import ProbeLifecycle.Probe.Collection
import ProbeLifecycle.Settings
import ProbeLifecycle.Token.Provider

/-!
# Operations on probes

The client of the probe service creates, finds and terminates probes in one
tenant's collection.  With a token provider every request is authenticated, and
none is sent without a token.  A reply with status 401 makes the cached token
unusable, whatever its body.
-/

namespace ProbeLifecycle

structure ProbeClient where
  collection : Collection
  provider : Option TokenProvider := none
  deriving DecidableEq

/-- An operation on probes: a plan with a result or a failure. -/
abbrev ProbePlan (α : Type) := ExceptT ProbeError Plan α

/-- The status with which a service refuses a token. -/
def unauthorizedStatus : Nat := 401

/-- The status with which a service says that there is nothing. -/
def notFoundStatus : Nat := 404

namespace ProbeClient

variable (client : ProbeClient)

def ofSettings (settings : Settings) : Except ProbeError ProbeClient :=
  (Collection.ofBase settings.probeApiUrl settings.tenant).map fun collection =>
    { collection
      provider := settings.oidc.map fun oidc =>
        ⟨oidc, settings.tokenExpiryLeeway⟩ }

def isAuthenticated : Bool :=
  client.provider.isSome

def callUrl : Call → Url
  | .lookup clusterId => client.collection.lookupUrl clusterId
  | .create _ => client.collection.url
  | .terminate clusterId => client.collection.probeUrl clusterId

/-- The proof of identity for the next request, if the client has a provider. -/
def bearer : ProbePlan (Option Bearer) :=
  match client.provider with
  | none => pure none
  | some provider => do
      match ← provider.token with
      | .ok token => pure (some ⟨token.value, provider.client.clientId⟩)
      | .error error => throw (.auth error)

def dropRefusedToken (delivery : Delivery) : Plan Unit :=
  if delivery.status? = some unauthorizedStatus ∧ client.isAuthenticated then
    invalidateToken
  else pure ()

def apiRequest (call : Call) (bearer : Option Bearer) : ApiRequest where
  call := call
  url := client.callUrl call
  tenant := client.collection.tenant
  bearer := bearer

def execute (call : Call) : ProbePlan Reply := do
  let bearer ← client.bearer
  let delivery ← Plan.send (.api (client.apiRequest call bearer))
  client.dropRefusedToken delivery
  match delivery.receive with
  | .ok reply => pure reply
  | .error fault => throw (.transport fault)

def measured {α : Type} (operation : Operation) (plan : ProbePlan α) :
    ProbePlan α :=
  ExceptT.mk do
    let result ← plan.run
    Plan.record (.request operation result.isOk)
    return result

def refusal (reply : Reply) : ProbeError :=
  .api reply.status reply.body

def decodeReply {α : Type} (read : Json.Reader α) (reply : Reply) :
    Except ProbeError α :=
  (Json.decode read reply.body).mapError .decode

def createdProbe (reply : Reply) : Except ProbeError Probe :=
  if isSuccess reply.status then decodeReply Probe.reader reply
  else .error (refusal reply)

/-- The probes of a cluster in a listing, in its order. -/
def matching (clusterId : String) (probes : List Probe) : List Probe :=
  probes.filter fun probe => probe.cluster? == some clusterId

/-- The probes of a cluster that the service knows, given its reply. -/
def foundProbes (clusterId : String) (reply : Reply) :
    Except ProbeError (List Probe) :=
  if reply.status = notFoundStatus then .ok []
  else if isSuccess reply.status then
    (decodeReply readListing reply).map (matching clusterId)
  else .error (refusal reply)

/-- Whether the service terminates a probe or knows of none, given its reply. -/
def terminated (reply : Reply) : Except ProbeError Unit :=
  if reply.status = notFoundStatus ∨ isSuccess reply.status then .ok ()
  else .error (refusal reply)

def createProbe (request : ProbeRequest) : ProbePlan Probe :=
  measured .createProbe do
    let reply ← client.execute (.create request)
    Plan.ofExcept (createdProbe reply)

/-- Finds the first probe of a cluster; more than one is measured. -/
def getProbe (clusterId : String) : ProbePlan (Option Probe) :=
  measured .getProbe do
    let reply ← client.execute (.lookup clusterId)
    match ← Plan.ofExcept (foundProbes clusterId reply) with
    | first :: _ :: _ =>
        Plan.record .duplicateProbes
        return some first
    | probes => return probes.head?

/-- Terminates the probe of a cluster, if there is one. -/
def deleteProbe (clusterId : String) : ProbePlan Unit :=
  measured .deleteProbe do
    match ← ExceptT.adapt .lookup (client.getProbe clusterId) with
    | none => return ()
    | some _ =>
        let reply ← client.execute (.terminate clusterId)
        Plan.ofExcept (terminated reply)

end ProbeClient

end ProbeLifecycle
