import ProbeLifecycle.Plan.Run
import ProbeLifecycle.Service.Basic

/-!
# Sessions

A session is a sequence of steps that the service takes one after the other.
What one step leaves for the next is the token cache, the state of the
surroundings and what has been measured.
-/

namespace ProbeLifecycle

inductive Step where
  | create (request : ProbeRequest)
  | get (clusterId : String)
  | delete (clusterId : String)
  | ensure (context : ClusterContext)
  | deleteAt (clusterId : String) (requestedAt now : Timestamp)
  | web (request : Web.Request) (now : Timestamp)
  deriving DecidableEq

inductive Answer where
  | created (result : Except ProbeError Probe)
  | found (result : Except ProbeError (Option Probe))
  | deleted (result : Except ProbeError Unit)
  | ensured (result : Except SyncError EnsureOutcome)
  | deletion (result : Except SyncError DeletionOutcome)
  | response (response : Web.Response)

namespace Service

variable (service : Service)

/-- The plan of a step, with the metrics that are kept, if they are. -/
def plan (tally : Option Tally) : Step → Plan Answer
  | .create request => .created <$> (service.client.createProbe request).run
  | .get clusterId => .found <$> (service.client.getProbe clusterId).run
  | .delete clusterId => .deleted <$> (service.client.deleteProbe clusterId).run
  | .ensure context => .ensured <$> (service.reconciler.ensureProbe context).run
  | .deleteAt clusterId requestedAt now =>
      .deletion <$> (service.deletion.deleteProbeAt clusterId requestedAt now).run
  | .web request now => .response <$> service.server.serve request now tally

end Service

/-- What a session has left behind so far. -/
structure SessionState (ω : Type) where
  cache : Option AccessToken := none
  world : ω
  measured : List Measurement := []

/-- What a step did: how it ended and the events in their order. -/
structure StepReport where
  conclusion : Conclusion Answer
  events : List Event

namespace Service

variable {ω : Type} (service : Service) (metricsKept : Bool)

def step (surroundings : Surroundings ω) (state : SessionState ω) (step : Step) :
    StepReport × SessionState ω :=
  let tally :=
    if metricsKept then some (Tally.ofMeasurements state.measured) else none
  let run := (service.plan tally step).run surroundings state.cache state.world
  (⟨run.conclusion, run.events⟩,
    { cache := run.cache
      world := run.world
      measured := state.measured ++ measurements run.events })

def session (surroundings : Surroundings ω) (state : SessionState ω) :
    List Step → List StepReport × SessionState ω
  | [] => ([], state)
  | next :: steps =>
      let (report, state) := service.step metricsKept surroundings state next
      let (reports, state) := session surroundings state steps
      (report :: reports, state)

end Service

end ProbeLifecycle
