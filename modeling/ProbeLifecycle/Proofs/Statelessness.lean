import ProbeLifecycle.Plan.Surroundings
import ProbeLifecycle.Proofs.Tallies
import ProbeLifecycle.Proofs.WebOperations

/-!
# What one step leaves for another

Steps are taken in turns, each in surroundings of its own.  What a service keeps
from one turn to the next is the token cache and what has been measured, and only
the page with the metrics shows the latter.  A client without a provider has no use
for the cache.  Its turns are therefore independent of each other: in another order
they answer and send the same, and no series tells the orders apart.  The steps of a
session are turns in common surroundings.
-/

namespace ProbeLifecycle

/-- A step with the surroundings that it meets. -/
structure Turn (ω : Type) where
  step : Step
  surroundings : Surroundings ω
  world : ω

/-- What a service keeps from one turn to the next. -/
structure Memory where
  cache : Option AccessToken := none
  measured : List Measurement := []

def Step.ShowsMetrics : Step → Prop
  | .web request _ => Web.route request = .ok .showMetrics
  | _ => False

theorem Procedure.run_unauthenticated {α ω : Type} {client : ProbeClient}
    (unauthenticated : client.provider = none) (procedure : Procedure α)
    (surroundings : Surroundings ω) (cache : Option AccessToken) (world : ω) :
    (procedure.plan client).run surroundings cache world =
      { (procedure.plan client).run surroundings none world with
        cache := cache } := by
  induction procedure generalizing world with
  | finish value => rfl
  | measure measurement next ih =>
      simp only [plan, Plan.run, Run.after]
      rw [ih]
  | attempt call next ih =>
      simp only [plan, ProbeClient.execute_unauthenticated unauthenticated, Plan.bind,
        Plan.run, Run.after]
      rw [ih]

namespace Service

section Turns

variable {ω : Type} (service : Service) (metricsKept : Bool)

def takeTurn (memory : Memory) (turn : Turn ω) : StepReport × Memory :=
  let (report, state) := service.step metricsKept turn.surroundings
    { cache := memory.cache, world := turn.world, measured := memory.measured }
    turn.step
  (report, ⟨state.cache, state.measured⟩)

def takeTurns (memory : Memory) : List (Turn ω) → List StepReport × Memory
  | [] => ([], memory)
  | turn :: turns =>
      let (report, memory) := service.takeTurn metricsKept memory turn
      let (reports, memory) := takeTurns memory turns
      (report :: reports, memory)

/-- What a turn does if nothing was done before. -/
def alone (turn : Turn ω) : StepReport :=
  (service.takeTurn false {} turn).1

/-- In a session, each step meets what the steps before it have left of the
surroundings. -/
theorem exists_takeTurns_eq_session (surroundings : Surroundings ω)
    (state : SessionState ω) (steps : List Step) :
    let taken := service.session metricsKept surroundings state steps
    ∃ turns : List (Turn ω), turns.map Turn.step = steps ∧
      (∀ turn ∈ turns, turn.surroundings = surroundings) ∧
      service.takeTurns metricsKept ⟨state.cache, state.measured⟩ turns =
        (taken.1, ⟨taken.2.cache, taken.2.measured⟩) := by
  induction steps generalizing state with
  | nil => exact ⟨[], rfl, by simp, rfl⟩
  | cons next steps ih =>
      obtain ⟨turns, areSteps, meet, taken⟩ :=
        ih (service.step metricsKept surroundings state next).2
      refine ⟨⟨next, surroundings, state.world⟩ :: turns, ?_, ?_, ?_⟩
      · rw [List.map_cons, areSteps]
      · simpa using meet
      · simp only [takeTurns, takeTurn, session, taken]

theorem plan_eq_of_not_showsMetrics {step : Step} (blind : ¬ step.ShowsMetrics)
    (tally other : Option Tally) :
    service.plan tally step = service.plan other step := by
  cases step with
  | web request now =>
      simp only [plan, Web.Server.serve]
      cases routed : Web.route request with
      | error response => rfl
      | ok action =>
          cases action with
          | showMetrics => exact absurd routed blind
          | _ => rfl
  | _ => rfl

variable {turn : Turn ω} {turns : List (Turn ω)}

theorem takeTurn_of_cache (blind : ¬ turn.step.ShowsMetrics) (memory : Memory)
    {cache : Option AccessToken} (same : memory.cache = cache) :
    let run := (service.plan none turn.step).run turn.surroundings cache turn.world
    service.takeTurn metricsKept memory turn =
      (⟨run.conclusion, run.events⟩,
        ⟨run.cache, memory.measured ++ measurements run.events⟩) := by
  simp only [takeTurn, step]
  rw [service.plan_eq_of_not_showsMetrics blind _ none, same]

/-- What turns do depends on what was kept only by the cache. -/
theorem takeTurns_of_cache (blind : ∀ turn ∈ turns, ¬ turn.step.ShowsMetrics)
    (memory other : Memory) (same : memory.cache = other.cache) :
    let taken := service.takeTurns metricsKept memory turns
    let takenToo := service.takeTurns metricsKept other turns
    taken.1 = takenToo.1 ∧ taken.2.cache = takenToo.2.cache ∧
      ∃ added, taken.2.measured = memory.measured ++ added ∧
        takenToo.2.measured = other.measured ++ added := by
  induction turns generalizing memory other with
  | nil => exact ⟨rfl, same, [], by simp [takeTurns], by simp [takeTurns]⟩
  | cons turn turns ih =>
      have blindNow : ¬ turn.step.ShowsMetrics := blind turn List.mem_cons_self
      have blindLater : ∀ turn ∈ turns, ¬ turn.step.ShowsMetrics :=
        fun turn member => blind turn (List.mem_cons_of_mem _ member)
      simp only [takeTurns,
        service.takeTurn_of_cache metricsKept blindNow memory same,
        service.takeTurn_of_cache metricsKept blindNow other rfl]
      generalize (service.plan none turn.step).run turn.surroundings other.cache
        turn.world = run
      obtain ⟨sameReports, sameCache, added, measured, measuredToo⟩ :=
        ih blindLater ⟨run.cache, memory.measured ++ measurements run.events⟩
          ⟨run.cache, other.measured ++ measurements run.events⟩ rfl
      refine ⟨by rw [sameReports], sameCache,
        measurements run.events ++ added, ?_, ?_⟩
      · rw [measured, List.append_assoc]
      · rw [measuredToo, List.append_assoc]

end Turns

section Unauthenticated

variable {ω : Type} {client : ProbeClient} (onlyPublicClusters : Bool) (deletionTimeout : Nat) (metricsKept : Bool)
  {turn : Turn ω} {turns : List (Turn ω)}

theorem takeTurn_unauthenticated (unauthenticated : client.provider = none)
    (blind : ¬ turn.step.ShowsMetrics) (memory : Memory) :
    let service := ofClient client onlyPublicClusters deletionTimeout
    service.takeTurn metricsKept memory turn =
      (service.alone turn,
        ⟨memory.cache,
          memory.measured ++ measurements (service.alone turn).events⟩) := by
  intro service
  obtain ⟨procedure, isPlan⟩ :=
    exists_procedure onlyPublicClusters deletionTimeout none turn.step
  have run_eq : (service.plan none turn.step).run turn.surroundings memory.cache
        turn.world =
      { (service.plan none turn.step).run turn.surroundings none turn.world with
        cache := memory.cache } := by
    rw [← isPlan client]
    exact procedure.run_unauthenticated unauthenticated turn.surroundings
      memory.cache turn.world
  unfold alone
  rw [service.takeTurn_of_cache metricsKept blind memory rfl,
    service.takeTurn_of_cache false blind {} rfl, run_eq]

theorem takeTurns_unauthenticated (unauthenticated : client.provider = none)
    (blind : ∀ turn ∈ turns, ¬ turn.step.ShowsMetrics) (memory : Memory) :
    let service := ofClient client onlyPublicClusters deletionTimeout
    service.takeTurns metricsKept memory turns =
      (turns.map service.alone,
        ⟨memory.cache,
          memory.measured ++
            turns.flatMap fun turn =>
              measurements (service.alone turn).events⟩) := by
  intro service
  induction turns generalizing memory with
  | nil => simp [takeTurns]
  | cons turn turns ih =>
      have blindNow : ¬ turn.step.ShowsMetrics := blind turn List.mem_cons_self
      have blindLater : ∀ turn ∈ turns, ¬ turn.step.ShowsMetrics :=
        fun turn member => blind turn (List.mem_cons_of_mem _ member)
      have now := takeTurn_unauthenticated onlyPublicClusters deletionTimeout
        metricsKept unauthenticated blindNow memory
      simp only [takeTurns]
      rw [now, ih blindLater]
      simp only [List.map_cons, List.flatMap_cons, List.append_assoc]
      rfl

/-- In a session each step reports what it would report alone in the surroundings that it
meets. -/
theorem session_unauthenticated (unauthenticated : client.provider = none)
    (surroundings : Surroundings ω) (state : SessionState ω) {steps : List Step}
    (blind : ∀ step ∈ steps, ¬ step.ShowsMetrics) :
    let service := ofClient client onlyPublicClusters deletionTimeout
    ∃ turns : List (Turn ω), turns.map Turn.step = steps ∧
      (∀ turn ∈ turns, turn.surroundings = surroundings) ∧
      (service.session metricsKept surroundings state steps).1 =
        turns.map service.alone := by
  intro service
  obtain ⟨turns, areSteps, meet, taken⟩ :=
    service.exists_takeTurns_eq_session metricsKept surroundings state steps
  have blindToo : ∀ turn ∈ turns, ¬ turn.step.ShowsMetrics := by
    rintro turn member
    exact blind turn.step (areSteps ▸ List.mem_map_of_mem member)
  have alone := takeTurns_unauthenticated onlyPublicClusters deletionTimeout metricsKept
    unauthenticated blindToo ⟨state.cache, state.measured⟩
  exact ⟨turns, areSteps, meet, congrArg Prod.fst (taken.symm.trans alone)⟩

variable (client) in
/-- Turns that do not show the metrics influence each other only through the token
cache: after any two histories that leave the same cache they answer, exchange and
measure the same.  Without a provider not even that matters.  Each turn does what it
would do alone, and in any other order the turns report the same and raise every
series by the same. -/
theorem takeTurns_independent
    (blind : ∀ turn ∈ turns, ¬ turn.step.ShowsMetrics) :
    let service := ofClient client onlyPublicClusters deletionTimeout
    let taken := service.takeTurns metricsKept
    (∀ memory other : Memory, memory.cache = other.cache →
      (taken memory turns).1 = (taken other turns).1 ∧
        (taken memory turns).2.cache = (taken other turns).2.cache ∧
        ∃ added, (taken memory turns).2.measured = memory.measured ++ added ∧
          (taken other turns).2.measured = other.measured ++ added) ∧
      (client.provider = none → ∀ memory : Memory, ∀ reordered,
        reordered.Perm turns →
          (taken memory reordered).1 = reordered.map service.alone ∧
            (reordered.zip (taken memory reordered).1).Perm
              (turns.zip (taken memory turns).1) ∧
            (taken memory reordered).2.cache = memory.cache ∧
            ∀ name,
              (Tally.ofMeasurements (taken memory reordered).2.measured).recorded
                  name =
                (Tally.ofMeasurements (taken memory turns).2.measured).recorded
                  name) := by
  intro service taken
  constructor
  · intro memory other same
    exact service.takeTurns_of_cache metricsKept blind memory other same
  · intro unauthenticated memory reordered perm
    have blindToo : ∀ turn ∈ reordered, ¬ turn.step.ShowsMetrics :=
      fun turn member => blind turn (perm.mem_iff.mp member)
    have inOrder : taken memory turns = _ :=
      takeTurns_unauthenticated onlyPublicClusters deletionTimeout metricsKept
        unauthenticated blind memory
    have inOther : taken memory reordered = _ :=
      takeTurns_unauthenticated onlyPublicClusters deletionTimeout metricsKept
        unauthenticated blindToo memory
    rw [inOrder, inOther]
    refine ⟨rfl, ?_, rfl, fun name => ?_⟩
    · rw [← List.map_prod_left_eq_zip, ← List.map_prod_left_eq_zip]
      exact perm.map _
    · apply Tally.recorded_perm
      exact (perm.flatMap_right _).append_left _

/-- A pass that fails and a deletion that finds nothing, taken the other way round. -/
theorem takeTurns_independent_swapped :
    let client : ProbeClient :=
      ⟨⟨{ scheme := .http, host := "probes" }, "hcp"⟩, none⟩
    let service := ofClient client false 900
    let time := Timestamp.ofLocal 736694 0 0 0
    let pass : Turn (List ScriptedReply) :=
      ⟨.ensure ⟨"c1", "api.c1", .publicOnly, none⟩, .scripted ⟨5⟩,
        [⟨some 500, .complete []⟩]⟩
    let deletion : Turn (List ScriptedReply) :=
      ⟨.deleteAt "c2" time time, .scripted ⟨9⟩, [⟨some 404, .complete []⟩]⟩
    let taken := service.takeTurns true {}
    let lookupFailures := fun turns =>
      (Tally.ofMeasurements (taken turns).2.measured).recorded
        (requestTotalSeries .getProbe false)
    (∀ turn ∈ [pass, deletion], ¬ turn.step.ShowsMetrics) ∧
      client.provider = none ∧
      (taken [deletion, pass]).1 = [service.alone deletion, service.alone pass] ∧
      lookupFailures [deletion, pass] = lookupFailures [pass, deletion] ∧
      lookupFailures [pass, deletion] = 1 := by
  intro client service time pass deletion taken lookupFailures
  have blind : ∀ turn ∈ [pass, deletion], ¬ turn.step.ShowsMetrics := by
    simp [pass, deletion, Step.ShowsMetrics]
  have counted : lookupFailures [pass, deletion] = 1 := by decide +kernel
  obtain ⟨reports, -, -, sameSeries⟩ :=
    (takeTurns_independent client false 900 true blind).2 rfl {}
      [deletion, pass] (.swap _ _ _)
  exact ⟨blind, rfl, reports, sameSeries _, counted⟩

end Unauthenticated

end Service

end ProbeLifecycle
