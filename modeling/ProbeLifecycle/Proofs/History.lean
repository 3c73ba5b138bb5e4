import Mathlib.Control.Monad.Basic
import ProbeLifecycle.Plan.Run

/-!
# The history of a run

What a run has measured and exchanged is read off its events, and so is how it
has changed its surroundings: only clock readings and exchanges do.  Plans with
failures are run like all plans, with the failure as a result.
-/

namespace ProbeLifecycle

section Views

variable (first second events : List Event)

@[simp]
theorem measurements_nil : measurements [] = [] :=
  rfl

@[simp]
theorem measurements_cons (event : Event) :
    measurements (event :: events) =
      (match event with
        | .measured measurement => [measurement]
        | _ => []) ++ measurements events := by
  cases event <;> rfl

@[simp]
theorem measurements_append :
    measurements (first ++ second) =
      measurements first ++ measurements second := by
  simp only [measurements, List.filterMap_append]

@[simp]
theorem exchanges_nil : exchanges [] = [] :=
  rfl

@[simp]
theorem exchanges_cons (event : Event) :
    exchanges (event :: events) =
      (match event with
        | .exchanged request delivery => [(request, delivery)]
        | _ => []) ++ exchanges events := by
  cases event <;> rfl

@[simp]
theorem exchanges_append :
    exchanges (first ++ second) = exchanges first ++ exchanges second := by
  simp only [exchanges, List.filterMap_append]

end Views

section Failures

variable {ε α β : Type}

@[simp]
theorem mapError_ok {ε' : Type} (translate : ε → ε') (value : α) :
    (Except.ok value).mapError translate = .ok value :=
  rfl

@[simp]
theorem mapError_error {ε' : Type} (translate : ε → ε') (error : ε) :
    (Except.error error : Except ε α).mapError translate =
      .error (translate error) :=
  rfl

theorem run_lift_bind (plan : Plan α) (next : α → ExceptT ε Plan β) :
    ((liftM plan : ExceptT ε Plan α) >>= next).run =
      plan.bind fun value => (next value).run := by
  change (plan.bind fun value => .done (Except.ok value)).bind _ = _
  rw [Plan.bind_assoc]
  rfl

theorem run_except_bind (plan : ExceptT ε Plan α)
    (next : α → ExceptT ε Plan β) :
    (plan >>= next).run =
      plan.run.bind fun
        | .ok value => (next value).run
        | .error error => .done (.error error) := by
  rw [ExceptT.run_bind]
  change Plan.bind _ _ = _
  congr 1

theorem run_adapt {ε' : Type} (translate : ε → ε') (plan : ExceptT ε Plan α) :
    (ExceptT.adapt translate plan).run =
      plan.run.bind fun result => .done (result.mapError translate) :=
  rfl

end Failures

def Conclusion.map {α β : Type} (change : α → β) :
    Conclusion α → Conclusion β
  | .finished value => .finished (change value)
  | .halted cause => .halted cause

theorem Conclusion.map_eq_finished {α β : Type} {change : α → β}
    {conclusion : Conclusion α} {result : β} :
    conclusion.map change = .finished result ↔
      ∃ value, conclusion = .finished value ∧ change value = result := by
  cases conclusion with
  | finished value => simp [map]
  | halted cause => simp [map]

namespace Surroundings

variable {ω : Type} (surroundings : Surroundings ω)

/-- What is made of the result changes nothing else of a run. -/
theorem run_map {α β : Type} (change : α → β) (plan : Plan α)
    (cache : Option AccessToken) (world : ω) :
    (change <$> plan).run surroundings cache world =
      let run := plan.run surroundings cache world
      ⟨run.conclusion.map change, run.cache, run.world, run.events⟩ := by
  change (plan.bind fun value => .done (change value)).run surroundings cache
    world = _
  rw [Plan.run_bind]
  generalize plan.run surroundings cache world = run
  obtain ⟨conclusion, cache, world, events⟩ := run
  cases conclusion with
  | halted cause => rfl
  | finished value => simp [Run.andThen, Plan.run, Conclusion.map]

/-- From one state the surroundings come to another while events happen. -/
inductive Pass : ω → List Event → ω → Prop where
  | idle {world} : Pass world [] world
  | clock {world later events}
      (rest : Pass (surroundings.clock world).2 events later) :
      Pass world (.clockRead (surroundings.clock world).1 :: events) later
  | exchange {world later events} (request : Request)
      (rest : Pass (surroundings.exchange request world).2 events later) :
      Pass world
        (.exchanged request (surroundings.exchange request world).1 :: events)
        later
  | locked {world later events} (rest : Pass world events later) :
      Pass world (.locked :: events) later
  | unlocked {world later events} (cached : Option AccessToken)
      (rest : Pass world events later) :
      Pass world (.unlocked cached :: events) later
  | measured {world later events} (measurement : Measurement)
      (rest : Pass world events later) :
      Pass world (.measured measurement :: events) later

/-- A run brings the surroundings to the state that it leaves. -/
theorem pass_run {α : Type} (plan : Plan α) (cache : Option AccessToken)
    (world : ω) :
    surroundings.Pass world (plan.run surroundings cache world).events
      (plan.run surroundings cache world).world := by
  induction plan generalizing cache world with
  | done value => exact .idle
  | halt cause => exact .idle
  | lock next ih => exact .locked (ih cache cache world)
  | unlock cached next ih => exact .unlocked cached (ih cached world)
  | clock next ih => exact .clock (ih _ cache _)
  | exchange request next ih => exact .exchange request (ih _ cache _)
  | measure measurement next ih => exact .measured measurement (ih cache world)

end Surroundings

end ProbeLifecycle
