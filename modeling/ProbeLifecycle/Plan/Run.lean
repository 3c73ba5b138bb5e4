import ProbeLifecycle.Plan.Basic

/-!
# Running plans

A plan runs in surroundings that tell the time and decide what becomes of the
requests that can be sent.  A run leaves a conclusion, the token cache, the
state of the surroundings, and the events in their order.  A plan that goes on
with another leaves what running one after the other leaves.
-/

namespace ProbeLifecycle

/-- What a plan meets outside: a clock, and peers that take requests. -/
structure Surroundings (ω : Type) where
  clock : ω → Instant × ω
  deliver : Request → ω → Delivery × ω

inductive Event where
  | locked
  | unlocked (cached : Option AccessToken)
  | clockRead (now : Instant)
  | exchanged (request : Request) (delivery : Delivery)
  | measured (measurement : Measurement)
  deriving DecidableEq, Repr

inductive Conclusion (α : Type) where
  | finished (value : α)
  | halted (cause : Fatal)
  deriving DecidableEq, Repr

structure Run (ω α : Type) where
  conclusion : Conclusion α
  cache : Option AccessToken
  world : ω
  events : List Event

namespace Run

variable {ω α β : Type}

def after (run : Run ω α) (event : Event) : Run ω α :=
  { run with events := event :: run.events }

/-- The run that goes on where this one has ended, unless it broke off. -/
def andThen (run : Run ω α)
    (next : α → Option AccessToken → ω → Run ω β) : Run ω β :=
  match run.conclusion with
  | .finished value =>
      let later := next value run.cache run.world
      { later with events := run.events ++ later.events }
  | .halted cause => ⟨.halted cause, run.cache, run.world, run.events⟩

theorem after_andThen (run : Run ω α) (event : Event)
    (next : α → Option AccessToken → ω → Run ω β) :
    (run.after event).andThen next = (run.andThen next).after event := by
  unfold andThen after
  cases run.conclusion <;> rfl

end Run

namespace Surroundings

variable {ω : Type}

def exchange (surroundings : Surroundings ω) (request : Request) (world : ω) :
    Delivery × ω :=
  match request.message? with
  | some _ => surroundings.deliver request world
  | none => (.unsent, world)

end Surroundings

def Plan.run {ω α : Type} (surroundings : Surroundings ω) :
    Plan α → Option AccessToken → ω → Run ω α
  | .done value, cache, world => ⟨.finished value, cache, world, []⟩
  | .halt cause, cache, world => ⟨.halted cause, cache, world, []⟩
  | .lock next, cache, world =>
      ((next cache).run surroundings cache world).after .locked
  | .unlock cached next, _, world =>
      (next.run surroundings cached world).after (.unlocked cached)
  | .clock next, cache, world =>
      let (now, world) := surroundings.clock world
      ((next now).run surroundings cache world).after (.clockRead now)
  | .exchange request next, cache, world =>
      let (delivery, world) := surroundings.exchange request world
      ((next delivery).run surroundings cache world).after
        (.exchanged request delivery)
  | .measure measurement next, cache, world =>
      (next.run surroundings cache world).after (.measured measurement)

theorem Plan.run_bind {ω α β : Type} (surroundings : Surroundings ω)
    (plan : Plan α) (next : α → Plan β) (cache : Option AccessToken)
    (world : ω) :
    (plan.bind next).run surroundings cache world =
      (plan.run surroundings cache world).andThen fun value =>
        (next value).run surroundings := by
  induction plan generalizing cache world with
  | done value => simp [Plan.bind, Plan.run, Run.andThen]
  | halt cause => rfl
  | lock rest ih => simp [Plan.bind, Plan.run, Run.after_andThen, ih]
  | unlock cached rest ih => simp [Plan.bind, Plan.run, Run.after_andThen, ih]
  | clock rest ih => simp [Plan.bind, Plan.run, Run.after_andThen, ih]
  | exchange request rest ih =>
      simp [Plan.bind, Plan.run, Run.after_andThen, ih]
  | measure measurement rest ih =>
      simp [Plan.bind, Plan.run, Run.after_andThen, ih]

def measurements (events : List Event) : List Measurement :=
  events.filterMap fun
    | .measured measurement => some measurement
    | _ => none

def exchanges (events : List Event) : List (Request × Delivery) :=
  events.filterMap fun
    | .exchanged request delivery => some (request, delivery)
    | _ => none

end ProbeLifecycle
