import ProbeLifecycle.Plan.Interleaving
import ProbeLifecycle.Proofs.WebOperations

/-!
# Discipline at the lock

Whoever takes the lock of the token cache gives it back, does not take it twice, and
does not end with it.  All steps of a service keep to that.  Tasks that do are never
stuck: as long as one of them has not come to its end, some task can act.  And what
a plan does in a run of its own it can do among other tasks while these rest.
-/

namespace ProbeLifecycle

/-- Without the lock, or with it, a plan takes the lock only if it does not have it,
gives it back only if it does, and does not end with it. -/
def Plan.GivesBack {α : Type} : Prop → Plan α → Prop
  | held, .done _ => ¬ held
  | held, .halt _ => ¬ held
  | held, .lock next => ¬ held ∧ ∀ found, (next found).GivesBack True
  | held, .unlock _ next => held ∧ next.GivesBack False
  | held, .clock next => ∀ now, (next now).GivesBack held
  | held, .exchange _ next => ∀ delivery, (next delivery).GivesBack held
  | held, .measure _ next => next.GivesBack held

section Operations

variable {α β : Type}

theorem Plan.givesBack_bind {plan : Plan α} {next : α → Plan β} {held : Prop}
    (first : plan.GivesBack held) (second : ∀ value, (next value).GivesBack False) :
    (plan.bind next).GivesBack held := by
  induction plan generalizing held with
  | done value =>
      rw [eq_false first]
      exact second value
  | halt cause => exact first
  | lock rest ih => exact ⟨first.1, fun found => ih found (first.2 found)⟩
  | unlock left rest ih => exact ⟨first.1, ih first.2⟩
  | clock rest ih => exact fun now => ih now (first now)
  | exchange request rest ih => exact fun delivery => ih delivery (first delivery)
  | measure measurement rest ih => exact ih first

theorem TokenProvider.givesBack_refresh (provider : TokenProvider)
    (cached : Option AccessToken) : (provider.refresh cached).GivesBack True := by
  rw [refresh_steps]
  intro fetchedAt delivery
  dsimp only
  split
  · exact ⟨trivial, id⟩
  · split
    · exact ⟨trivial, id⟩
    · exact ⟨trivial, id⟩

theorem TokenProvider.givesBack_token (provider : TokenProvider) :
    provider.token.GivesBack False := by
  rw [token_steps]
  refine ⟨id, fun cached => ?_⟩
  cases cached with
  | none => exact provider.givesBack_refresh none
  | some token =>
      intro now
      dsimp only
      split
      · exact ⟨trivial, id⟩
      · exact provider.givesBack_refresh (some token)

theorem givesBack_invalidateToken : invalidateToken.GivesBack False :=
  ⟨id, fun _ => ⟨trivial, id⟩⟩

theorem ProbeClient.givesBack_execute (client : ProbeClient) (call : Call) :
    (client.execute call).run.GivesBack False := by
  rw [execute_steps, bearer_steps]
  apply Plan.givesBack_bind
  · cases client.provider with
    | none => exact id
    | some provider =>
        apply Plan.givesBack_bind provider.givesBack_token
        intro result
        cases result with
        | error error => exact id
        | ok token => exact id
  · intro result
    cases result with
    | error error => exact id
    | ok bearer =>
        intro delivery
        apply Plan.givesBack_bind
        · unfold dropRefusedToken
          split
          · exact givesBack_invalidateToken
          · exact id
        · exact fun _ => id

theorem Procedure.givesBack_plan (client : ProbeClient) (procedure : Procedure α) :
    (procedure.plan client).GivesBack False := by
  induction procedure with
  | finish value => exact id
  | measure measurement next ih => exact ih
  | attempt call next ih =>
      exact Plan.givesBack_bind (client.givesBack_execute call) ih

theorem Service.givesBack_plan (client : ProbeClient) (onlyPublicClusters : Bool)
    (deletionTimeout : Nat) (tally : Option Tally) (step : Step) :
    ((ofClient client onlyPublicClusters deletionTimeout).plan tally
      step).GivesBack False := by
  obtain ⟨procedure, isPlan⟩ :=
    exists_procedure onlyPublicClusters deletionTimeout tally step
  rw [← isPlan]
  exact procedure.givesBack_plan client

end Operations

section Progress

variable {α : Type}

/-- The discipline for what is left of a plan. -/
def Progress.GivesBack (held : Prop) : Progress α → Prop
  | ready plan => plan.GivesBack held
  | awaiting _ next => ∀ delivery, (next delivery).GivesBack held

theorem Progress.Does.givesBack {progress later : Progress α} {act : Act}
    {held : Prop} (does : progress.Does act later)
    (givesBack : progress.GivesBack held) : later.GivesBack held := by
  cases does with
  | readClock now => exact givesBack now
  | send => exact givesBack
  | receive delivery => exact givesBack delivery
  | measure => exact givesBack

/-- With the lock, a task can go on by itself: without the cache, or by giving the
lock back. -/
theorem Progress.GivesBack.goesOn {progress : Progress α}
    (givesBack : progress.GivesBack True) :
    (∃ act later, progress.Does act later) ∨
      ∃ left next, progress = .ready (.unlock left next) := by
  cases progress with
  | awaiting request next =>
      exact .inl ⟨_, _, .receive .unsent fun _ => rfl⟩
  | ready plan =>
      cases plan with
      | done value => exact absurd trivial givesBack
      | halt cause => exact absurd trivial givesBack
      | lock next => exact absurd trivial givesBack.1
      | unlock left next => exact .inr ⟨left, next, rfl⟩
      | clock next => exact .inl ⟨_, _, .readClock ⟨0⟩⟩
      | exchange request next => exact .inl ⟨_, _, .send⟩
      | measure measurement next => exact .inl ⟨_, _, .measure⟩

/-- Without the lock, a task has ended, waits for the lock or can go on without
it. -/
theorem Progress.GivesBack.waits {progress : Progress α}
    (givesBack : progress.GivesBack False) :
    (∃ conclusion, progress.conclusion? = some conclusion) ∨
      (∃ next, progress = .ready (.lock next)) ∨
      ∃ act later, progress.Does act later := by
  cases progress with
  | awaiting request next =>
      exact .inr (.inr ⟨_, _, .receive .unsent fun _ => rfl⟩)
  | ready plan =>
      cases plan with
      | done value => exact .inl ⟨_, rfl⟩
      | halt cause => exact .inl ⟨_, rfl⟩
      | lock next => exact .inr (.inl ⟨next, rfl⟩)
      | unlock left next => exact absurd givesBack.1 id
      | clock next => exact .inr (.inr ⟨_, _, .readClock ⟨0⟩⟩)
      | exchange request next => exact .inr (.inr ⟨_, _, .send⟩)
      | measure measurement next => exact .inr (.inr ⟨_, _, .measure⟩)

end Progress

namespace Scene

variable {ι α : Type} [DecidableEq ι] {start scene later : Scene ι α}
  {trace : List (ι × Act)} {task : ι} {act : Act}

/-- Every task keeps to the discipline, with the lock if it is the holder. -/
def IsDisciplined (scene : Scene ι α) : Prop :=
  ∀ task, (scene.progress task).GivesBack (scene.holder = some task)

theorem Acts.isDisciplined (acts : scene.Acts task act later)
    (disciplined : scene.IsDisciplined) : later.IsDisciplined := by
  intro other
  have before := disciplined other
  cases acts with
  | lock free waits =>
      by_cases same : other = task
      · subst same
        simp only [free, waits, Progress.GivesBack, Plan.GivesBack] at before
        simpa [locked, advance, Progress.GivesBack] using before.2 scene.cache
      · simpa [locked, advance, Function.update_of_ne same, free, Ne.symm same]
          using before
  | unlock holds leaves =>
      by_cases same : other = task
      · subst same
        simp only [leaves, Progress.GivesBack, Plan.GivesBack] at before
        simpa [unlocked, advance, Progress.GivesBack] using before.2
      · simpa [unlocked, advance, Function.update_of_ne same, holds, Ne.symm same]
          using before
  | alone does =>
      by_cases same : other = task
      · subst same
        simpa [advance] using does.givesBack before
      · simpa [advance, Function.update_of_ne same] using before

theorem Runs.isDisciplined (runs : start.Runs trace scene)
    (disciplined : start.IsDisciplined) : scene.IsDisciplined := by
  induction runs with
  | idle => exact disciplined
  | act before acts ih => exact acts.isDisciplined ih

omit [DecidableEq ι] in
theorem isDisciplined_start {cache : Option AccessToken} {plans : ι → Plan α}
    (givesBack : ∀ task, (plans task).GivesBack False) :
    (Scene.start cache plans).IsDisciplined := by
  intro task
  simpa [start, Progress.GivesBack] using givesBack task

/-- As long as some task has not come to its end, a task can act. -/
theorem IsDisciplined.exists_acts (disciplined : scene.IsDisciplined)
    (unfinished : scene.conclusion? task = none) :
    ∃ task act later, scene.Acts task act later := by
  -- A holder can always go on; without one, the unfinished task can.
  cases holds : scene.holder with
  | some holder =>
      have withLock := disciplined holder
      simp only [holds] at withLock
      rcases withLock.goesOn with ⟨act, later, does⟩ | ⟨left, next, leaves⟩
      · exact ⟨holder, act, _, .alone does⟩
      · exact ⟨holder, _, _, .unlock holds leaves⟩
  | none =>
      have withoutLock := disciplined task
      simp only [holds, reduceCtorEq] at withoutLock
      rcases withoutLock.waits with ⟨conclusion, ended⟩ | ⟨next, waits⟩ |
        ⟨act, later, does⟩
      · exact absurd (unfinished.symm.trans ended) (by simp)
      · exact ⟨task, _, _, .lock holds waits⟩
      · exact ⟨task, act, _, .alone does⟩

omit [DecidableEq ι] in
/-- Whoever has come to the end does not have the lock. -/
theorem IsDisciplined.holder_ne (disciplined : scene.IsDisciplined)
    {conclusion : Conclusion α} (ended : scene.conclusion? task = some conclusion) :
    scene.holder ≠ some task := by
  intro holds
  have withLock := disciplined task
  simp only [holds] at withLock
  unfold conclusion? at ended
  generalize scene.progress task = progress at withLock ended
  rcases withLock.goesOn with ⟨act, later, does⟩ | ⟨left, next, rfl⟩
  · cases does <;> cases ended
  · cases ended

end Scene

def Conclusion.plan {α : Type} : Conclusion α → Plan α
  | finished value => .done value
  | halted cause => .halt cause

@[simp]
theorem Conclusion.conclusion?_plan {α : Type} (conclusion : Conclusion α) :
    (Progress.ready conclusion.plan).conclusion? = some conclusion := by
  cases conclusion <;> rfl

section Alone

variable {ι α ω : Type} [DecidableEq ι]

omit [DecidableEq ι] in
/-- Nobody has the lock if nobody but a certain task can have it, who does not. -/
theorem Scene.holder_eq_none {scene : Scene ι α} {task : ι}
    (notHolder : scene.holder ≠ some task)
    (onlyHolder : ∀ holder, scene.holder = some holder → holder = task) :
    scene.holder = none := by
  rw [Option.eq_none_iff_forall_ne_some]
  intro holder holds
  obtain rfl := onlyHolder holder holds
  exact notHolder holds

/-- Nothing is left to do for a task that has come to its conclusion. -/
theorem Scene.Runs.of_ended {scene : Scene ι α} {task : ι}
    {conclusion : Conclusion α}
    (stands : scene.progress task = .ready conclusion.plan)
    (notHolder : scene.holder ≠ some task)
    (onlyHolder : ∀ holder, scene.holder = some holder → holder = task) :
    scene.Runs []
      { cache := scene.cache
        progress := Function.update scene.progress task (.ready conclusion.plan) } := by
  rw [← stands, Function.update_eq_self,
    ← Scene.holder_eq_none notHolder onlyHolder]
  exact .idle

theorem Scene.Runs.after {scene middle : Scene ι α} {task : ι} {act : Act}
    {progress ended : Progress α} {cache : Option AccessToken} {trace : List Act}
    (acts : scene.Acts task act middle)
    (moved : middle.progress = Function.update scene.progress task progress)
    (runs : middle.Runs (trace.map (task, ·))
      { cache, progress := Function.update middle.progress task ended }) :
    scene.Runs ((act :: trace).map (task, ·))
      { cache, progress := Function.update scene.progress task ended } := by
  rw [moved, Function.update_idem] at runs
  exact .cons acts runs

/-- A task can do by itself what its plan does in a run. -/
theorem Plan.runs_alone (surroundings : Surroundings ω) (plan : Plan α)
    (scene : Scene ι α) {task : ι} (world : ω)
    (stands : scene.progress task = .ready plan)
    (givesBack : plan.GivesBack (scene.holder = some task))
    (onlyHolder : ∀ holder, scene.holder = some holder → holder = task) :
    let run := plan.run surroundings scene.cache world
    ∃ acts : List Act, acts.filterMap Act.event? = run.events ∧
      scene.Runs (acts.map (task, ·))
        { cache := run.cache
          progress :=
            Function.update scene.progress task (.ready run.conclusion.plan) } := by
  -- On the plan.  The lock is free or the task's own, so no act has to wait.
  induction plan generalizing scene world with
  | done value => exact ⟨[], rfl, .of_ended stands givesBack onlyHolder⟩
  | halt cause => exact ⟨[], rfl, .of_ended stands givesBack onlyHolder⟩
  | lock next ih =>
      have free := Scene.holder_eq_none givesBack.1 onlyHolder
      have acts := Scene.Acts.lock free stands
      obtain ⟨trace, happened, runs⟩ := ih scene.cache
        (scene.locked task _) world
        (Function.update_self ..)
        (by simpa [Scene.locked] using givesBack.2 scene.cache)
        (by simp [Scene.locked])
      exact ⟨.lock scene.cache :: trace, congrArg (Event.locked :: ·) happened,
        runs.after acts rfl⟩
  | unlock left next ih =>
      have acts := Scene.Acts.unlock givesBack.1 stands
      obtain ⟨trace, happened, runs⟩ := ih
        (scene.unlocked task left _) world
        (Function.update_self ..) (by simpa [Scene.unlocked] using givesBack.2)
        (by simp [Scene.unlocked])
      exact ⟨.unlock left :: trace, congrArg (Event.unlocked left :: ·) happened,
        runs.after acts rfl⟩
  | clock next ih =>
      have does : (scene.progress task).Does
          (.readClock (surroundings.clock world).1)
          (.ready (next (surroundings.clock world).1)) := by
        rw [stands]
        exact .readClock _
      obtain ⟨trace, happened, runs⟩ := ih _ (scene.advance task _)
        (surroundings.clock world).2 (Function.update_self ..) (givesBack _) onlyHolder
      exact ⟨.readClock _ :: trace,
        congrArg (Event.clockRead (surroundings.clock world).1 :: ·) happened,
        runs.after (.alone does) rfl⟩
  | exchange request next ih =>
      have sends : (scene.progress task).Does (.send request)
          (.awaiting request next) := by
        rw [stands]
        exact .send
      have possible : request.message? = none →
          (surroundings.exchange request world).1 = .unsent := by
        intro noMessage
        simp [Surroundings.exchange, noMessage]
      have receives : ((scene.advance task (.awaiting request next)).progress
          task).Does (.receive request (surroundings.exchange request world).1)
            (.ready (next (surroundings.exchange request world).1)) := by
        rw [scene.advance_progress_self task]
        exact .receive _ possible
      obtain ⟨trace, happened, runs⟩ := ih _
        ((scene.advance task (.awaiting request next)).advance task _)
        (surroundings.exchange request world).2 (Function.update_self ..)
        (givesBack _) onlyHolder
      exact ⟨.send request :: .receive request _ :: trace,
        congrArg (Event.exchanged request (surroundings.exchange request world).1 :: ·)
          happened,
        (runs.after (.alone receives) rfl).after (.alone sends) rfl⟩
  | measure measurement next ih =>
      have does : (scene.progress task).Does (.measure measurement)
          (.ready next) := by
        rw [stands]
        exact .measure
      obtain ⟨trace, happened, runs⟩ := ih (scene.advance task _) world
        (Function.update_self ..) givesBack onlyHolder
      exact ⟨.measure measurement :: trace,
        congrArg (Event.measured measurement :: ·) happened,
        runs.after (.alone does) rfl⟩

/-- Where nobody has the lock, a task that gives it back does by itself what its plan
does in a run, and nobody has the lock then. -/
theorem Plan.GivesBack.exists_runs {plan : Plan α} (givesBack : plan.GivesBack False)
    (surroundings : Surroundings ω) (world : ω) {scene : Scene ι α} {task : ι}
    (stands : scene.progress task = .ready plan) (free : scene.holder = none) :
    let run := plan.run surroundings scene.cache world
    ∃ acts : List Act, ∃ after, scene.Runs (acts.map (task, ·)) after ∧
      acts.filterMap Act.event? = run.events ∧ after.holder = none ∧
      after.cache = run.cache ∧ after.conclusion? task = some run.conclusion := by
  obtain ⟨acts, happened, runs⟩ := plan.runs_alone surroundings scene world stands
    (by simpa [free] using givesBack) (by simp [free])
  refine ⟨acts, _, runs, happened, rfl, rfl, ?_⟩
  simp only [Scene.conclusion?, Function.update_self, Conclusion.conclusion?_plan]

end Alone

/-- Steps of a service that are taken side by side are never stuck. -/
theorem Service.exists_acts {ι : Type} [DecidableEq ι] (client : ProbeClient)
    (onlyPublicClusters : Bool) (deletionTimeout : Nat) (tally : Option Tally)
    (steps : ι → Step) {cache : Option AccessToken} {trace : List (ι × Act)}
    {scene : Scene ι Answer} {task : ι}
    (runs : (Scene.start cache fun task =>
      (ofClient client onlyPublicClusters deletionTimeout).plan tally
        (steps task)).Runs trace scene)
    (unfinished : scene.conclusion? task = none) :
    ∃ task act later, scene.Acts task act later :=
  (runs.isDisciplined (Scene.isDisciplined_start fun task =>
    givesBack_plan client onlyPublicClusters deletionTimeout tally
      (steps task))).exists_acts unfinished

end ProbeLifecycle
