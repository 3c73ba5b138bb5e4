import ProbeLifecycle.Plan.Surroundings
import ProbeLifecycle.Proofs.Measuring
import ProbeLifecycle.Proofs.Tallies

/-!
# Deletions that fail open

A deletion with a timeout sends what the deletion sends, and only a failure is
judged by the time that has passed.  Once enough time has passed it stays so,
as long as no leap second is involved: the second after one can be nearer to a
point in the past than the leap second itself.
-/

namespace ProbeLifecycle

open Text

namespace Timestamp

/-- Points in time are ordered by day, second and nanosecond. -/
instance : LE Timestamp where
  le earlier later :=
    earlier.day < later.day ∨
      earlier.day = later.day ∧
        (earlier.second < later.second ∨
          earlier.second = later.second ∧
            earlier.nanosecond ≤ later.nanosecond)

instance (earlier later : Timestamp) : Decidable (earlier ≤ later) :=
  inferInstanceAs (Decidable (_ ∨ _))

section Since

variable {requestedAt now later : Timestamp}

/-- Without leap seconds only whole days, seconds and nanoseconds count. -/
theorem since_eq (requestedRegular : requestedAt.isLeap = false)
    (nowRegular : now.isLeap = false) :
    now.since requestedAt =
      ((now.day - requestedAt.day) * secondsPerDay +
          ((now.second : Int) - requestedAt.second)) * nanosecondsPerSecond +
        ((now.nanosecond : Int) - requestedAt.nanosecond) := by
  simp [since, leapCorrection, requestedRegular, nowRegular]

/-- Without leap seconds, at a later point more time has passed. -/
theorem since_le_since (requestedRegular : requestedAt.isLeap = false)
    (nowRegular : now.isLeap = false) (laterRegular : later.isLeap = false)
    (notAfter : now ≤ later) :
    now.since requestedAt ≤ later.since requestedAt := by
  have nowShort : now.nanosecond < nanosecondsPerSecond := by
    simpa [isLeap] using nowRegular
  have laterInDay := now.second_lt
  rw [since_eq requestedRegular nowRegular,
    since_eq requestedRegular laterRegular]
  unfold secondsPerDay at *
  unfold nanosecondsPerSecond at *
  rcases notAfter with nextDay | ⟨sameDay, nextSecond | ⟨sameSecond, sooner⟩⟩
  · omega
  · omega
  · omega

end Since

end Timestamp

namespace DeletionPolicy

variable {ω : Type} (policy : DeletionPolicy)

def verdict (clusterId : String) (requestedAt now : Timestamp) :
    Except ProbeError Unit → Except SyncError DeletionOutcome
  | .ok () => .ok .deleted
  | .error error =>
      if policy.IsOverdue requestedAt now then .ok (.failOpen error)
      else .error (.remote .delete clusterId error)

def verdictEvents :
    Conclusion (Except SyncError DeletionOutcome) → List Event
  | .finished (.ok (.failOpen _)) => [.measured .deletionTimeout]
  | _ => []

theorem run_deleteProbeAt {clusterId : String}
    (notBlank : isBlank clusterId = false) (requestedAt now : Timestamp)
    (surroundings : Surroundings ω) (cache : Option AccessToken) (world : ω) :
    let deletion :=
      (policy.client.deleteProbe clusterId).run.run surroundings cache world
    let conclusion :=
      deletion.conclusion.map (policy.verdict clusterId requestedAt now)
    (policy.deleteProbeAt clusterId requestedAt now).run.run surroundings cache
        world =
      ⟨conclusion, deletion.cache, deletion.world,
        deletion.events ++ verdictEvents conclusion⟩ := by
  rw [← Procedure.plan_deleteUnless, Procedure.deleteUnless, notBlank,
    if_neg Bool.false_ne_true, Procedure.plan_bind, Procedure.plan_delete,
    Plan.run_bind]
  generalize (policy.client.deleteProbe clusterId).run.run surroundings cache
    world = deletion
  obtain ⟨conclusion, cache, world, events⟩ := deletion
  cases conclusion with
  | halted cause => simp [Run.andThen, Conclusion.map, verdictEvents]
  | finished result =>
      cases result with
      | ok value =>
          simp [Run.andThen, Conclusion.map, verdict, verdictEvents,
            Procedure.plan, Plan.run]
      | error error =>
          by_cases overdue : policy.IsOverdue requestedAt now
          · simp [Run.andThen, Conclusion.map, verdict, verdictEvents, overdue,
              Procedure.plan, Plan.run, Run.after]
          · simp [Run.andThen, Conclusion.map, verdict, verdictEvents, overdue,
              Procedure.plan, Plan.run]

theorem count_deletionTimeout_deleteProbe (client : ProbeClient)
    (clusterId : String) (surroundings : Surroundings ω)
    (cache : Option AccessToken) (world : ω) :
    (measurements ((client.deleteProbe clusterId).run.run surroundings cache
      world).events).count .deletionTimeout = 0 := by
  have measuresOnly : (Procedure.delete clusterId).MeasuresOnly
      (· ≠ .deletionTimeout) :=
    Procedure.measuresOnly_delete (by simp) (by simp) clusterId
  rw [← Procedure.plan_delete]
  exact Procedure.count_eq_zero_of_measuresOnly measuresOnly (by simp) client
    surroundings cache world

theorem count_verdictEvents
    (conclusion : Conclusion (Except SyncError DeletionOutcome)) :
    (measurements (verdictEvents conclusion)).count .deletionTimeout =
      match conclusion with
      | .finished (.ok (.failOpen _)) => 1
      | _ => 0 := by
  unfold verdictEvents
  split <;> simp_all

theorem exchanges_verdictEvents
    (conclusion : Conclusion (Except SyncError DeletionOutcome)) :
    exchanges (verdictEvents conclusion) = [] := by
  unfold verdictEvents
  split <;> rfl

/-- Overdue is what has waited for the timeout; a point ahead has not waited. -/
theorem isOverdue_iff {requestedAt now : Timestamp} :
    policy.IsOverdue requestedAt now ↔
      (policy.timeout : Int) ≤ max 0 (now.since requestedAt) := by
  unfold IsOverdue Timestamp.elapsed
  omega

section Verdicts

variable {clusterId : String} {requestedAt now : Timestamp}
  {conclusion : Conclusion (Except ProbeError Unit)} {error : ProbeError}

theorem verdict_eq_deleted :
    conclusion.map (policy.verdict clusterId requestedAt now) =
        .finished (.ok .deleted) ↔
      conclusion = .finished (.ok ()) := by
  rcases conclusion with (error | value) | cause
  · by_cases overdue : policy.IsOverdue requestedAt now
    · simp [Conclusion.map, verdict, overdue]
    · simp [Conclusion.map, verdict, overdue]
  · simp [Conclusion.map, verdict]
  · simp [Conclusion.map]

theorem verdict_eq_failOpen :
    conclusion.map (policy.verdict clusterId requestedAt now) =
        .finished (.ok (.failOpen error)) ↔
      conclusion = .finished (.error error) ∧
        policy.IsOverdue requestedAt now := by
  rcases conclusion with (source | value) | cause
  · by_cases overdue : policy.IsOverdue requestedAt now
    · simp [Conclusion.map, verdict, overdue]
    · simp [Conclusion.map, verdict, overdue]
  · simp [Conclusion.map, verdict]
  · simp [Conclusion.map]

theorem verdict_eq_error {error : SyncError} :
    conclusion.map (policy.verdict clusterId requestedAt now) =
        .finished (.error error) ↔
      ∃ source, error = .remote .delete clusterId source ∧
        conclusion = .finished (.error source) ∧
        ¬ policy.IsOverdue requestedAt now := by
  rcases conclusion with (source | value) | cause
  · by_cases overdue : policy.IsOverdue requestedAt now
    · simp [Conclusion.map, verdict, overdue]
    · simp [Conclusion.map, verdict, overdue, eq_comm]
  · simp [Conclusion.map, verdict]
  · simp [Conclusion.map]

theorem verdict_eq_halted {cause : Fatal} :
    conclusion.map (policy.verdict clusterId requestedAt now) = .halted cause ↔
      conclusion = .halted cause := by
  rcases conclusion with result | cause
  · simp [Conclusion.map]
  · simp [Conclusion.map]

end Verdicts

/-- What a deletion with a timeout makes of the deletion. -/
structure Settles (clusterId : String) (requestedAt now : Timestamp)
    (deletion : Run ω (Except ProbeError Unit))
    (run : Run ω (Except SyncError DeletionOutcome)) : Prop where
  exchanged : exchanges run.events = exchanges deletion.events
  cache : run.cache = deletion.cache
  world : run.world = deletion.world
  deleted :
    run.conclusion = .finished (.ok .deleted) ↔
      deletion.conclusion = .finished (.ok ())
  failOpen : ∀ error,
    run.conclusion = .finished (.ok (.failOpen error)) ↔
      deletion.conclusion = .finished (.error error) ∧
        (policy.timeout : Int) ≤ max 0 (now.since requestedAt)
  failed : ∀ error,
    run.conclusion = .finished (.error error) ↔
      ∃ source, error = .remote .delete clusterId source ∧
        deletion.conclusion = .finished (.error source) ∧
        max 0 (now.since requestedAt) < policy.timeout
  halted : ∀ cause,
    run.conclusion = .halted cause ↔ deletion.conclusion = .halted cause
  counted : ∀ earlier error,
    run.conclusion = .finished (.ok (.failOpen error)) →
      (Tally.ofMeasurements (earlier ++ measurements run.events)).recorded
          deletionTimeoutSeries =
        (Tally.ofMeasurements earlier).recorded deletionTimeoutSeries + 1
  uncounted : ∀ earlier,
    (∀ error, run.conclusion ≠ .finished (.ok (.failOpen error))) →
      (Tally.ofMeasurements (earlier ++ measurements run.events)).recorded
          deletionTimeoutSeries =
        (Tally.ofMeasurements earlier).recorded deletionTimeoutSeries

theorem settles_run {clusterId : String} (notBlank : isBlank clusterId = false)
    (requestedAt now : Timestamp) (surroundings : Surroundings ω)
    (cache : Option AccessToken) (world : ω) :
    policy.Settles clusterId requestedAt now
      ((policy.client.deleteProbe clusterId).run.run surroundings cache world)
      ((policy.deleteProbeAt clusterId requestedAt now).run.run surroundings
        cache world) := by
  rw [policy.run_deleteProbeAt notBlank]
  have uncounted := count_deletionTimeout_deleteProbe policy.client clusterId
    surroundings cache world
  generalize (policy.client.deleteProbe clusterId).run.run surroundings cache
    world = deletion at uncounted
  exact {
    exchanged := by simp [exchanges_verdictEvents]
    cache := rfl
    world := rfl
    deleted := policy.verdict_eq_deleted
    failOpen error := by
      rw [← isOverdue_iff]
      exact policy.verdict_eq_failOpen
    failed error := by
      simp only [← Int.not_le, ← isOverdue_iff]
      exact policy.verdict_eq_error
    halted cause := policy.verdict_eq_halted
    counted earlier error isFailOpen := by
      rw [Tally.recorded_deletionTimeouts, measurements_append,
        List.count_append, uncounted, count_verdictEvents]
      simp only at isFailOpen
      rw [isFailOpen]
      rfl
    uncounted earlier isOther := by
      rw [Tally.recorded_deletionTimeouts, measurements_append,
        List.count_append, uncounted, count_verdictEvents]
      simp only at isOther
      split
      · rename_i error isFailOpen
        exact absurd isFailOpen (isOther error)
      · rfl }

/-- Half a day after it was requested, a deletion fails open in a leap second and
not any more at the midnight that follows. -/
theorem failOpen_lost_after_leapSecond :
    let policy : DeletionPolicy :=
      ⟨⟨⟨{ scheme := .http, host := "probes" }, "hcp"⟩, none⟩,
        43200 * nanosecondsPerSecond⟩
    let requestedAt := Timestamp.ofLocal 736694 43200 300000000 0
    let now := Timestamp.ofLocal 736694 86399 1900000000 0
    let later := Timestamp.ofLocal 736695 0 0 0
    let run := fun now : Timestamp =>
      (policy.deleteProbeAt "c1" requestedAt now).run.run
        (Surroundings.unreachable ⟨0⟩) none ()
    now ≤ later ∧
      (run now).conclusion =
        .finished (.ok (.failOpen (.lookup (.transport .unreached)))) ∧
      (run later).conclusion =
        .finished
          (.error (.remote .delete "c1" (.lookup (.transport .unreached)))) := by
  decide +kernel

/-- Whatever the surroundings do, a deletion with a timeout settles the deletion
by the time that has passed, and what failed open at one time fails open at
every later one, unless one of the times lies in a leap second. -/
theorem deleteProbeAt_settles {clusterId : String}
    (notBlank : isBlank clusterId = false) (requestedAt now : Timestamp)
    (surroundings : Surroundings ω) (cache : Option AccessToken) (world : ω) :
    let deletion :=
      (policy.client.deleteProbe clusterId).run.run surroundings cache world
    let run := fun now : Timestamp =>
      (policy.deleteProbeAt clusterId requestedAt now).run.run surroundings
        cache world
    policy.Settles clusterId requestedAt now deletion (run now) ∧
      ∀ later error, requestedAt.isLeap = false → now.isLeap = false →
        later.isLeap = false → now ≤ later →
        (run now).conclusion = .finished (.ok (.failOpen error)) →
        (run later).conclusion = .finished (.ok (.failOpen error)) := by
  intro deletion run
  have settles := fun now =>
    policy.settles_run notBlank requestedAt now surroundings cache world
  refine ⟨settles now, ?_⟩
  intro later error requestedRegular nowRegular laterRegular notAfter isFailOpen
  obtain ⟨failed, overdue⟩ := ((settles now).failOpen error).mp isFailOpen
  have longer := Timestamp.since_le_since requestedRegular nowRegular
    laterRegular notAfter
  refine ((settles later).failOpen error).mpr ⟨failed, ?_⟩
  omega

/-- A deletion for which nobody can be reached fails open after a quarter of an
hour, and a day later as well. -/
theorem failOpen_kept_next_day :
    let policy : DeletionPolicy :=
      ⟨⟨⟨{ scheme := .http, host := "probes" }, "hcp"⟩, none⟩,
        900 * nanosecondsPerSecond⟩
    let requestedAt := Timestamp.ofLocal 736694 0 0 0
    let now := Timestamp.ofLocal 736694 900 0 0
    let later := Timestamp.ofLocal 736695 900 0 0
    let run := fun now : Timestamp =>
      (policy.deleteProbeAt "c1" requestedAt now).run.run
        (Surroundings.unreachable ⟨0⟩) none ()
    isBlank "c1" = false ∧ now ≤ later ∧
      (run now).conclusion =
        .finished (.ok (.failOpen (.lookup (.transport .unreached)))) ∧
      (run later).conclusion =
        .finished (.ok (.failOpen (.lookup (.transport .unreached)))) := by
  intro policy requestedAt now later run
  have notBlank : isBlank "c1" = false := by decide
  have notAfter : now ≤ later := by decide
  have failsOpen :
      (run now).conclusion =
        .finished (.ok (.failOpen (.lookup (.transport .unreached)))) := by
    decide +kernel
  have settles := policy.deleteProbeAt_settles notBlank requestedAt now
    (Surroundings.unreachable ⟨0⟩) none ()
  exact ⟨notBlank, notAfter, failsOpen,
    settles.2 later _ (by decide) (by decide) (by decide) notAfter failsOpen⟩

end DeletionPolicy

end ProbeLifecycle
