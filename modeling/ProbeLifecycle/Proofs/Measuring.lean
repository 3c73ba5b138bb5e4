import ProbeLifecycle.Proofs.Operations

/-!
# What procedures measure

Whatever a procedure measures is written in it, and besides that only refreshes
of the token are measured on the way.  A property of all measurements is thus
checked on the procedure and holds in every run.
-/

namespace ProbeLifecycle

def Procedure.MeasuresOnly {α : Type} (allowed : Measurement → Prop) :
    Procedure α → Prop
  | finish _ => True
  | measure measurement next => allowed measurement ∧ next.MeasuresOnly allowed
  | attempt _ next => ∀ outcome, (next outcome).MeasuresOnly allowed

section Runs

variable {allowed : Measurement → Prop} {cache later : Option AccessToken}
  {events : List Event}

theorem TokenProvider.Provides.measures {provider : TokenProvider}
    {conclusion : Conclusion (Except TokenError AccessToken)}
    (provides : provider.Provides cache events conclusion later) :
    ∀ measurement ∈ measurements events,
      ∃ success, measurement = .tokenRefresh success := by
  have misses_nothing : ∀ {opening}, TokenProvider.Misses cache opening →
      measurements opening = [] := by
    rintro opening (_ | _) <;> rfl
  cases provides with
  | reused valid => simp
  | refused misses refusal => simp [misses_nothing misses]
  | overflowed misses granted overflow => simp [misses_nothing misses]
  | refreshed misses granted issued => simp [misses_nothing misses]

/-- Whoever makes a call measures refreshes only. -/
theorem ProbeClient.Makes.measures {client : ProbeClient} {call : Call}
    {conclusion : Conclusion (Except ProbeError Reply)}
    (makes : client.Makes call cache events conclusion later) :
    ∀ measurement ∈ measurements events,
      ∃ success, measurement = .tokenRefresh success := by
  have dropping_nothing : ∀ delivery : Delivery,
      measurements delivery.dropping = [] := by
    intro delivery
    unfold Delivery.dropping
    split <;> rfl
  cases makes with
  | plain unauthenticated => simp
  | broken authenticated provides => exact provides.measures
  | unprovided authenticated provides => exact provides.measures
  | sent authenticated provides =>
      simpa [dropping_nothing] using provides.measures

namespace Procedure

variable {α β : Type}

theorem measuresOnly_bind {procedure : Procedure α} {next : α → Procedure β}
    (measuresOnly : procedure.MeasuresOnly allowed)
    (nextMeasuresOnly : ∀ value, (next value).MeasuresOnly allowed) :
    (procedure.bind next).MeasuresOnly allowed := by
  induction procedure with
  | finish value => exact nextMeasuresOnly value
  | measure measurement rest ih => exact ⟨measuresOnly.1, ih measuresOnly.2⟩
  | attempt call rest ih => exact fun outcome => ih outcome (measuresOnly outcome)

/-- What holds of the measurements of a procedure holds in its runs. -/
theorem Conducts.measures {client : ProbeClient} {procedure : Procedure α}
    {attempts : List Attempt} {conclusion : Conclusion α}
    (conducts :
      procedure.Conducts client cache attempts events conclusion later)
    (measuresOnly : procedure.MeasuresOnly allowed)
    (refresh : ∀ success, allowed (.tokenRefresh success)) :
    ∀ measurement ∈ measurements events, allowed measurement := by
  have of_makes : ∀ {call before made outcome after},
      client.Makes call before made outcome after →
        ∀ measurement ∈ measurements made, allowed measurement := by
    intro call before made outcome after makes measurement member
    obtain ⟨success, rfl⟩ := makes.measures measurement member
    exact refresh success
  induction conducts with
  | finish => simp
  | measure rest ih => simpa using ⟨measuresOnly.1, ih measuresOnly.2⟩
  | attempt makes rest ih =>
      intro measurement member
      rw [measurements_append, List.mem_append] at member
      rcases member with member | member
      · exact of_makes makes measurement member
      · exact ih (measuresOnly _) measurement member
  | broken makes => exact of_makes makes

theorem count_eq_zero_of_measuresOnly {ω : Type} {procedure : Procedure α}
    {measurement : Measurement}
    (measuresOnly : procedure.MeasuresOnly (· ≠ measurement))
    (isOther : ∀ success, .tokenRefresh success ≠ measurement)
    (client : ProbeClient) (surroundings : Surroundings ω)
    (cache : Option AccessToken) (world : ω) :
    (measurements ((procedure.plan client).run surroundings cache
      world).events).count measurement = 0 := by
  obtain ⟨attempts, conducts⟩ :=
    procedure.conducts_run surroundings client cache world
  rw [List.count_eq_zero]
  intro measured
  exact conducts.measures measuresOnly isOther _ measured rfl

section Operations

variable (requests : ∀ operation success, allowed (.request operation success))
include requests

theorem measuresOnly_settle (operation : Operation)
    (result : Except ProbeError α) :
    (settle operation result).MeasuresOnly allowed :=
  ⟨requests operation result.isOk, trivial⟩

theorem measuresOnly_lookup (duplicates : allowed .duplicateProbes)
    (clusterId : String) : (lookup clusterId).MeasuresOnly allowed := by
  intro outcome
  change (settleFound (outcome.bind _)).MeasuresOnly allowed
  unfold settleFound
  split
  · exact ⟨duplicates, measuresOnly_settle requests _ _⟩
  · exact measuresOnly_settle requests _ _

theorem measuresOnly_delete (duplicates : allowed .duplicateProbes)
    (clusterId : String) : (delete clusterId).MeasuresOnly allowed := by
  refine measuresOnly_bind (measuresOnly_lookup requests duplicates _) ?_
  intro found
  cases found with
  | error error => exact measuresOnly_settle requests _ _
  | ok probe? =>
      cases probe? with
      | none => exact measuresOnly_settle requests _ _
      | some probe => exact fun outcome => measuresOnly_settle requests _ _

omit requests in
theorem measuresOnly_inStage {procedure : Procedure (Except ProbeError α)}
    {stage : Stage} {clusterId : String}
    {next : α → Procedure (Except SyncError β)}
    (measuresOnly : procedure.MeasuresOnly allowed)
    (nextMeasuresOnly : ∀ value, (next value).MeasuresOnly allowed) :
    (procedure.inStage stage clusterId next).MeasuresOnly allowed := by
  apply measuresOnly_bind measuresOnly
  intro result
  cases result with
  | error error => trivial
  | ok value => exact nextMeasuresOnly value

theorem measuresOnly_createFor (desired : ProbeRequest)
    (outcome : EnsureOutcome) :
    (createFor desired outcome).MeasuresOnly allowed := by
  apply measuresOnly_inStage
  · exact fun _ => measuresOnly_settle requests _ _
  · intro probe
    trivial

theorem measuresOnly_converge (duplicates : allowed .duplicateProbes)
    (desired : ProbeRequest) : (converge desired).MeasuresOnly allowed := by
  apply measuresOnly_inStage (measuresOnly_lookup requests duplicates _)
  intro found
  cases found with
  | none => exact measuresOnly_createFor requests _ _
  | some probe =>
      change (adjust desired probe).MeasuresOnly allowed
      unfold adjust
      split
      · trivial
      · exact measuresOnly_inStage (measuresOnly_delete requests duplicates _)
          fun _ => measuresOnly_createFor requests _ _

theorem measuresOnly_deleteUnless (duplicates : allowed .duplicateProbes)
    (timeouts : allowed .deletionTimeout) (overdue : Bool) (clusterId : String) :
    (deleteUnless overdue clusterId).MeasuresOnly allowed := by
  unfold deleteUnless
  split
  · trivial
  · apply measuresOnly_bind (measuresOnly_delete requests duplicates clusterId)
    intro result
    cases result with
    | ok value => trivial
    | error error =>
        dsimp only
        split
        · exact ⟨timeouts, trivial⟩
        · trivial

end Operations

end Procedure

end Runs

end ProbeLifecycle
