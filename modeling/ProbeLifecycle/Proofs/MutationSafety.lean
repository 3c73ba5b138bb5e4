import ProbeLifecycle.Plan.Surroundings
import ProbeLifecycle.Proofs.Ordering
import ProbeLifecycle.Proofs.Paths
import ProbeLifecycle.Service.Session

/-!
# When probes are changed

Nothing is terminated or created but on the word of the reply before.  A
procedure is checked for the order of its attempts, call by call, and what is
checked holds of the exchanges of every run, also of those that break off.
-/

namespace ProbeLifecycle

open ProbeClient

namespace Procedure

variable {α β : Type}

/-- Every attempt of a procedure may follow the one before it. -/
def Orderly : Option Attempt → Procedure α → Prop
  | _, finish _ => True
  | previous, measure _ next => next.Orderly previous
  | previous, attempt call next =>
      Follows previous call ∧
        ∀ outcome, (next outcome).Orderly (some ⟨call, outcome⟩)

theorem orderly_bind {procedure : Procedure α} {next : α → Procedure β}
    {previous : Option Attempt} (orderly : procedure.Orderly previous)
    (later : ∀ attempts value, procedure.Ends attempts value →
      (next value).Orderly (attempts.getLast?.or previous)) :
    (procedure.bind next).Orderly previous := by
  -- The attempt before the procedure moves on with every call.
  induction procedure generalizing previous with
  | finish value => exact later [] value .finish
  | measure measurement rest ih =>
      exact ih orderly fun attempts value ends =>
        later attempts value (.measure ends)
  | attempt call rest ih =>
      obtain ⟨follows, orderly⟩ := orderly
      refine ⟨follows, fun outcome => ih outcome (orderly outcome) ?_⟩
      intro attempts value ends
      have orderlyNext := later _ value (.attempt ends)
      rw [getLast?_cons_or] at orderlyNext
      exact orderlyNext

section Operations

variable {clusterId : String} {previous : Option Attempt}

theorem orderly_lookup (follows : Follows previous (.lookup clusterId)) :
    (lookup clusterId).Orderly previous := by
  refine ⟨follows, fun outcome => ?_⟩
  change (settleFound (outcome.bind _)).Orderly _
  unfold settleFound
  split
  · trivial
  · trivial

theorem orderly_delete (follows : Follows previous (.lookup clusterId)) :
    (delete clusterId).Orderly previous := by
  refine orderly_bind (orderly_lookup follows) ?_
  intro attempts found ends
  obtain ⟨outcome, rfl, looked⟩ := ends_lookup.mp ends
  cases found with
  | error error => trivial
  | ok probe? =>
      cases probe? with
      | none => trivial
      | some probe =>
          exact ⟨.terminating (lookupResult_eq_some.mp looked),
            fun outcome => trivial⟩

theorem orderly_createFor {desired : ProbeRequest} {outcome : EnsureOutcome}
    (follows : Follows previous (.create desired)) :
    (createFor desired outcome).Orderly previous := by
  refine orderly_bind ⟨follows, fun outcome => trivial⟩ ?_
  intro attempts result ends
  cases result with
  | error error => trivial
  | ok probe => trivial

theorem orderly_replace {desired : ProbeRequest} {reason : ReplaceReason}
    (follows : Follows previous (.lookup desired.clusterId)) :
    (replace desired reason).Orderly previous := by
  refine orderly_bind (orderly_delete follows) ?_
  intro attempts result ends
  cases result with
  | error error => trivial
  | ok value =>
      refine orderly_createFor ?_
      cases ends_delete.mp ends with
      | absent findsNone => exact .missing findsNone
      | terminated finds terminates => exact .terminated terminates

theorem orderly_converge (desired : ProbeRequest) :
    (converge desired).Orderly none := by
  refine orderly_bind (orderly_lookup .first) ?_
  intro attempts found ends
  obtain ⟨outcome, rfl, looked⟩ := ends_lookup.mp ends
  cases found with
  | error error => trivial
  | ok probe? =>
      cases probe? with
      | none =>
          exact orderly_createFor (.missing (lookupResult_eq_none.mp looked))
      | some probe =>
          change (adjust desired probe).Orderly _
          unfold adjust
          split
          · trivial
          · exact orderly_replace (.again (lookupResult_eq_some.mp looked))

theorem orderly_ensure (onlyPublicClusters : Bool) (context : ClusterContext) :
    (ensure onlyPublicClusters context).Orderly none := by
  unfold ensure
  split
  · trivial
  · split
    · trivial
    · cases context.desiredRequest with
      | error error => trivial
      | ok desired => exact orderly_converge desired

theorem orderly_deleteUnless (overdue : Bool) (clusterId : String) :
    (deleteUnless overdue clusterId).Orderly none := by
  unfold deleteUnless
  split
  · trivial
  · refine orderly_bind (orderly_delete .first) ?_
    intro attempts result ends
    cases result with
    | ok value => trivial
    | error error =>
        dsimp only
        split
        · trivial
        · trivial

end Operations

end Procedure

/-- A call that is not made to its end has asked for a token only. -/
theorem ProbeClient.Makes.exchanges_halted {client : ProbeClient} {call : Call}
    {cache later : Option AccessToken} {events : List Event} {cause : Fatal}
    (makes : client.Makes call cache events (.halted cause) later) :
    ∃ request delivery, exchanges events = [(.token request, delivery)] := by
  cases makes with
  | @broken _ _ _ provider authenticated provides =>
      cases provides with
      | @overflowed _ _ _ delivery _ misses granted overflow =>
          refine ⟨provider.client.tokenRequest, delivery, ?_⟩
          simp [exchanges_misses misses]

/-- The exchanges of an orderly procedure are in order in every run. -/
theorem Procedure.Conducts.ordered {α : Type} {client : ProbeClient}
    {procedure : Procedure α} {cache later : Option AccessToken}
    {attempts : List Attempt} {events : List Event} {conclusion : Conclusion α}
    {previous : Option Attempt}
    (conducts :
      procedure.Conducts client cache attempts events conclusion later)
    (orderly : procedure.Orderly previous) :
    OrderedExchanges previous (exchanges events) := by
  induction conducts generalizing previous with
  | finish => exact .nil
  | measure rest ih => simpa using ih orderly
  | attempt makes rest ih =>
      obtain ⟨follows, orderlyNext⟩ := orderly
      have ordered := ih (orderlyNext _)
      have takes := makes.takes
      rw [exchanges_append]
      generalize exchanges _ = taken at takes
      cases takes with
      | plain unauthenticated => exact .sent follows ordered
      | reused authenticated => exact .sent follows ordered
      | refreshed authenticated granted => exact .provided granted follows ordered
      | unprovided authenticated refusal =>
          -- A call without a token fails, and nothing follows a failure.
          rw [ordered.nil_of_fails .unanswered]
          exact .obtaining follows
  | broken makes =>
      obtain ⟨request, delivery, exchanged⟩ := makes.exchanges_halted
      rw [exchanged]
      exact .obtaining orderly.1

/-- What the exchanges of an operation are never without. -/
structure Disciplined (exchanged : List (Request × Delivery)) : Prop where
  terminating : ∀ before clusterId outcome after,
    sentAttempts exchanged =
        before ++ ⟨.terminate clusterId, outcome⟩ :: after →
      ∃ earlier previous probe, before = earlier ++ [previous] ∧
        Attempt.Finds clusterId probe previous
  creating : ∀ before request outcome after,
    sentAttempts exchanged = before ++ ⟨.create request, outcome⟩ :: after →
      after = [] ∧
      ∃ earlier previous, before = earlier ++ [previous] ∧
        (Attempt.FindsNone request.clusterId previous ∨
          Attempt.Terminates request.clusterId previous)
  one_patch :
    (sentAttempts exchanged).countP
      (fun attempt => attempt.call.method == .patch) ≤ 1
  one_post :
    (sentAttempts exchanged).countP
      (fun attempt => attempt.call.method == .post) ≤ 1
  failure_last : ∀ before request delivery after error,
    exchanged = before ++ (.api request, delivery) :: after →
      Attempt.Fails ⟨request.call, delivery.answer⟩ error → after = []
  refusal_last : ∀ before request delivery after error,
    exchanged = before ++ (.token request, delivery) :: after →
      delivery.grant = .error error → after = []

theorem OrderedExchanges.disciplined {exchanged : List (Request × Delivery)}
    (ordered : OrderedExchanges none exchanged) : Disciplined exchanged where
  terminating before clusterId outcome after split := by
    have inOrder := split ▸ ordered.ordered
    obtain ⟨earlier, previous, rfl, follows⟩ :=
      inOrder.follows_previous (by simp)
    cases follows with
    | terminating finds => exact ⟨earlier, previous, _, rfl, finds⟩
  creating before request outcome after split := by
    have inOrder := split ▸ ordered.ordered
    refine ⟨inOrder.tail.after_create, ?_⟩
    obtain ⟨earlier, previous, rfl, follows⟩ :=
      inOrder.follows_previous (by simp)
    cases follows with
    | missing findsNone => exact ⟨earlier, previous, rfl, .inl findsNone⟩
    | terminated terminates => exact ⟨earlier, previous, rfl, .inr terminates⟩
  one_patch := ordered.ordered.countP_patch
  one_post := ordered.ordered.countP_post
  failure_last before request delivery after error split fails :=
    (split ▸ ordered).after_failure fails
  refusal_last before request delivery after error split refusal :=
    (split ▸ ordered).after_refusal refusal

/-- Steps that look a probe up before they change anything. -/
def Step.isGuarded : Step → Bool
  | .get _ => true
  | .delete _ => true
  | .ensure _ => true
  | .deleteAt _ _ _ => true
  | _ => false

section Sessions

variable {ω : Type} (surroundings : Surroundings ω)

/-- The exchanges of an orderly procedure are in order, whatever is made of its
result. -/
theorem ordered_map {α β : Type} {client : ProbeClient}
    {procedure : Procedure α} (orderly : procedure.Orderly none)
    (change : α → β) (cache : Option AccessToken) (world : ω) :
    OrderedExchanges none (exchanges
      ((change <$> procedure.plan client).run surroundings cache
        world).events) := by
  rw [surroundings.run_map]
  obtain ⟨attempts, conducts⟩ :=
    Procedure.conducts_run surroundings client procedure cache world
  exact conducts.ordered orderly

namespace Service

variable (service : Service)

theorem ordered_plan {step : Step} (guarded : step.isGuarded = true)
    (tally : Option Tally) (cache : Option AccessToken) (world : ω) :
    OrderedExchanges none (exchanges
      ((service.plan tally step).run surroundings cache world).events) := by
  cases step with
  | create request => cases guarded
  | web request now => cases guarded
  | get clusterId =>
      simp only [plan, ← Procedure.plan_lookup]
      exact ordered_map surroundings (Procedure.orderly_lookup .first) _ _ _
  | delete clusterId =>
      simp only [plan, ← Procedure.plan_delete]
      exact ordered_map surroundings (Procedure.orderly_delete .first) _ _ _
  | ensure context =>
      simp only [plan, ← Procedure.plan_ensure]
      exact ordered_map surroundings (Procedure.orderly_ensure _ _) _ _ _
  | deleteAt clusterId requestedAt now =>
      simp only [plan, ← Procedure.plan_deleteUnless]
      exact ordered_map surroundings (Procedure.orderly_deleteUnless _ _) _ _ _

/-- In every session of steps that look probes up first, the exchanges of each
step are disciplined, whatever happened before. -/
theorem session_disciplined (metricsKept : Bool) (state : SessionState ω)
    (steps : List Step) (guarded : ∀ step ∈ steps, step.isGuarded = true) :
    ∀ report ∈ (service.session metricsKept surroundings state steps).1,
      Disciplined (exchanges report.events) := by
  induction steps generalizing state with
  | nil => simp [session]
  | cons next steps ih =>
      obtain ⟨guardedNext, guardedRest⟩ := List.forall_mem_cons.mp guarded
      intro report member
      rcases List.mem_cons.mp member with rfl | later
      · exact (service.ordered_plan surroundings guardedNext _ _ _).disciplined
      · exact ih _ guardedRest report later

/-- A pass that replaces a drifted probe sends each of the three methods. -/
theorem session_disciplined_replacing :
    let service := Service.ofClient
      ⟨⟨{ scheme := .http, host := "probes" }, "hcp"⟩, none⟩ false 900
    let listing : ScriptedReply :=
      ⟨some 200, .complete (Text.utf8Bytes
        "\x7b\"probes\":[\x7b\"id\":\"p1\",\"cluster_id\":\"c1\",\"status\":\"active\"\x7d]\x7d".toList)⟩
    let created : ScriptedReply :=
      ⟨some 201, .complete (Text.utf8Bytes "\x7b\"id\":\"p1\"\x7d".toList)⟩
    let state : SessionState (List ScriptedReply) :=
      { world := [listing, listing, ⟨some 202, .complete []⟩, created] }
    let steps := [Step.ensure ⟨"c1", "api", .privateOnly, none⟩]
    let reports := (service.session false (.scripted ⟨0⟩) state steps).1
    (∀ step ∈ steps, step.isGuarded = true) ∧
      (∀ report ∈ reports, Disciplined (exchanges report.events)) ∧
      reports.map (fun report =>
        (sentAttempts (exchanges report.events)).map (·.call.method)) =
          [[.get, .get, .patch, .post]] := by
  intro service listing created state steps reports
  have guarded : ∀ step ∈ steps, step.isGuarded = true := by decide
  refine ⟨guarded, ?_, by decide +kernel⟩
  exact service.session_disciplined (.scripted ⟨0⟩) false state steps guarded

end Service

end Sessions

end ProbeLifecycle
