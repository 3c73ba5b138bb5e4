import ProbeLifecycle.Proofs.Convergence
import ProbeLifecycle.Proofs.MutationSafety
import ProbeLifecycle.Proofs.WebOperations

/-!
# Calls without a token

When the issuer grants no token, the request that the token was for is not sent, nor
is any other in the same operation.  The operation ends with the failure to obtain
the token, which is inside a failure to look up if it was the lookup of a deletion
that could not be made.
-/

namespace ProbeLifecycle

open ProbeClient

section Runs

variable {α ω : Type} {client : ProbeClient} {previous : Option Attempt}
  {exchanged before after : List (Request × Delivery)} {asked : TokenRequest}
  {delivery : Delivery} {error : TokenError}

/-- Where the issuer refuses a token, all attempts before have been sent, and the next
one has failed for it. -/
theorem OrderedExchanges.split_refusal {attempts : List Attempt}
    (ordered : OrderedExchanges previous exchanged)
    (takesAll : client.TakesAll attempts exchanged)
    (cut : exchanged = before ++ (.token asked, delivery) :: after)
    (refusal : delivery.grant = .error error) :
    ∃ call rest, client.TakesAll rest after ∧
      attempts =
        sentAttempts before ++ ⟨call, .error (.auth error)⟩ :: rest := by
  induction takesAll generalizing before previous with
  | none => simp at cut
  | @next attempt attempts taken exchanged takes takesAll ih =>
      have of_sent : ∀ {request sent before},
          OrderedExchanges previous ((.api request, sent) :: exchanged) →
          (.api request, sent) :: exchanged =
            before ++ (.token asked, delivery) :: after →
          ∃ call rest, client.TakesAll rest after ∧
            ⟨request.call, sent.answer⟩ :: attempts =
              sentAttempts before ++ ⟨call, .error (.auth error)⟩ :: rest := by
        intro request sent before ordered cut
        cases ordered with
        | sent follows ordered =>
            cases before with
            | nil => cases cut
            | cons first before =>
                obtain ⟨rfl, shorter⟩ := List.cons.inj cut
                obtain ⟨call, rest, restTakes, rfl⟩ := ih ordered shorter
                exact ⟨call, rest, restTakes, rfl⟩
      cases takes with
      | plain unauthenticated => exact of_sent ordered cut
      | reused authenticated => exact of_sent ordered cut
      | refreshed authenticated granted =>
          cases before with
          | nil =>
              cases cut
              rw [refusal] at granted
              cases granted
          | cons first before =>
              obtain ⟨rfl, shorter⟩ := List.cons.inj cut
              cases ordered with
              | provided granted follows ordered =>
                  have found := of_sent (.sent follows ordered) shorter
                  exact found
      | @unprovided call _ _ _ authenticated refusalToo =>
          cases before with
          | nil =>
              obtain ⟨sameExchange, rfl⟩ := List.cons.inj cut
              cases sameExchange
              cases refusal.symm.trans refusalToo
              exact ⟨call, attempts, takesAll, rfl⟩
          | cons first before =>
              obtain ⟨rfl, shorter⟩ := List.cons.inj cut
              -- Where there is no token nothing follows.
              cases ordered with
              | obtaining follows => simp at shorter
              | provided granted follows ordered =>
                  rw [granted] at refusalToo
                  cases refusalToo

/-- A run that is refused a token ends, as if its last attempt had failed for it. -/
theorem Procedure.run_of_refusal {procedure : Procedure α}
    (orderly : procedure.Orderly previous) (surroundings : Surroundings ω)
    (cache : Option AccessToken) (world : ω)
    (cut : exchanges
        ((procedure.plan client).run surroundings cache world).events =
      before ++ (.token asked, delivery) :: after)
    (refusal : delivery.grant = .error error) :
    after = [] ∧ ∃ call result,
      ((procedure.plan client).run surroundings cache world).conclusion =
          .finished result ∧
        procedure.Ends (sentAttempts before ++ [⟨call, .error (.auth error)⟩])
          result := by
  obtain ⟨_, conducts⟩ :=
    procedure.conducts_run surroundings client cache world
  have ordered := conducts.ordered orderly
  have isLast : after = [] := (cut ▸ ordered).after_refusal refusal
  subst isLast
  refine ⟨rfl, ?_⟩
  rcases procedure.run_cases client surroundings cache world with
    ⟨-, overflows⟩ | ⟨attempts, result, finished, ends, takesAll⟩
  · -- An overflow follows on a token that is granted.
    generalize ((procedure.plan client).run surroundings cache world).events =
      events at cut overflows
    obtain ⟨authenticated, granted, overflow⟩ := overflows
    simp only [exchanges_append, exchanges_cons, exchanges_nil, List.nil_append,
      List.append_nil] at cut
    obtain ⟨-, sameLast⟩ := List.append_inj' cut rfl
    cases sameLast
    rw [refusal] at granted
    cases granted
  · obtain ⟨call, rest, restTakes, rfl⟩ :=
      ordered.split_refusal takesAll cut refusal
    obtain rfl := restTakes.eq_nil_iff.mp rfl
    exact ⟨call, result, finished, ends⟩

end Runs

/-- What a step does after attempts is to look up the probe that it deletes. -/
inductive Step.LooksUpToDelete : Step → List Attempt → Prop where
  | delete {clusterId} : LooksUpToDelete (.delete clusterId) []
  | deleteAt {clusterId requestedAt now} :
      LooksUpToDelete (.deleteAt clusterId requestedAt now) []
  | replacing {context probe lookup}
      (finds : Attempt.Finds context.clusterId probe lookup) :
      LooksUpToDelete (.ensure context) [lookup]

/-- What keeps the next call of a step from being made, as the step reports it. -/
inductive Step.Reports (step : Step) (sent : List Attempt) (error : ProbeError) :
    ProbeError → Prop where
  | inside (looksUp : step.LooksUpToDelete sent) :
      Reports step sent error (.lookup error)
  | itself (other : ¬ step.LooksUpToDelete sent) : Reports step sent error error

def Answer.probeError? : Answer → Option ProbeError
  | .created (.error error) => some error
  | .found (.error error) => some error
  | .deleted (.error error) => some error
  | .ensured (.error error) => error.probeError?
  | .deletion (.error error) => error.probeError?
  | .deletion (.ok (.failOpen error)) => some error
  | _ => none

section Paths

theorem append_eq_one {α : Type} {front : List α} {last only : α}
    (whole : front ++ [last] = [only]) : front = [] ∧ last = only :=
  List.append_singleton_inj.mp (show front ++ [last] = [] ++ [only] from whole)

theorem append_eq_two {α : Type} {front : List α} {last first second : α}
    (whole : front ++ [last] = [first, second]) : front = [first] ∧ last = second :=
  List.append_singleton_inj.mp (show front ++ [last] = [first] ++ [second] from whole)

variable {clusterId : String} {sent : List Attempt} {call : Call}
  {error : ProbeError}

theorem Deletes.of_unanswered {result : Except ProbeError Unit}
    (deletes : Deletes clusterId (sent ++ [⟨call, .error error⟩]) result) :
    (sent = [] ∧ result = .error (.lookup error)) ∨
      (sent ≠ [] ∧ result = .error error) := by
  generalize whole : sent ++ [⟨call, .error error⟩] = attempts at deletes
  cases deletes with
  | @unknown outcome _ fails =>
      obtain ⟨none, sameLast⟩ := append_eq_one whole
      cases sameLast
      cases fails
      exact .inl ⟨none, rfl⟩
  | @absent lookup findsNone =>
      obtain ⟨-, rfl⟩ := append_eq_one whole
      cases findsNone
  | @refused lookup outcome probe error finds fails =>
      obtain ⟨rfl, sameLast⟩ := append_eq_two whole
      cases sameLast
      cases fails
      exact .inr ⟨List.cons_ne_nil _ _, rfl⟩
  | @terminated lookup termination probe finds terminates =>
      obtain ⟨-, rfl⟩ := append_eq_two whole
      cases terminates

theorem Attempt.Finds.not_findsNone {probe : Probe} {lookup : Attempt}
    (finds : Attempt.Finds clusterId probe lookup) :
    ¬ Attempt.FindsNone clusterId lookup := by
  intro findsNone
  obtain ⟨outcome, rfl, found⟩ := finds.outcome
  obtain ⟨_, same, foundNone⟩ := findsNone.outcome
  cases same
  rw [found] at foundNone
  cases foundNone

theorem Stops.of_unanswered {context : ClusterContext} {desired : ProbeRequest}
    {stage : Stage} {source : ProbeError}
    (stops : Stops desired (sent ++ [⟨call, .error error⟩]) stage source)
    (isAbout : desired.clusterId = context.clusterId) :
    (Step.ensure context).Reports sent error source := by
  generalize whole : sent ++ [⟨call, .error error⟩] = attempts at stops
  have not_first : ¬ (Step.ensure context).LooksUpToDelete [] := by
    rintro ⟨⟩
  cases stops with
  | unknown fails =>
      obtain ⟨rfl, sameLast⟩ := append_eq_one whole
      cases sameLast
      cases fails
      exact .itself not_first
  | @uncreated lookup _ _ findsNone fails =>
      obtain ⟨rfl, sameLast⟩ := append_eq_two whole
      cases sameLast
      cases fails
      rw [isAbout] at findsNone
      refine .itself fun looksUp => ?_
      cases looksUp with
      | replacing finds => exact finds.not_findsNone findsNone
  | @undeleted lookup probe reason deletion _ finds deviates deletes =>
      cases sent with
      | nil =>
          obtain ⟨-, rfl⟩ := List.cons.inj whole
          cases deletes
      | cons first sent =>
          obtain ⟨rfl, rfl⟩ := List.cons.inj whole
          rw [isAbout] at finds
          -- Only the first call of the deletion is its lookup.
          rcases deletes.of_unanswered with ⟨rfl, same⟩ | ⟨more, same⟩
          · cases same
            exact .inside (.replacing finds)
          · cases same
            refine .itself fun looksUp => ?_
            cases looksUp with
            | replacing finds => exact more rfl
  | @unreplaced lookup probe reason deletion _ _ finds deviates deletes fails =>
      obtain ⟨rfl, sameLast⟩ := List.append_singleton_inj.mp whole
      cases sameLast
      cases fails
      refine .itself fun looksUp => ?_
      cases looksUp with
      | replacing finds => cases deletes

theorem Converges.of_unanswered {context : ClusterContext}
    {desired : ProbeRequest} {result : Except SyncError EnsureOutcome}
    (converges : Converges desired (sent ++ [⟨call, .error error⟩]) result)
    (isAbout : desired.clusterId = context.clusterId) :
    ∃ stage source, result = .error (.remote stage desired.clusterId source) ∧
      (Step.ensure context).Reports sent error source := by
  generalize whole : sent ++ [⟨call, .error error⟩] = attempts at converges
  cases converges with
  | @unchanged lookup probe finds agrees =>
      obtain ⟨-, rfl⟩ := append_eq_one whole
      cases finds
  | @created lookup creation findsNone creates =>
      obtain ⟨-, rfl⟩ := append_eq_two whole
      cases creates
  | replaced finds deviates deletes creates =>
      obtain ⟨-, rfl⟩ := List.append_singleton_inj.mp whole
      cases creates
  | stopped stops =>
      subst whole
      exact ⟨_, _, rfl, stops.of_unanswered isAbout⟩

end Paths

/-- A step that is refused a token sends nothing more.  It answers what its operation
does, which tells of the refusal. -/
def Step.StopsWhenRefused (step : Step) (report : StepReport) : Prop :=
  ∀ before asked delivery after error,
    report.events = before ++ .exchanged (.token asked) delivery :: after →
    delivery.grant = .error error →
    exchanges after = [] ∧
      ∃ operation answer source, step.operation? = some operation ∧
        report.conclusion = .finished (step.shown operation answer) ∧
        answer.probeError? = some source ∧
        operation.Reports (sentAttempts (exchanges before)) (.auth error) source

namespace Procedure

variable {α : Type} {client : ProbeClient} {sent : List Attempt} {call : Call}
  {error : ProbeError}

/-- What an operation answers tells of the failure by which its procedure ends. -/
def Tells (procedure : Procedure α) (change : α → Answer) (operation : Step) :
    Prop :=
  ∀ sent call error result,
    procedure.Ends (sent ++ [⟨call, .error error⟩]) result →
    ∃ source, (change result).probeError? = some source ∧
      operation.Reports sent error source

theorem tells_create (request : ProbeRequest) :
    (create request).Tells .created (.create request) := by
  intro sent call error result ends
  obtain ⟨outcome, whole, rfl⟩ := ends_create.mp ends
  obtain ⟨rfl, same⟩ := append_eq_one whole
  cases same
  exact ⟨error, rfl, .itself fun looksUp => by cases looksUp⟩

theorem tells_lookup (clusterId : String) :
    (lookup clusterId).Tells .found (.get clusterId) := by
  intro sent call error result ends
  obtain ⟨outcome, whole, rfl⟩ := ends_lookup.mp ends
  obtain ⟨rfl, same⟩ := append_eq_one whole
  cases same
  exact ⟨error, rfl, .itself fun looksUp => by cases looksUp⟩

theorem tells_delete (clusterId : String) :
    (delete clusterId).Tells .deleted (.delete clusterId) := by
  intro sent call error result ends
  rcases (ends_delete.mp ends).of_unanswered with ⟨rfl, rfl⟩ | ⟨more, rfl⟩
  · exact ⟨_, rfl, .inside .delete⟩
  · refine ⟨_, rfl, .itself fun looksUp => ?_⟩
    cases looksUp
    exact more rfl

theorem tells_ensure (onlyPublicClusters : Bool) (context : ClusterContext) :
    (ensure onlyPublicClusters context).Tells .ensured (.ensure context) := by
  intro sent call error result ends
  unfold ensure at ends
  split at ends
  · simp at ends
  · split at ends
    · simp at ends
    · cases usable : context.desiredRequest with
      | error error => simp [usable] at ends
      | ok desired =>
          rw [usable] at ends
          have isAbout : desired.clusterId = context.clusterId := by
            obtain ⟨-, -, rfl⟩ := ClusterContext.desiredRequest_eq_ok.mp usable
            rfl
          obtain ⟨stage, source, rfl, reports⟩ :=
            (ends_converge.mp ends).of_unanswered isAbout
          exact ⟨source, rfl, reports⟩

theorem tells_deleteUnless (overdue : Bool) (clusterId : String)
    (requestedAt now : Timestamp) :
    (deleteUnless overdue clusterId).Tells .deletion
      (.deleteAt clusterId requestedAt now) := by
  intro sent call error result ends
  unfold deleteUnless at ends
  split at ends
  · simp at ends
  · obtain ⟨first, second, value, whole, ends, later⟩ := ends_bind.mp ends
    have settles : second = [] ∧ ∀ source, value = .error source →
        (Answer.deletion result).probeError? = some source := by
      cases value with
      | ok value =>
          obtain ⟨none, -⟩ := ends_finish.mp later
          exact ⟨none, fun _ equal => by cases equal⟩
      | error error =>
          dsimp only at later
          split at later
          · obtain ⟨none, rfl⟩ := ends_finish.mp (ends_measure.mp later)
            exact ⟨none, fun _ equal => by cases equal; rfl⟩
          · obtain ⟨none, rfl⟩ := ends_finish.mp later
            exact ⟨none, fun _ equal => by cases equal; rfl⟩
    obtain ⟨rfl, tells⟩ := settles
    rw [List.append_nil] at whole
    subst whole
    rcases (ends_delete.mp ends).of_unanswered with ⟨rfl, same⟩ | ⟨more, same⟩
    · exact ⟨_, tells _ same, .inside .deleteAt⟩
    · refine ⟨_, tells _ same, .itself fun looksUp => ?_⟩
      cases looksUp
      exact more rfl

end Procedure

namespace Service

variable {ω : Type} (surroundings : Surroundings ω) {client : ProbeClient}

/-- A plan that follows an orderly procedure stops when it is refused a token. -/
theorem stopsWhenRefused_map {α : Type} {procedure : Procedure α}
    {previous : Option Attempt} {change : α → Answer} {step operation : Step}
    (orderly : procedure.Orderly previous)
    (tells : procedure.Tells change operation)
    (isOperation : step.operation? = some operation)
    (cache : Option AccessToken) (world : ω) :
    let run := (step.shown operation <$> change <$> procedure.plan client).run
      surroundings cache world
    step.StopsWhenRefused ⟨run.conclusion, run.events⟩ := by
  intro run before asked delivery after error cut refusal
  simp only [run, surroundings.run_map] at cut ⊢
  have exchanged := congrArg exchanges cut
  simp only [exchanges_append, exchanges_cons, List.singleton_append] at exchanged
  obtain ⟨isLast, call, result, finished, ends⟩ :=
    procedure.run_of_refusal orderly surroundings cache world exchanged refusal
  obtain ⟨source, told, reports⟩ := tells _ _ _ _ ends
  refine ⟨isLast, operation, change result, source, isOperation, ?_, told, reports⟩
  rw [finished]
  rfl

theorem step_stopsWhenRefused (onlyPublicClusters : Bool) (deletionTimeout : Nat)
    (metricsKept : Bool) (state : SessionState ω) (step : Step) :
    let service := ofClient client onlyPublicClusters deletionTimeout
    step.StopsWhenRefused
      (service.step metricsKept surroundings state step).1 := by
  intro service
  unfold Service.step
  generalize (if metricsKept then _ else _ : Option Tally) = tally
  dsimp only
  rcases plan_operation onlyPublicClusters deletionTimeout tally step with
    ⟨-, answer, atOnce⟩ | ⟨operation, isOperation, isPlan⟩
  · intro before asked delivery after error cut
    rw [show service.plan tally step = .done answer from atOnce client] at cut
    simp [Plan.run] at cut
  · rw [show service.plan tally step = step.shown operation <$>
      service.plan tally operation from isPlan client]
    cases operation with
    | web request now => exact absurd isOperation (step.operation?_ne_web _ _)
    | create request =>
        -- What a creation may follow does not matter here.
        have orderly : (Procedure.create request).Orderly
            (some ⟨.lookup request.clusterId, .ok ⟨notFoundStatus, ""⟩⟩) :=
          ⟨.missing (.unknown rfl), fun _ => trivial⟩
        simp only [plan, ← Procedure.plan_create]
        exact stopsWhenRefused_map surroundings orderly
          (Procedure.tells_create request) isOperation _ _
    | get clusterId =>
        simp only [plan, ← Procedure.plan_lookup]
        exact stopsWhenRefused_map surroundings (Procedure.orderly_lookup .first)
          (Procedure.tells_lookup clusterId) isOperation _ _
    | delete clusterId =>
        simp only [plan, ← Procedure.plan_delete]
        exact stopsWhenRefused_map surroundings (Procedure.orderly_delete .first)
          (Procedure.tells_delete clusterId) isOperation _ _
    | ensure context =>
        simp only [plan, ← Procedure.plan_ensure]
        exact stopsWhenRefused_map surroundings (Procedure.orderly_ensure _ _)
          (Procedure.tells_ensure _ context) isOperation _ _
    | deleteAt clusterId requestedAt now =>
        simp only [plan, ← Procedure.plan_deleteUnless]
        exact stopsWhenRefused_map surroundings
          (Procedure.orderly_deleteUnless _ _)
          (Procedure.tells_deleteUnless _ clusterId requestedAt now) isOperation
          _ _

end Service

end ProbeLifecycle
