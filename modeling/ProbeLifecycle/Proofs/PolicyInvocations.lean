import ProbeLifecycle.Proofs.DeletionTimeout
import ProbeLifecycle.Proofs.Invocations
import ProbeLifecycle.Proofs.Ordering
import ProbeLifecycle.Proofs.Paths

/-!
# What passes and deletions invoke

A pass over a cluster looks up first, may go on with a deletion, and may create a
probe at last; a deletion with a timeout is one deletion.  How each invocation ends
shows in the result.
-/

namespace ProbeLifecycle

open ProbeClient Text

/-- The lookup with which a pass begins has found a probe that has to be
replaced. -/
def ProbeRequest.replaces (desired : ProbeRequest) (events : List Event) : Bool :=
  match sentAttempts (exchanges events) with
  | [] => false
  | first :: _ =>
      match lookupResult desired.clusterId first.outcome with
      | .ok (some probe) => (probe.replaceReason? desired).isSome
      | _ => false

/-- The methods that a pass invokes, by its result: whether it has a probe to
replace, and how the lookups, the deletion and the creation end. -/
inductive PassInvokes (clusterId : String) :
    Bool → List Invocation → Except SyncError EnsureOutcome → Prop where
  | unknown {error} :
      PassInvokes clusterId false [⟨.getProbe, false⟩]
        (.error (.remote .lookup clusterId error))
  | unchanged :
      PassInvokes clusterId false [⟨.getProbe, true⟩] (.ok .unchanged)
  | created :
      PassInvokes clusterId false [⟨.getProbe, true⟩, ⟨.createProbe, true⟩]
        (.ok .created)
  | uncreated {error} :
      PassInvokes clusterId false [⟨.getProbe, true⟩, ⟨.createProbe, false⟩]
        (.error (.remote .create clusterId error))
  | undeleted {found reason error} :
      PassInvokes clusterId true
        [⟨.getProbe, true⟩, ⟨.getProbe, found⟩, ⟨.deleteProbe, false⟩]
        (.error (.remote (ReplaceReason.stage reason) clusterId error))
  | replaced {found reason} :
      PassInvokes clusterId true
        [⟨.getProbe, true⟩, ⟨.getProbe, found⟩, ⟨.deleteProbe, true⟩,
          ⟨.createProbe, true⟩]
        (.ok (.replaced reason))
  | unreplaced {found error} :
      PassInvokes clusterId true
        [⟨.getProbe, true⟩, ⟨.getProbe, found⟩, ⟨.deleteProbe, true⟩,
          ⟨.createProbe, false⟩]
        (.error (.remote .create clusterId error))

section Passes

variable {ω : Type} {client : ProbeClient} {surroundings : Surroundings ω}
  {cache later : Option AccessToken} {world after : ω} {desired : ProbeRequest}

theorem sentAttempts_getProbe {clusterId : String}
    {found : Except ProbeError (Option Probe)}
    (looks : (client.getProbe clusterId).run.Yields surroundings cache world found
      later after) :
    let events :=
      ((client.getProbe clusterId).run.run surroundings cache world).events
    (sentAttempts (exchanges events) = [] ∧ ∃ error, found = .error error) ∨
      ∃ outcome,
        sentAttempts (exchanges events) = [⟨.lookup clusterId, outcome⟩] ∧
        lookupResult clusterId outcome = found := by
  intro events
  have finished := looks.finished
  rcases Procedure.run_cases client surroundings (.lookup clusterId) cache world with
    ⟨halted, -⟩ | ⟨attempts, result, concluded, ends, takesAll⟩
  · rw [Procedure.plan_lookup, finished] at halted
    cases halted
  · rw [Procedure.plan_lookup] at concluded takesAll
    rw [finished] at concluded
    cases concluded
    obtain ⟨outcome, rfl, looked⟩ := Procedure.ends_lookup.mp ends
    change client.TakesAll _ (exchanges events) at takesAll
    generalize exchanges events = taken at takesAll ⊢
    cases takesAll with
    | next takes noMore =>
        cases noMore
        cases takes with
        | unprovided authenticated refusal =>
            exact .inl ⟨rfl, _, looked.symm⟩
        | plain unauthenticated => exact .inr ⟨_, rfl, looked⟩
        | reused authenticated => exact .inr ⟨_, rfl, looked⟩
        | refreshed authenticated granted => exact .inr ⟨_, rfl, looked⟩

theorem replaces_of_found {probe? : Option Probe}
    (looks : (client.getProbe desired.clusterId).run.Yields surroundings cache world
      (.ok probe?) later after) (rest : List Event) :
    desired.replaces (((client.getProbe desired.clusterId).run.run surroundings cache
        world).events ++ rest) =
      (probe?.bind (·.replaceReason? desired)).isSome := by
  unfold ProbeRequest.replaces
  rw [exchanges_append, sentAttempts_append]
  rcases sentAttempts_getProbe looks with ⟨-, error, impossible⟩ | ⟨outcome, sent, looked⟩
  · cases impossible
  · rw [sent]
    simp only [List.singleton_append, looked]
    cases probe? with
    | none => rfl
    | some probe => rfl

theorem replaces_of_unknown {error : ProbeError}
    (looks : (client.getProbe desired.clusterId).run.Yields surroundings cache world
      (.error error) later after) :
    desired.replaces ((client.getProbe desired.clusterId).run.run surroundings cache
      world).events = false := by
  unfold ProbeRequest.replaces
  rcases sentAttempts_getProbe looks with ⟨unsent, -⟩ | ⟨outcome, sent, looked⟩
  · rw [unsent]
  · rw [sent]
    simp only [looked]

theorem inStage_steps {α β : Type} {procedure : Procedure (Except ProbeError α)}
    {operation : ProbePlan α} (isPlan : procedure.plan client = operation.run)
    (stage : Stage) (clusterId : String)
    (next : α → Procedure (Except SyncError β)) :
    (procedure.inStage stage clusterId next).plan client =
      operation.run.bind fun
        | .error error => .done (.error (.remote stage clusterId error))
        | .ok value => (next value).plan client := by
  rw [Procedure.inStage, Procedure.plan_bind, isPlan]
  congr 1
  funext result
  cases result with
  | error error => rfl
  | ok value => rfl

variable {result : Except SyncError EnsureOutcome}

theorem invokes_createFor {outcome : EnsureOutcome}
    (finished : (((Procedure.createFor desired outcome).plan client).run surroundings
      cache world).conclusion = .finished result) :
    ∃ success,
      client.Invokes surroundings ((Procedure.createFor desired outcome).plan client)
        cache world [⟨.createProbe, success⟩] result ∧
      (success = true ∧ result = .ok outcome ∨
        success = false ∧ ∃ error,
          result = .error (.remote .create desired.clusterId error)) := by
  unfold Procedure.createFor at finished ⊢
  rw [inStage_steps (Procedure.plan_create client desired)] at finished ⊢
  obtain ⟨created, later, after, creates, finished⟩ :=
    Plan.exists_yields_of_bind finished
  refine ⟨created.isOk, .create creates ?_, ?_⟩
  · cases created with
    | error error =>
        cases finished
        exact .done
    | ok probe =>
        cases finished
        exact .done
  · cases created with
    | error error =>
        cases finished
        exact .inr ⟨rfl, error, rfl⟩
    | ok probe =>
        cases finished
        exact .inl ⟨rfl, rfl⟩

theorem invokes_replace {reason : ReplaceReason}
    (finished : (((Procedure.replace desired reason).plan client).run surroundings
      cache world).conclusion = .finished result) :
    ∃ invoked,
      client.Invokes surroundings ((Procedure.replace desired reason).plan client)
        cache world invoked result ∧
      PassInvokes desired.clusterId true (⟨.getProbe, true⟩ :: invoked) result := by
  unfold Procedure.replace at finished ⊢
  rw [inStage_steps (Procedure.plan_delete client desired.clusterId)]
    at finished ⊢
  obtain ⟨deleted, later, after, deletes, finished⟩ :=
    Plan.exists_yields_of_bind finished
  obtain ⟨found, middle, between, looks⟩ :=
    exists_lookup_of_deleteProbe deletes.finished
  have begins := client.deleteProbe_steps desired.clusterId
  cases deleted with
  | error error =>
      cases finished
      exact ⟨_, .delete begins looks deletes .done, .undeleted⟩
  | ok value =>
      obtain ⟨success, invokes, ⟨rfl, rfl⟩ | ⟨rfl, error, rfl⟩⟩ :=
        invokes_createFor finished
      · exact ⟨_, .delete begins looks deletes invokes, .replaced⟩
      · exact ⟨_, .delete begins looks deletes invokes, .unreplaced⟩

theorem invokes_adjust {probe : Probe}
    (finished : (((Procedure.adjust desired probe).plan client).run surroundings
      cache world).conclusion = .finished result) :
    ∃ invoked,
      client.Invokes surroundings ((Procedure.adjust desired probe).plan client)
        cache world invoked result ∧
      PassInvokes desired.clusterId (probe.replaceReason? desired).isSome
        (⟨.getProbe, true⟩ :: invoked) result := by
  unfold Procedure.adjust at finished ⊢
  cases decided : probe.replaceReason? desired with
  | none =>
      rw [decided] at finished
      cases finished
      exact ⟨[], .done, .unchanged⟩
  | some reason =>
      rw [decided] at finished
      exact invokes_replace finished

/-- A pass that goes to work and ends has invoked methods by its result. -/
theorem invokes_converge
    (finished : (((Procedure.converge desired).plan client).run surroundings cache
      world).conclusion = .finished result) :
    ∃ invoked,
      client.Invokes surroundings ((Procedure.converge desired).plan client) cache
        world invoked result ∧
      PassInvokes desired.clusterId
        (desired.replaces (((Procedure.converge desired).plan client).run surroundings
          cache world).events) invoked result := by
  unfold Procedure.converge at finished ⊢
  rw [inStage_steps (Procedure.plan_lookup client desired.clusterId)]
    at finished ⊢
  obtain ⟨found, later, after, looks, finished⟩ :=
    Plan.exists_yields_of_bind finished
  rw [looks.run_bind]
  cases found with
  | error error =>
      cases finished
      simp only [Plan.run, List.append_nil, replaces_of_unknown looks]
      exact ⟨_, .get looks .done, .unknown⟩
  | ok probe? =>
      simp only [replaces_of_found looks]
      cases probe? with
      | none =>
          obtain ⟨success, invokes, ⟨rfl, rfl⟩ | ⟨rfl, error, rfl⟩⟩ :=
            invokes_createFor finished
          · exact ⟨_, .get looks invokes, .created⟩
          · exact ⟨_, .get looks invokes, .uncreated⟩
      | some probe =>
          obtain ⟨invoked, invokes, passInvokes⟩ := invokes_adjust finished
          exact ⟨_, .get looks invokes, passInvokes⟩

end Passes

section Deletions

variable {ω : Type} {policy : DeletionPolicy} {surroundings : Surroundings ω}
  {cache : Option AccessToken} {world : ω} {clusterId : String}
  {requestedAt now : Timestamp} {result : Except SyncError DeletionOutcome}

inductive DeletionInvokes (clusterId : String) :
    List Invocation → Except SyncError DeletionOutcome → Prop where
  | deleted {found} :
      DeletionInvokes clusterId [⟨.getProbe, found⟩, ⟨.deleteProbe, true⟩]
        (.ok .deleted)
  | failOpen {found error} :
      DeletionInvokes clusterId [⟨.getProbe, found⟩, ⟨.deleteProbe, false⟩]
        (.ok (.failOpen error))
  | failed {found error} :
      DeletionInvokes clusterId [⟨.getProbe, found⟩, ⟨.deleteProbe, false⟩]
        (.error (.remote .delete clusterId error))

theorem invokes_deleteProbeAt (notBlank : isBlank clusterId = false)
    (finished : ((policy.deleteProbeAt clusterId requestedAt now).run.run surroundings
      cache world).conclusion = .finished result) :
    ∃ invoked,
      policy.client.Invokes surroundings
        (policy.deleteProbeAt clusterId requestedAt now).run cache world invoked
        result ∧
      DeletionInvokes clusterId invoked result := by
  rw [← Procedure.plan_deleteUnless, Procedure.deleteUnless, notBlank,
    if_neg Bool.false_ne_true, Procedure.plan_bind, Procedure.plan_delete]
    at finished ⊢
  obtain ⟨deleted, later, after, deletes, finished⟩ :=
    Plan.exists_yields_of_bind finished
  obtain ⟨found, middle, between, looks⟩ :=
    exists_lookup_of_deleteProbe deletes.finished
  have begins := policy.client.deleteProbe_steps clusterId
  cases deleted with
  | ok value =>
      cases finished
      exact ⟨_, .delete begins looks deletes .done, .deleted⟩
  | error error =>
      by_cases overdue : policy.IsOverdue requestedAt now
      · simp only [overdue, decide_true, if_true] at finished ⊢
        cases finished
        refine ⟨_, .delete begins looks deletes ?_, .failOpen⟩
        exact .timeout .done
      · simp only [overdue, decide_false, Bool.false_eq_true, if_false]
          at finished ⊢
        cases finished
        refine ⟨_, .delete begins looks deletes ?_, .failed⟩
        exact .done

end Deletions

end ProbeLifecycle
