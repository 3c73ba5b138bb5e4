import ProbeLifecycle.Proofs.Measuring

/-!
# Invocations of the client's methods

A client has three methods, and one of them invokes another: to delete a probe is
to look it up first.  Which methods are invoked in a run, and with what success, is
read off the plan, each method as a whole.  Every invocation is measured once, when
it ends, and nothing else is measured as one.
-/

namespace ProbeLifecycle

/-- A method of the client that was invoked, and whether it was successful. -/
structure Invocation where
  operation : Operation
  success : Bool
  deriving DecidableEq, Repr

def Measurement.invocation? : Measurement → Option Invocation
  | request operation success => some ⟨operation, success⟩
  | _ => none

def invocations (measured : List Measurement) : List Invocation :=
  measured.filterMap Measurement.invocation?

theorem invocations_append (first second : List Measurement) :
    invocations (first ++ second) = invocations first ++ invocations second :=
  List.filterMap_append

theorem invocations_cons (measurement : Measurement)
    (measured : List Measurement) :
    invocations (measurement :: measured) =
      measurement.invocation?.toList ++ invocations measured := by
  cases measurement <;> rfl

theorem count_invocations (measured : List Measurement) (invocation : Invocation) :
    (invocations measured).count invocation =
      measured.count (.request invocation.operation invocation.success) := by
  induction measured with
  | nil => rfl
  | cons measurement measured ih =>
      rw [invocations_cons, List.count_append, ih, List.count_cons, Nat.add_comm]
      congr 1
      obtain ⟨operation, success⟩ := invocation
      cases measurement with
      | request other same => simp [Measurement.invocation?, List.count_singleton]
      | _ => rfl

namespace Plan

/-- A plan runs to its end: with a result, and with what it leaves. -/
structure Yields {α ω : Type} (surroundings : Surroundings ω) (plan : Plan α)
    (cache : Option AccessToken) (world : ω) (value : α)
    (later : Option AccessToken) (after : ω) : Prop where
  finished : (plan.run surroundings cache world).conclusion = .finished value
  leaves : (plan.run surroundings cache world).cache = later
  reaches : (plan.run surroundings cache world).world = after

section Yields

variable {α β ω : Type} {surroundings : Surroundings ω} {plan : Plan α}
  {next : α → Plan β} {cache later : Option AccessToken} {world after : ω}
  {value : α} {result : β}

theorem Yields.run_bind
    (yields : plan.Yields surroundings cache world value later after) :
    (plan.bind next).run surroundings cache world =
      { (next value).run surroundings later after with
        events := (plan.run surroundings cache world).events ++
          ((next value).run surroundings later after).events } := by
  obtain ⟨finished, rfl, rfl⟩ := yields
  rw [Plan.run_bind, Run.andThen, finished]

theorem exists_yields_of_bind
    (finished : ((plan.bind next).run surroundings cache world).conclusion =
      .finished result) :
    ∃ value later after, plan.Yields surroundings cache world value later after ∧
      ((next value).run surroundings later after).conclusion =
        .finished result := by
  rw [Plan.run_bind] at finished
  cases concluded : (plan.run surroundings cache world).conclusion with
  | halted cause => simp [Run.andThen, concluded] at finished
  | finished value =>
      refine ⟨value, _, _, ⟨concluded, rfl, rfl⟩, ?_⟩
      simpa [Run.andThen, concluded] using finished

end Yields

end Plan

namespace Procedure

variable {α : Type}

/-- The invocations that a procedure measures meet a condition on its result,
whatever comes of its calls. -/
def Logs : Procedure α → (List Invocation → α → Prop) → Prop
  | finish value, condition => condition [] value
  | measure measurement next, condition =>
      next.Logs fun logged =>
        condition (measurement.invocation?.toList ++ logged)
  | attempt _ next, condition => ∀ outcome, (next outcome).Logs condition

theorem invocations_makes {client : ProbeClient} {call : Call}
    {cache later : Option AccessToken} {events : List Event}
    {conclusion : Conclusion (Except ProbeError Reply)}
    (makes : client.Makes call cache events conclusion later) :
    invocations (measurements events) = [] := by
  apply List.filterMap_eq_nil_iff.mpr
  intro measurement member
  obtain ⟨success, rfl⟩ := makes.measures measurement member
  rfl

/-- What a run has measured is what its procedure logs. -/
theorem Conducts.logs {client : ProbeClient} {procedure : Procedure α}
    {cache later : Option AccessToken} {attempts : List Attempt}
    {events : List Event} {conclusion : Conclusion α} {value : α}
    (conducts :
      procedure.Conducts client cache attempts events conclusion later)
    (finished : conclusion = .finished value)
    {condition : List Invocation → α → Prop} (logs : procedure.Logs condition) :
    condition (invocations (measurements events)) value := by
  induction conducts generalizing condition with
  | finish =>
      cases finished
      exact logs
  | @measure measurement _ _ _ _ _ _ rest ih =>
      have holds := ih finished logs
      cases measurement <;> exact holds
  | attempt makes rest ih =>
      rw [measurements_append, invocations_append, invocations_makes makes]
      exact ih finished (logs _)
  | broken makes => cases finished

section Methods

theorem logs_settle (operation : Operation) (result : Except ProbeError α) :
    (settle operation result).Logs fun logged value =>
      logged = [⟨operation, value.isOk⟩] :=
  rfl

theorem logs_lookup (clusterId : String) :
    (lookup clusterId).Logs fun logged found =>
      logged = [⟨.getProbe, found.isOk⟩] := by
  intro outcome
  change (settleFound (outcome.bind _)).Logs _
  unfold settleFound
  split
  · rfl
  · exact logs_settle _ _

theorem logs_create (request : ProbeRequest) :
    (create request).Logs fun logged created =>
      logged = [⟨.createProbe, created.isOk⟩] :=
  fun _ => logs_settle _ _

theorem logs_terminateFound (clusterId : String)
    (found : Except ProbeError (Option Probe)) :
    (terminateFound clusterId found).Logs fun logged deleted =>
      logged = [⟨.deleteProbe, deleted.isOk⟩] := by
  cases found with
  | error error => exact logs_settle _ _
  | ok probe? =>
      cases probe? with
      | none => exact logs_settle _ _
      | some probe => exact fun outcome => logs_settle _ _

end Methods

end Procedure

namespace ProbeClient

variable {α ω : Type} {client : ProbeClient} {surroundings : Surroundings ω}
  {cache later : Option AccessToken} {world after : ω}

theorem invocations_run {procedure : Procedure α} {plan : Plan α} {value : α}
    {condition : List Invocation → α → Prop}
    (isPlan : procedure.plan client = plan) (logs : procedure.Logs condition)
    (finished : (plan.run surroundings cache world).conclusion =
      .finished value) :
    condition (invocations (measurements
      (plan.run surroundings cache world).events)) value := by
  subst isPlan
  obtain ⟨attempts, conducts⟩ :=
    procedure.conducts_run surroundings client cache world
  exact conducts.logs finished logs

theorem deleteProbe_steps (client : ProbeClient) (clusterId : String) :
    (client.deleteProbe clusterId).run =
      (client.getProbe clusterId).run.bind fun found =>
        (Procedure.terminateFound clusterId found).plan client := by
  rw [← Procedure.plan_delete, Procedure.delete, Procedure.plan_bind,
    Procedure.plan_lookup]

section Methods

variable {clusterId : String}

theorem invocations_getProbe {found : Except ProbeError (Option Probe)}
    (yields : (client.getProbe clusterId).run.Yields surroundings cache world found
      later after) :
    invocations (measurements
        ((client.getProbe clusterId).run.run surroundings cache world).events) =
      [⟨.getProbe, found.isOk⟩] :=
  invocations_run (Procedure.plan_lookup client clusterId)
    (Procedure.logs_lookup clusterId) yields.finished

theorem invocations_createProbe {request : ProbeRequest}
    {created : Except ProbeError Probe}
    (yields : (client.createProbe request).run.Yields surroundings cache world
      created later after) :
    invocations (measurements
        ((client.createProbe request).run.run surroundings cache world).events) =
      [⟨.createProbe, created.isOk⟩] :=
  invocations_run (Procedure.plan_create client request)
    (Procedure.logs_create request) yields.finished

theorem exists_lookup_of_deleteProbe {deleted : Except ProbeError Unit}
    (finished : ((client.deleteProbe clusterId).run.run surroundings cache
      world).conclusion = .finished deleted) :
    ∃ found middle between,
      (client.getProbe clusterId).run.Yields surroundings cache world found middle
        between := by
  rw [deleteProbe_steps] at finished
  obtain ⟨found, middle, between, yields, -⟩ :=
    Plan.exists_yields_of_bind finished
  exact ⟨found, middle, between, yields⟩

theorem invocations_deleteProbe {found : Except ProbeError (Option Probe)}
    {middle : Option AccessToken} {between : ω} {deleted : Except ProbeError Unit}
    (looks : (client.getProbe clusterId).run.Yields surroundings cache world found
      middle between)
    (yields : (client.deleteProbe clusterId).run.Yields surroundings cache world
      deleted later after) :
    invocations (measurements
        ((client.deleteProbe clusterId).run.run surroundings cache world).events) =
      [⟨.getProbe, found.isOk⟩, ⟨.deleteProbe, deleted.isOk⟩] := by
  have finished := yields.finished
  rw [deleteProbe_steps, looks.run_bind] at finished ⊢
  have terminated := invocations_run rfl
    (Procedure.logs_terminateFound clusterId found) finished
  rw [measurements_append, invocations_append, invocations_getProbe looks,
    terminated]
  rfl

end Methods

/-- The methods of a client that are invoked in a run to the end, one after the
other, with their success, and the result.  A deletion comes after the lookup that
it begins with.  Besides the methods, only deletion timeouts are measured. -/
inductive Invokes (client : ProbeClient) (surroundings : Surroundings ω) :
    {α : Type} → Plan α → Option AccessToken → ω → List Invocation → α →
      Prop where
  | done {α : Type} {value : α} {cache world} :
      Invokes client surroundings (.done value) cache world [] value
  | timeout {α : Type} {next : Plan α} {value cache world invoked}
      (rest : Invokes client surroundings next cache world invoked value) :
      Invokes client surroundings (.measure .deletionTimeout next) cache world
        invoked value
  | create {α : Type} {request created next later after} {value : α}
      {cache world invoked}
      (creates : (client.createProbe request).run.Yields surroundings cache world
        created later after)
      (rest :
        Invokes client surroundings (next created) later after invoked value) :
      Invokes client surroundings ((client.createProbe request).run.bind next)
        cache world (⟨.createProbe, created.isOk⟩ :: invoked) value
  | get {α : Type} {clusterId found next later after} {value : α}
      {cache world invoked}
      (looks : (client.getProbe clusterId).run.Yields surroundings cache world
        found later after)
      (rest : Invokes client surroundings (next found) later after invoked value) :
      Invokes client surroundings ((client.getProbe clusterId).run.bind next)
        cache world (⟨.getProbe, found.isOk⟩ :: invoked) value
  | delete {α : Type} {clusterId found begun middle between deleted next later after}
      {value : α} {cache world invoked}
      (begins : (client.deleteProbe clusterId).run =
        (client.getProbe clusterId).run.bind begun)
      (looks : (client.getProbe clusterId).run.Yields surroundings cache world
        found middle between)
      (deletes : (client.deleteProbe clusterId).run.Yields surroundings cache world
        deleted later after)
      (rest :
        Invokes client surroundings (next deleted) later after invoked value) :
      Invokes client surroundings ((client.deleteProbe clusterId).run.bind next)
        cache world
        (⟨.getProbe, found.isOk⟩ :: ⟨.deleteProbe, deleted.isOk⟩ :: invoked) value

/-- Every invocation is measured once, and nothing else is measured as one. -/
theorem Invokes.invocations_eq {plan : Plan α} {invoked : List Invocation}
    {value : α}
    (invokes : client.Invokes surroundings plan cache world invoked value) :
    invocations (measurements (plan.run surroundings cache world).events) =
      invoked := by
  -- A method is measured as a whole, so each constructor adds just what it lists.
  induction invokes with
  | done => rfl
  | timeout rest ih => exact ih
  | create creates rest ih =>
      rw [creates.run_bind, measurements_append, invocations_append,
        invocations_createProbe creates, ih]
      rfl
  | get looks rest ih =>
      rw [looks.run_bind, measurements_append, invocations_append,
        invocations_getProbe looks, ih]
      rfl
  | delete begins looks deletes rest ih =>
      rw [deletes.run_bind, measurements_append, invocations_append,
        invocations_deleteProbe looks deletes, ih]
      rfl

theorem Invokes.map {β : Type} {plan : Plan α} {invoked : List Invocation} {value : α}
    (change : α → β)
    (invokes : client.Invokes surroundings plan cache world invoked value) :
    client.Invokes surroundings (change <$> plan) cache world invoked
      (change value) := by
  induction invokes with
  | done => exact .done
  | timeout rest ih => exact .timeout ih
  | create creates rest ih =>
      change client.Invokes surroundings (Plan.bind (Plan.bind _ _) _) _ _ _ _
      rw [Plan.bind_assoc]
      exact .create creates ih
  | get looks rest ih =>
      change client.Invokes surroundings (Plan.bind (Plan.bind _ _) _) _ _ _ _
      rw [Plan.bind_assoc]
      exact .get looks ih
  | delete begins looks deletes rest ih =>
      change client.Invokes surroundings (Plan.bind (Plan.bind _ _) _) _ _ _ _
      rw [Plan.bind_assoc]
      exact .delete begins looks deletes ih

end ProbeClient

end ProbeLifecycle
