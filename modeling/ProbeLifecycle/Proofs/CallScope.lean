import ProbeLifecycle.Proofs.Paths

/-!
# What procedures call

Which calls a procedure may make is written in it, whatever comes of them.  A
property of all its calls is checked on the procedure and holds of every request
to the service in its runs, also in those that break off.
-/

namespace ProbeLifecycle

def Procedure.CallsOnly {α : Type} (allowed : Call → Prop) :
    Procedure α → Prop
  | finish _ => True
  | measure _ next => next.CallsOnly allowed
  | attempt call next =>
      allowed call ∧ ∀ outcome, (next outcome).CallsOnly allowed

namespace ProbeClient.Makes

variable {client : ProbeClient} {call : Call}
  {cache later : Option AccessToken} {events : List Event}
  {conclusion : Conclusion (Except ProbeError Reply)}

theorem call_eq (makes : client.Makes call cache events conclusion later)
    {request : ApiRequest} {delivery : Delivery}
    (member : (.api request, delivery) ∈ exchanges events) :
    request.call = call := by
  cases makes with
  | plain unauthenticated =>
      simp only [exchanges_cons, exchanges_nil, List.append_nil,
        List.mem_singleton] at member
      cases member
      rfl
  | broken authenticated provides =>
      exact absurd member (ProbeClient.api_notMem_exchanges provides _ _)
  | unprovided authenticated provides =>
      exact absurd member (ProbeClient.api_notMem_exchanges provides _ _)
  | sent authenticated provides =>
      rw [exchanges_append, List.mem_append] at member
      have sent := member.resolve_left
        (ProbeClient.api_notMem_exchanges provides _ _)
      simp only [exchanges_cons, ProbeClient.exchanges_dropping,
        List.append_nil, List.mem_singleton] at sent
      cases sent
      rfl

end ProbeClient.Makes

namespace Procedure

variable {α β : Type} {allowed : Call → Prop}

/-- What holds of the calls of a procedure holds of its requests. -/
theorem Conducts.callsOnly {client : ProbeClient} {procedure : Procedure α}
    {cache later : Option AccessToken} {attempts : List Attempt}
    {events : List Event} {conclusion : Conclusion α}
    (conducts :
      procedure.Conducts client cache attempts events conclusion later)
    (callsOnly : procedure.CallsOnly allowed) {request : ApiRequest}
    {delivery : Delivery}
    (member : (.api request, delivery) ∈ exchanges events) :
    allowed request.call := by
  induction conducts with
  | finish => cases member
  | measure rest ih => exact ih callsOnly (by simpa using member)
  | attempt makes rest ih =>
      obtain ⟨isAllowed, nextCallsOnly⟩ := callsOnly
      rw [exchanges_append, List.mem_append] at member
      rcases member with made | later
      · rw [makes.call_eq made]
        exact isAllowed
      · exact ih (nextCallsOnly _) later
  | broken makes =>
      rw [makes.call_eq member]
      exact callsOnly.1

theorem callsOnly_bind {procedure : Procedure α} {next : α → Procedure β}
    (callsOnly : procedure.CallsOnly allowed)
    (nextCallsOnly : ∀ value, (next value).CallsOnly allowed) :
    (procedure.bind next).CallsOnly allowed := by
  induction procedure with
  | finish value => exact nextCallsOnly value
  | measure measurement rest ih => exact ih callsOnly
  | attempt call rest ih =>
      obtain ⟨isAllowed, restCallsOnly⟩ := callsOnly
      exact ⟨isAllowed, fun outcome => ih outcome (restCallsOnly outcome)⟩

section Operations

variable {clusterId : String} {desired : ProbeRequest}

theorem callsOnly_lookup (lookups : allowed (.lookup clusterId)) :
    (lookup clusterId).CallsOnly allowed := by
  refine ⟨lookups, fun outcome => ?_⟩
  change (settleFound (outcome.bind _)).CallsOnly allowed
  unfold settleFound
  split
  · trivial
  · trivial

theorem callsOnly_delete (lookups : allowed (.lookup clusterId))
    (terminates : allowed (.terminate clusterId)) :
    (delete clusterId).CallsOnly allowed := by
  apply callsOnly_bind (callsOnly_lookup lookups)
  intro found
  cases found with
  | error error => trivial
  | ok probe? =>
      cases probe? with
      | none => trivial
      | some probe => exact ⟨terminates, fun outcome => trivial⟩

theorem callsOnly_inStage {procedure : Procedure (Except ProbeError α)}
    {stage : Stage} {next : α → Procedure (Except SyncError β)}
    (callsOnly : procedure.CallsOnly allowed)
    (nextCallsOnly : ∀ value, (next value).CallsOnly allowed) :
    (procedure.inStage stage clusterId next).CallsOnly allowed := by
  apply callsOnly_bind callsOnly
  intro result
  cases result with
  | error error => trivial
  | ok value => exact nextCallsOnly value

theorem callsOnly_createFor (creates : allowed (.create desired))
    (outcome : EnsureOutcome) :
    (createFor desired outcome).CallsOnly allowed :=
  callsOnly_inStage ⟨creates, fun _ => trivial⟩ fun _ => trivial

theorem callsOnly_converge (lookups : allowed (.lookup desired.clusterId))
    (terminates : allowed (.terminate desired.clusterId))
    (creates : allowed (.create desired)) :
    (converge desired).CallsOnly allowed := by
  apply callsOnly_inStage (callsOnly_lookup lookups)
  intro found
  cases found with
  | none => exact callsOnly_createFor creates _
  | some probe =>
      change (adjust desired probe).CallsOnly allowed
      unfold adjust
      split
      · trivial
      · exact callsOnly_inStage (callsOnly_delete lookups terminates)
          fun _ => callsOnly_createFor creates _

theorem callsOnly_ensure {context : ClusterContext}
    (lookups : allowed (.lookup context.clusterId))
    (terminates : allowed (.terminate context.clusterId))
    (creates : ∀ desired, context.desiredRequest = .ok desired →
      allowed (.create desired))
    (onlyPublicClusters : Bool) :
    (ensure onlyPublicClusters context).CallsOnly allowed := by
  unfold ensure
  split
  · trivial
  · split
    · trivial
    · cases usable : context.desiredRequest with
      | error error => trivial
      | ok desired =>
          have sameCluster : desired.clusterId = context.clusterId := by
            obtain ⟨-, -, rfl⟩ := ClusterContext.desiredRequest_eq_ok.mp usable
            rfl
          rw [← sameCluster] at lookups terminates
          exact callsOnly_converge lookups terminates (creates desired usable)

theorem callsOnly_deleteUnless (lookups : allowed (.lookup clusterId))
    (terminates : allowed (.terminate clusterId)) (overdue : Bool) :
    (deleteUnless overdue clusterId).CallsOnly allowed := by
  unfold deleteUnless
  split
  · trivial
  · apply callsOnly_bind (callsOnly_delete lookups terminates)
    intro result
    cases result with
    | ok value => trivial
    | error error =>
        dsimp only
        split
        · trivial
        · trivial

end Operations

end Procedure

end ProbeLifecycle
