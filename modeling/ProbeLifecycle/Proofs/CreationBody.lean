import ProbeLifecycle.Plan.Surroundings
import ProbeLifecycle.Proofs.ClusterLookups
import ProbeLifecycle.Proofs.PlannedRequests
import ProbeLifecycle.Proofs.WrittenValues

/-!
# What is posted for a cluster

A pass over a cluster posts to the collection, and what it posts is an object that tells
the cluster as it was described: its identifier, the health endpoint at its host name
without white space around it, its management cluster if one is named, and whether it is
private.  Nothing in a description can add a member or change another one, so clusters
that differ in one of these are posted with different bodies.
-/

namespace ProbeLifecycle

open Json Text

namespace ClusterContext

def announced (context : ClusterContext) : List (String × Value) :=
  [("cluster_id", .string context.clusterId),
    ("apiserver_url",
      .string ("https://" ++ trim context.apiServerHostname ++ "/livez"))] ++
    (match context.managementClusterId with
      | none => []
      | some id => if id = "" then [] else [("management_cluster_id", .string id)]) ++
    [("private", .bool (context.endpointAccess = .privateOnly))]

structure Agrees (context other : ClusterContext) : Prop where
  clusterId : other.clusterId = context.clusterId
  hostname : trim other.apiServerHostname = trim context.apiServerHostname
  managementCluster :
    other.effectiveManagementClusterId = context.effectiveManagementClusterId
  access : other.isPrivate = context.isPrivate

end ClusterContext

/-- A pass over a cluster posts a request to the service, in a run of its own or as a
task among others. -/
inductive Reconciler.Posts (reconciler : Reconciler) (context : ClusterContext)
    (request : ApiRequest) : Prop where
  | alone {ω : Type} {surroundings : Surroundings ω} {cache : Option AccessToken}
      {world : ω} {delivery : Delivery} (isPost : request.call.method = .post)
      (made : .exchanged (.api request) delivery ∈
        ((reconciler.ensureProbe context).run.run surroundings cache world).events)
  | amongOthers {ι α : Type} [DecidableEq ι] {cache : Option AccessToken}
      {plans : ι → Plan α} {trace : List (ι × Act)} {later : Scene ι α} {task : ι}
      {conclude : Except SyncError EnsureOutcome → α}
      (isPost : request.call.method = .post)
      (isPass : plans task = conclude <$> (reconciler.ensureProbe context).run)
      (runs : (Scene.start cache plans).Runs trace later)
      (made : (task, .send (.api request)) ∈ trace)

/-- A call that a pass over a cluster may make; only what is desired is created. -/
inductive ClusterContext.Calls (context : ClusterContext) : Call → Prop where
  | lookup : Calls context (.lookup context.clusterId)
  | terminate : Calls context (.terminate context.clusterId)
  | create {desired : ProbeRequest} (isDesired : context.desiredRequest = .ok desired) :
      Calls context (.create desired)

section Bodies

variable {context other : ClusterContext} {desired otherDesired : ProbeRequest}

/-- The health endpoint tells the host name. -/
theorem healthUrl_inj {hostname otherName : String} :
    "https://" ++ otherName ++ "/livez" = "https://" ++ hostname ++ "/livez" ↔
      otherName = hostname := by
  constructor
  · intro same
    rw [← String.toList_inj] at same
    simp only [String.toList_append] at same
    exact String.toList_inj.mp
      (List.append_cancel_left (List.append_cancel_right same))
  · rintro rfl
    rfl

namespace ClusterContext

theorem announced_eq (context : ClusterContext) :
    context.announced =
      [("cluster_id", .string context.clusterId),
        ("apiserver_url", .string context.probeUrl)] ++
        (context.effectiveManagementClusterId.toList.map fun id =>
          ("management_cluster_id", .string id)) ++
        [("private", .bool context.isPrivate)] := by
  have samePrivacy : decide (context.endpointAccess = .privateOnly) = context.isPrivate :=
    rfl
  unfold announced effectiveManagementClusterId probeUrl
  rw [samePrivacy]
  cases context.managementClusterId with
  | none => rfl
  | some id =>
      by_cases unnamed : id = ""
      · simp [Option.filter, unnamed]
      · simp [Option.filter, unnamed]

/-- The body of the request for what is desired is what is written for the cluster. -/
theorem body_create (isDesired : context.desiredRequest = .ok desired) :
    (Call.create desired).body = (Value.object context.announced).text := by
  obtain ⟨-, -, rfl⟩ := desiredRequest_eq_ok.mp isDesired
  rw [announced_eq]
  unfold Call.body ProbeRequest.json
  cases context.effectiveManagementClusterId with
  | none => rfl
  | some id => rfl

theorem announced_inj : other.announced = context.announced ↔ context.Agrees other := by
  have agrees_iff : context.Agrees other ↔ other.clusterId = context.clusterId ∧
      other.probeUrl = context.probeUrl ∧
      other.effectiveManagementClusterId = context.effectiveManagementClusterId ∧
      other.isPrivate = context.isPrivate := by
    unfold probeUrl
    rw [healthUrl_inj]
    exact ⟨fun ⟨id, host, management, access⟩ => ⟨id, host, management, access⟩,
      fun ⟨id, host, management, access⟩ => ⟨id, host, management, access⟩⟩
  rw [agrees_iff, announced_eq, announced_eq]
  cases other.effectiveManagementClusterId <;>
    cases context.effectiveManagementClusterId <;> simp

end ClusterContext

end Bodies

section Passes

variable {reconciler : Reconciler} {context : ClusterContext} {request : ApiRequest}

theorem Reconciler.sendsOnly_ensureProbe (reconciler : Reconciler)
    (context : ClusterContext) :
    (reconciler.ensureProbe context).run.SendsOnly
      (reconciler.client.Sends context.Calls) := by
  rw [← Procedure.plan_ensure]
  exact Procedure.sendsOnly_plan (Procedure.callsOnly_ensure .lookup .terminate
    (fun _ isDesired => .create isDesired) _)

/-- All that a pass posts is the request for what is desired, at the collection. -/
theorem Reconciler.Posts.eq_create (posts : reconciler.Posts context request) :
    ∃ desired bearer, context.desiredRequest = .ok desired ∧
      request = reconciler.client.apiRequest (.create desired) bearer := by
  have of_sends : request.call.method = .post →
      reconciler.client.Sends context.Calls (.api request) →
      ∃ desired bearer, context.desiredRequest = .ok desired ∧
        request = reconciler.client.apiRequest (.create desired) bearer := by
    intro isPost sends
    cases sends with
    | api calls bearer =>
        cases calls with
        | lookup => cases isPost
        | terminate => cases isPost
        | create isDesired => exact ⟨_, bearer, isDesired, rfl⟩
  have sendsOnly := reconciler.sendsOnly_ensureProbe context
  cases posts with
  | alone isPost made => exact of_sends isPost (sendsOnly.of_run made)
  | amongOthers isPost isPass runs made =>
      refine of_sends isPost (Plan.SendsOnly.of_runs ?_ runs made)
      rw [isPass]
      exact Plan.sendsOnly_bind sendsOnly fun _ => trivial

/-- For a cluster with an identifier and a host name, all that passes post goes to the
collection, with one body.  This is JSON, and however it is taken apart it stands for an
object that announces the cluster.  Another cluster has the same body only if it agrees
with this one. -/
theorem posts_announced (named : isBlank context.clusterId = false)
    (hosted : isBlank context.apiServerHostname = false) :
    ∃ desired, context.desiredRequest = .ok desired ∧
      (∃ form : Form, form.Spells (Call.create desired).body) ∧
      (∀ form : Form, form.Spells (Call.create desired).body →
        form.StandsFor (.object context.announced)) ∧
      (∀ (reconciler : Reconciler) (request : ApiRequest),
        reconciler.Posts context request →
          request.url = reconciler.client.collection.url ∧
            request.call.body = (Call.create desired).body ∧
            ∀ message, request.message? = some message →
              message.method = .post ∧
                message.target = reconciler.client.collection.url.target ∧
                message.body = (Call.create desired).body) ∧
      ∀ (other : ClusterContext) (otherDesired : ProbeRequest),
        other.desiredRequest = .ok otherDesired →
          ((Call.create otherDesired).body = (Call.create desired).body ↔
            context.Agrees other) := by
  obtain ⟨desired, isDesired⟩ : ∃ desired, context.desiredRequest = .ok desired :=
    ⟨_, ClusterContext.desiredRequest_eq_ok.mpr ⟨named, hosted, rfl⟩⟩
  have body := ClusterContext.body_create isDesired
  obtain ⟨spelled, stands⟩ := (Value.object context.announced).text_standsFor
  refine ⟨desired, isDesired, by rwa [body], by rwa [body], ?_, ?_⟩
  · intro reconciler request posts
    obtain ⟨posted, bearer, isPosted, rfl⟩ := posts.eq_create
    obtain rfl : desired = posted := Except.ok.inj (isDesired.symm.trans isPosted)
    refine ⟨rfl, rfl, fun message built => ?_⟩
    obtain ⟨method, target⟩ := Message.of_build built
    exact ⟨method, target, Message.body_of_build built⟩
  · intro other otherDesired isDesiredToo
    rw [body, ClusterContext.body_create isDesiredToo, Value.text_inj,
      Value.object.injEq, ClusterContext.announced_inj]

/-- A description with marks, a control character, characters outside ASCII and what
looks like a member of its own. -/
theorem posts_announced_marks :
    let context : ClusterContext :=
      ⟨"é\"\\\x07\u2028😀", "\u00a0api.h\"x\t", .privateOnly,
        some "m\",\"private\":false"⟩
    let reconciler : Reconciler :=
      ⟨⟨⟨{ scheme := .https, host := "probes", path := ⟨[], "v1"⟩ }, "hcp"⟩, none⟩, false⟩
    let message : Message :=
      { method := .post
        target := "/v1"
        headers := [⟨"content-type", "application/json"⟩, ⟨"x-tenant", "hcp"⟩]
        body := "\x7b\"cluster_id\":\"é\\\"\\\\\\u0007\u2028😀\"," ++
          "\"apiserver_url\":\"https://api.h\\\"x/livez\"," ++
          "\"management_cluster_id\":\"m\\\",\\\"private\\\":false\"," ++
          "\"private\":true\x7d" }
    isBlank context.clusterId = false ∧ isBlank context.apiServerHostname = false ∧
      (∃ request, reconciler.Posts context request ∧
        request.url = reconciler.client.collection.url ∧
        request.message? = some message) ∧
      ∀ form : Form, form.Spells message.body →
        form.StandsFor (.object [("cluster_id", .string "é\"\\\x07\u2028😀"),
          ("apiserver_url", .string "https://api.h\"x/livez"),
          ("management_cluster_id", .string "m\",\"private\":false"),
          ("private", .bool true)]) := by
  intro context reconciler message
  have named : isBlank context.clusterId = false := by decide
  have hosted : isBlank context.apiServerHostname = false := by decide
  obtain ⟨desired, isDesired, -, stands, posted, -⟩ := posts_announced named hosted
  obtain ⟨-, -, rfl⟩ := ClusterContext.desiredRequest_eq_ok.mp isDesired
  let request := reconciler.client.apiRequest (.create ⟨context.clusterId,
    context.probeUrl, context.effectiveManagementClusterId, context.isPrivate⟩) none
  have made : .exchanged (.api request) .hungUp ∈ ((reconciler.ensureProbe
      context).run.run (.scripted ⟨0⟩) none [⟨some 404, .complete []⟩]).events := by
    decide +kernel
  have built : request.message? = some message := by decide +kernel
  have posts : reconciler.Posts context request := .alone rfl made
  obtain ⟨isCollection, -, sent⟩ := posted _ _ posts
  obtain ⟨-, -, sameBody⟩ := sent message built
  refine ⟨named, hosted, ⟨request, posts, isCollection, built⟩, ?_⟩
  intro form spells
  rw [sameBody] at spells
  have isHost : trim context.apiServerHostname = "api.h\"x" := by decide
  have told := stands form spells
  unfold ClusterContext.announced at told
  rw [isHost] at told
  exact told

end Passes

end ProbeLifecycle
