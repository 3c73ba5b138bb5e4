import ProbeLifecycle.Plan.Surroundings
import ProbeLifecycle.Proofs.Convergence
import ProbeLifecycle.Proofs.FailedRequests
import ProbeLifecycle.Proofs.WebEffects

/-!
# Whom a response blames

Whoever wants a probe is told whether the description of the cluster is unusable, in
which case nothing has been attempted, or whether a request to the probe service or
to the token issuer has failed.  In the latter case the response ends with what went
wrong with the last request.
-/

namespace ProbeLifecycle

open ProbeClient Text Web

section Failures

variable {exchanged : List (Request × Delivery)}

/-- What a failure says about the requests before it: that there were none, or how
the last one failed. -/
structure SyncError.Tells (error : SyncError)
    (exchanged : List (Request × Delivery)) : Prop where
  isInvalidInput_iff : error.isInvalidInput = true ↔ exchanged = []
  ends : ∀ source, error.probeError? = some source →
    LastFailed source exchanged ∧ source.cause.message.toList <:+ error.message.toList

theorem SyncError.tells_of_isInvalidInput {error : SyncError}
    (unusable : error.isInvalidInput = true) : error.Tells [] where
  isInvalidInput_iff := by simp [unusable]
  ends source isSource := by simp [isInvalidInput, isSource] at unusable

theorem SyncError.tells_remote {stage : Stage} {clusterId : String}
    {source : ProbeError} (lastFailed : LastFailed source exchanged) :
    (SyncError.remote stage clusterId source).Tells exchanged where
  isInvalidInput_iff := by
    simp [isInvalidInput, probeError?, lastFailed.ne_nil]
  ends := by
    rintro _ ⟨⟩
    exact ⟨lastFailed, source.message_cause_suffix.trans
      (message_source_suffix source stage clusterId)⟩

end Failures

section Statuses

variable {result : Except SyncError EnsureOutcome} {found : Except ProbeError (Option Probe)}

theorem Web.status_failureResponse (remote : Nat) (error : SyncError) :
    (failureResponse remote error).status =
      if error.isInvalidInput then 400 else remote :=
  rfl

theorem Web.status_ensureResponse_eq_400 :
    (ensureResponse result).status = 400 ↔
      ∃ error, result = .error error ∧ error.isInvalidInput = true := by
  cases result with
  | ok outcome => simp [ensureResponse, Response.json]
  | error error =>
      simp only [ensureResponse, status_failureResponse, Except.error.injEq,
        exists_eq_left']
      split <;> simp_all

theorem Web.status_ensureResponse_eq_502 :
    (ensureResponse result).status = 502 ↔
      ∃ error, result = .error error ∧ error.isInvalidInput = false := by
  cases result with
  | ok outcome => simp [ensureResponse, Response.json]
  | error error =>
      simp only [ensureResponse, status_failureResponse, Except.error.injEq,
        exists_eq_left']
      split <;> simp_all

end Statuses

section Passes

variable {client : ProbeClient} {onlyPublicClusters : Bool} {context : ClusterContext}
  {exchanged : List (Request × Delivery)} {attempts : List Attempt}

theorem Procedure.succeed_of_ends_ensure {outcome : EnsureOutcome}
    (ends : (ensure onlyPublicClusters context).Ends attempts (.ok outcome)) :
    Succeed attempts := by
  rcases ensure_cases onlyPublicClusters context with
    ⟨result, atOnce⟩ | ⟨desired, usable, works⟩
  · rw [atOnce] at ends
    rw [(ends_finish.mp ends).1]
    exact List.forall_mem_nil _
  · rw [works] at ends
    exact (ends_converge.mp ends).succeed

variable {reconciler : Reconciler} {result : Except SyncError EnsureOutcome}

/-- Nothing is attempted for an unusable description, and a failure of an attempt is
that of the last one. -/
theorem Reconciler.Decided.tells
    (decided : reconciler.Decided context exchanged attempts result)
    {error : SyncError} (failed : result = .error error) : error.Tells exchanged := by
  cases error with
  | emptyClusterId =>
      rw [decided.idle.mpr (.inl failed)]
      exact SyncError.tells_of_isInvalidInput rfl
  | missingHostname clusterId =>
      obtain ⟨rfl, -⟩ := (decided.missingHostname clusterId).mp failed
      rw [decided.idle.mpr (.inr (.inr failed))]
      exact SyncError.tells_of_isInvalidInput rfl
  | remote stage clusterId source =>
      obtain ⟨-, desired, -, stops⟩ := (decided.remote stage clusterId source).mp failed
      exact SyncError.tells_remote (decided.taken.lastFailed stops.failAtEnd)

/-- What the response to a wanted probe says about the description of the cluster and
about the requests that were made for it. -/
structure Reconciler.Answers (reconciler : Reconciler) (context : ClusterContext)
    (exchanged : List (Request × Delivery)) (result : Except SyncError EnsureOutcome)
    (response : Response) : Prop where
  unusable_iff : response.status = 400 ↔
    isBlank context.clusterId = true ∨
      (context.isPrivate = true → reconciler.onlyPublicClusters = false) ∧
        isBlank context.apiServerHostname = true
  failed_iff : response.status = 502 ↔
    ∃ exchange ∈ exchanged, ∃ error, FailsWith exchange error
  otherwise : response.status ≠ 400 → response.status ≠ 502 →
    ∃ outcome, result = .ok outcome ∧ response = .json 200 outcome.json
  skipped : isBlank context.clusterId = false → context.isPrivate = true →
    reconciler.onlyPublicClusters = true →
      response = .json 200 EnsureOutcome.skipped.json ∧ exchanged = []
  explained : ∀ error, result = .error error →
    response = .failure response.status error.message

theorem Reconciler.Decided.unusable_iff
    (decided : reconciler.Decided context exchanged attempts result) :
    (∃ error, result = .error error ∧ error.isInvalidInput = true) ↔
      isBlank context.clusterId = true ∨
        (context.isPrivate = true → reconciler.onlyPublicClusters = false) ∧
          isBlank context.apiServerHostname = true := by
  constructor
  · rintro ⟨error, failed, unusable⟩
    cases error with
    | emptyClusterId => exact .inl (decided.emptyClusterId.mp failed)
    | missingHostname clusterId =>
        obtain ⟨-, -, wanted, missing⟩ := (decided.missingHostname clusterId).mp failed
        exact .inr ⟨wanted, missing⟩
    | remote stage clusterId source => cases unusable
  · intro unusable
    cases blank : isBlank context.clusterId with
    | true => exact ⟨_, decided.emptyClusterId.mpr blank, rfl⟩
    | false =>
        rw [blank] at unusable
        obtain ⟨wanted, missing⟩ := unusable.resolve_left Bool.false_ne_true
        exact ⟨_, (decided.missingHostname _).mpr ⟨rfl, blank, wanted, missing⟩, rfl⟩

/-- A pass that has not failed has made no request that has failed. -/
theorem Reconciler.Decided.failed_iff
    (decided : reconciler.Decided context exchanged attempts result)
    (succeed : ∀ outcome, result = .ok outcome → Succeed attempts) :
    (∃ error, result = .error error ∧ error.isInvalidInput = false) ↔
      ∃ exchange ∈ exchanged, ∃ error, FailsWith exchange error := by
  constructor
  · rintro ⟨error, failed, attempted⟩
    cases isSource : error.probeError? with
    | none => simp [SyncError.isInvalidInput, isSource] at attempted
    | some source =>
        exact ((decided.tells failed).ends source isSource).1.exists_failsWith
  · rintro ⟨exchange, member, inner, fails⟩
    cases result with
    | ok outcome =>
        have noneFailed := decided.taken.noneFailed (succeed outcome rfl)
        exact absurd fails (noneFailed exchange member inner)
    | error error =>
        refine ⟨error, rfl, Bool.eq_false_iff.mpr fun unusable => ?_⟩
        rw [(decided.tells rfl).isInvalidInput_iff.mp unusable] at member
        cases member

theorem Reconciler.Decided.answers
    (decided : reconciler.Decided context exchanged attempts result)
    (succeed : ∀ outcome, result = .ok outcome → Succeed attempts) :
    reconciler.Answers context exchanged result (ensureResponse result) where
  unusable_iff := status_ensureResponse_eq_400.trans decided.unusable_iff
  failed_iff := status_ensureResponse_eq_502.trans (decided.failed_iff succeed)
  otherwise := by
    intro usable attempted
    cases result with
    | ok outcome => exact ⟨outcome, rfl, rfl⟩
    | error error =>
        rw [ensureResponse, status_failureResponse] at usable attempted
        split at usable <;> simp_all
  skipped := by
    intro notBlank isPrivate onlyPublic
    have skips := decided.skipped.mpr ⟨notBlank, isPrivate, onlyPublic⟩
    rw [skips]
    exact ⟨rfl, decided.idle.mpr (.inr (.inl skips))⟩
  explained := by
    rintro error rfl
    rfl

end Passes

section Runs

variable {ω : Type} (surroundings : Surroundings ω) (cache : Option AccessToken)
  (world : ω)

theorem ProbeClient.lastFailed_getProbe (client : ProbeClient) {clusterId : String}
    {error : ProbeError}
    (failed : ((client.getProbe clusterId).run.run surroundings cache world).conclusion =
      .finished (.error error)) :
    LastFailed error (exchanges
      ((client.getProbe clusterId).run.run surroundings cache world).events) := by
  rw [← Procedure.plan_lookup] at failed ⊢
  rcases Procedure.run_cases client surroundings (.lookup clusterId) cache world with
    ⟨halted, -⟩ | ⟨attempts, result, finished, ends, takesAll⟩
  · rw [failed] at halted
    cases halted
  · rw [failed] at finished
    cases finished
    obtain ⟨outcome, rfl, learned⟩ := Procedure.ends_lookup.mp ends
    exact takesAll.lastFailed (.last (lookupResult_eq_error.mp learned) rfl)

theorem Reconciler.tells_ensureProbe (reconciler : Reconciler)
    {context : ClusterContext} {error : SyncError}
    (failed : ((reconciler.ensureProbe context).run.run surroundings cache
      world).conclusion = .finished (.error error)) :
    error.Tells (exchanges
      ((reconciler.ensureProbe context).run.run surroundings cache world).events) := by
  rcases ensureProbe_decided reconciler context surroundings cache world with
    ⟨halted, -⟩ | ⟨attempts, result, finished, decided⟩
  · rw [failed] at halted
    cases halted
  · rw [failed] at finished
    cases finished
    exact decided.tells rfl

/-- A deletion fails at once without an identifier, and otherwise because the deletion
of the client failed. -/
theorem Procedure.ends_deleteUnless_error {overdue : Bool} {clusterId : String}
    {attempts : List Attempt} {error : SyncError}
    (ends : (deleteUnless overdue clusterId).Ends attempts (.error error)) :
    attempts = [] ∧ error = .emptyClusterId ∨
      ∃ source, error = .remote .delete clusterId source ∧
        Deletes clusterId attempts (.error source) := by
  cases blank : isBlank clusterId with
  | true =>
      rw [deleteUnless, blank, if_pos rfl] at ends
      obtain ⟨idle, same⟩ := ends_finish.mp ends
      exact .inl ⟨idle, Except.error.inj same⟩
  | false =>
      rw [deleteUnless, blank, if_neg Bool.false_ne_true] at ends
      obtain ⟨first, second, deleted, rfl, deletes, later⟩ := ends_bind.mp ends
      cases deleted with
      | ok value =>
          obtain ⟨-, impossible⟩ := ends_finish.mp later
          cases impossible
      | error source =>
          cases overdue with
          | true =>
              obtain ⟨-, impossible⟩ := ends_finish.mp (ends_measure.mp later)
              cases impossible
          | false =>
              obtain ⟨rfl, same⟩ := ends_finish.mp later
              rw [List.append_nil]
              exact .inr ⟨source, Except.error.inj same, ends_delete.mp deletes⟩

theorem DeletionPolicy.tells_deleteProbeAt (policy : DeletionPolicy)
    {clusterId : String} {requestedAt now : Timestamp} {error : SyncError}
    (failed : ((policy.deleteProbeAt clusterId requestedAt now).run.run surroundings cache
      world).conclusion = .finished (.error error)) :
    error.Tells (exchanges ((policy.deleteProbeAt clusterId requestedAt now).run.run
      surroundings cache world).events) := by
  rw [← Procedure.plan_deleteUnless] at failed ⊢
  rcases Procedure.run_cases policy.client surroundings _ cache world with
    ⟨halted, -⟩ | ⟨attempts, result, finished, ends, takesAll⟩
  · rw [failed] at halted
    cases halted
  · rw [failed] at finished
    cases finished
    rcases Procedure.ends_deleteUnless_error ends with
      ⟨rfl, rfl⟩ | ⟨source, rfl, deletes⟩
    · rw [takesAll.eq_nil_iff.mpr rfl]
      exact SyncError.tells_of_isInvalidInput rfl
    · exact SyncError.tells_remote (takesAll.lastFailed deletes.failAtEnd)

end Runs

namespace Web

/-- What the response to a wanted lookup says about its result. -/
structure AnswersLookup (exchanged : List (ProbeLifecycle.Request × Delivery))
    (result : Except ProbeError (Option Probe)) (response : Response) : Prop where
  found_iff : response.status = 200 ↔ ∃ probe, result = .ok (some probe)
  absent_iff : response.status = 404 ↔ result = .ok none
  failed_iff : response.status = 502 ↔ ∃ error, result = .error error
  explained : ∀ error, result = .error error →
    response = .failure 502 error.message ∧ LastFailed error exchanged

theorem answersLookup_lookupResponse
    {exchanged : List (ProbeLifecycle.Request × Delivery)} (clusterId : String)
    {result : Except ProbeError (Option Probe)}
    (lastFailed : ∀ error, result = .error error → LastFailed error exchanged) :
    AnswersLookup exchanged result (lookupResponse clusterId result) where
  found_iff := by
    rcases result with error | probe | probe <;>
      simp [lookupResponse, Response.failure, Response.json]
  absent_iff := by
    rcases result with error | probe | probe <;>
      simp [lookupResponse, Response.failure, Response.json]
  failed_iff := by
    rcases result with error | probe | probe <;>
      simp [lookupResponse, Response.failure, Response.json]
  explained := by
    rintro error rfl
    exact ⟨rfl, lastFailed error rfl⟩

namespace Server

variable {ω : Type} (server : Server) (request : Request) (now : Timestamp)
  (tally : Option Tally) (surroundings : Surroundings ω) (cache : Option AccessToken)
  (world : ω)

theorem serve_eq_of_route {action : Action} (routed : route request = .ok action) :
    server.serve request now tally =
      request.cut <$> server.perform request now tally action := by
  unfold serve Request.cut
  rw [routed]
  simp only [orRefuse]
  split
  · rfl
  · exact (id_map _).symm

section Performing

variable {request} {segment : List Char} {clusterId : String}
  (named : Web.clusterId segment = .ok clusterId)
include named

theorem run_perform_ensureProbe {described : ClusterDescription}
    (describes : description request = .ok described) :
    let pass := (server.reconciler.ensureProbe (described.context clusterId)).run.run
      surroundings cache world
    (server.perform request now tally (.ensureProbe segment)).run surroundings cache
        world =
      ⟨pass.conclusion.map ensureResponse, pass.cache, pass.world, pass.events⟩ := by
  simp only [perform, named, describes, orRefuse]
  exact surroundings.run_map _ _ cache world

theorem run_perform_getProbe :
    let lookup := (server.reconciler.client.getProbe clusterId).run.run surroundings
      cache world
    (server.perform request now tally (.getProbe segment)).run surroundings cache
        world =
      ⟨lookup.conclusion.map (lookupResponse clusterId), lookup.cache, lookup.world,
        lookup.events⟩ := by
  simp only [perform, named, orRefuse]
  exact surroundings.run_map _ _ cache world

theorem answers_perform_ensureProbe {described : ClusterDescription}
    (describes : description request = .ok described) :
    let pass := (server.reconciler.ensureProbe (described.context clusterId)).run.run
      surroundings cache world
    let run := (server.perform request now tally (.ensureProbe segment)).run
      surroundings cache world
    (run.conclusion = .halted .clockOverflow ∧
        server.reconciler.client.Overflows run.events) ∨
      ∃ result response, pass.conclusion = .finished result ∧
        run.conclusion = .finished response ∧
        server.reconciler.Answers (described.context clusterId)
          (exchanges run.events) result response := by
  intro pass run
  simp only [run, server.run_perform_ensureProbe now tally surroundings cache world
    named describes, pass]
  rw [← Procedure.plan_ensure]
  rcases Procedure.run_cases server.reconciler.client surroundings _ cache world with
    ⟨halted, overflows⟩ | ⟨attempts, result, finished, ends, takesAll⟩
  · exact .inl ⟨by rw [halted]; rfl, overflows⟩
  · have decided := decided_of_ends takesAll ends
    refine .inr ⟨result, ensureResponse result, finished, by rw [finished]; rfl, ?_⟩
    apply decided.answers
    rintro outcome rfl
    exact Procedure.succeed_of_ends_ensure ends

theorem answers_perform_getProbe :
    let lookup := (server.reconciler.client.getProbe clusterId).run.run surroundings
      cache world
    let run := (server.perform request now tally (.getProbe segment)).run
      surroundings cache world
    (run.conclusion = .halted .clockOverflow ∧
        server.reconciler.client.Overflows run.events) ∨
      ∃ result response, lookup.conclusion = .finished result ∧
        run.conclusion = .finished response ∧
        AnswersLookup (exchanges run.events) result response := by
  intro lookup run
  simp only [run, server.run_perform_getProbe now tally surroundings cache world named,
    lookup]
  rcases Procedure.run_cases server.reconciler.client surroundings (.lookup clusterId)
      cache world with ⟨halted, overflows⟩ | ⟨attempts, result, finished, -, -⟩
  · rw [Procedure.plan_lookup] at halted overflows
    exact .inl ⟨by rw [halted]; rfl, overflows⟩
  · rw [Procedure.plan_lookup] at finished
    refine .inr ⟨result, lookupResponse clusterId result, finished,
      by rw [finished]; rfl, ?_⟩
    apply answersLookup_lookupResponse
    rintro error rfl
    exact lastFailed_getProbe surroundings cache world _ finished

end Performing

/-- However the probe service and the token issuer behave:

* the response to a wanted probe blames the description of the cluster or the requests
  that were made, unless the clock cannot represent the expiry of a token;
* so does the response to a lookup, by the result of the lookup;
* a failure of a pass or of a deletion is one of the input exactly if nothing was
  attempted, and otherwise ends with the failure of the last request;
* a request for an action is answered with the response to the action. -/
theorem responses_blame :
    (∀ request segment clusterId described,
      Web.clusterId segment = .ok clusterId → description request = .ok described →
      let context := described.context clusterId
      let pass := (server.reconciler.ensureProbe context).run.run surroundings cache
        world
      let run := (server.perform request now tally (.ensureProbe segment)).run
        surroundings cache world
      (run.conclusion = .halted .clockOverflow ∧
          server.reconciler.client.Overflows run.events) ∨
        ∃ result response, pass.conclusion = .finished result ∧
          run.conclusion = .finished response ∧
          server.reconciler.Answers context (exchanges run.events) result response) ∧
    (∀ request segment clusterId, Web.clusterId segment = .ok clusterId →
      let lookup := (server.reconciler.client.getProbe clusterId).run.run surroundings
        cache world
      let run := (server.perform request now tally (.getProbe segment)).run
        surroundings cache world
      (run.conclusion = .halted .clockOverflow ∧
          server.reconciler.client.Overflows run.events) ∨
        ∃ result response, lookup.conclusion = .finished result ∧
          run.conclusion = .finished response ∧
          AnswersLookup (exchanges run.events) result response) ∧
    (∀ context error,
      let pass := (server.reconciler.ensureProbe context).run.run surroundings cache
        world
      pass.conclusion = .finished (.error error) →
        error.Tells (exchanges pass.events)) ∧
    (∀ clusterId requestedAt error,
      let deletion := (server.deletion.deleteProbeAt clusterId requestedAt now).run.run
        surroundings cache world
      deletion.conclusion = .finished (.error error) →
        error.Tells (exchanges deletion.events)) ∧
    ∀ request action, route request = .ok action →
      server.serve request now tally =
        request.cut <$> server.perform request now tally action := by
  refine ⟨?_, ?_, ?_, ?_, ?_⟩
  · intro request segment clusterId described named describes
    exact server.answers_perform_ensureProbe now tally surroundings cache world named
      describes
  · intro request segment clusterId named
    exact server.answers_perform_getProbe now tally surroundings cache world named
  · intro context error
    exact server.reconciler.tells_ensureProbe surroundings cache world
  · intro clusterId requestedAt error
    exact server.deletion.tells_deleteProbeAt surroundings cache world
  · intro request action routed
    exact server.serve_eq_of_route request now tally routed

/-- The service fails at the second request.  In a pass over a cluster with a failed
probe this is the lookup of a deletion, and in a deletion it is the termination. -/
theorem responses_blame_nested :
    let client : ProbeClient :=
      ⟨⟨{ scheme := .http, host := "probes" }, "hcp"⟩,
        some ⟨⟨"hcp", "secret", "http://issuer", none⟩, 30⟩⟩
    let server : Server := ⟨⟨client, true⟩, ⟨client, 900⟩⟩
    let request : Request :=
      { method := "PUT"
        target := "/api/clusters/c1/probe"
        contentType := some "application/json"
        body := "\x7b\"api_server_hostname\":\"api.c1\"\x7d" }
    let segment := "c1".toList
    let described : ClusterDescription := { apiServerHostname := "api.c1" }
    let replies : List ScriptedReply := [
      ⟨some 200, .complete (utf8Bytes
        "\x7b\"access_token\":\"t\",\"expires_in\":60\x7d".toList)⟩,
      ⟨some 200, .complete (utf8Bytes
        "\x7b\"probes\":[\x7b\"cluster_id\":\"c1\",\"status\":\"failed\"\x7d]\x7d".toList)⟩,
      ⟨some 500, .complete (utf8Bytes "down".toList)⟩]
    let now := Timestamp.ofLocal 736694 0 0 0
    let pass := (server.reconciler.ensureProbe (described.context "c1")).run.run
      (.scripted ⟨0⟩) none replies
    let deletion := (server.deletion.deleteProbeAt "c1" now now).run.run
      (.scripted ⟨0⟩) none replies
    let run := (server.perform request now none (.ensureProbe segment)).run
      (.scripted ⟨0⟩) none replies
    let error : SyncError := .remote .deleteFailed "c1" (.lookup (.api 500 "down"))
    let deletionError : SyncError := .remote .delete "c1" (.api 500 "down")
    Web.clusterId segment = .ok "c1" ∧ description request = .ok described ∧
      route request = .ok (.ensureProbe segment) ∧
      pass.conclusion = .finished (.error error) ∧
      deletion.conclusion = .finished (.error deletionError) ∧
      run.conclusion = .finished (.failure 502
        ("failed to delete failed probe for cluster c1: " ++
          "failed to check existing probe: API request failed with status 500: down")) ∧
      server.reconciler.Answers (described.context "c1") (exchanges run.events)
        (.error error) (.failure 502 error.message) ∧
      error.Tells (exchanges pass.events) ∧
      deletionError.Tells (exchanges deletion.events) ∧
      server.serve request now none =
        request.cut <$> server.perform request now none (.ensureProbe segment) := by
  intro client server request segment described replies now pass deletion run error
    deletionError
  have named : Web.clusterId segment = .ok "c1" := by decide +kernel
  have describes : description request = .ok described := by decide +kernel
  have routed : route request = .ok (.ensureProbe segment) := by decide +kernel
  have failed : pass.conclusion = .finished (.error error) := by decide +kernel
  have failedToo : deletion.conclusion = .finished (.error deletionError) := by
    decide +kernel
  have responds : run.conclusion = .finished (.failure 502
      ("failed to delete failed probe for cluster c1: " ++
        "failed to check existing probe: API request failed with status 500: down")) := by
    decide +kernel
  obtain ⟨answers, -, tells, tellsToo, served⟩ :=
    server.responses_blame now none (.scripted ⟨0⟩) none replies
  refine ⟨named, describes, routed, failed, failedToo, responds, ?_, tells _ _ failed,
    tellsToo _ _ _ failedToo, served _ _ routed⟩
  rcases answers request _ _ _ named describes with
    ⟨halted, -⟩ | ⟨result, response, finished, responded, answers⟩
  · exact absurd (responds.symm.trans halted) (by simp)
  · obtain rfl : Except.error error = result :=
      Conclusion.finished.inj (failed.symm.trans finished)
    obtain rfl : _ = response := Conclusion.finished.inj (responds.symm.trans responded)
    exact answers

end Server

end Web

end ProbeLifecycle
