import ProbeLifecycle.Proofs.DeletionTimeout
import ProbeLifecycle.Proofs.Responses
import ProbeLifecycle.Proofs.WrittenTimes

/-!
# Responses to deletions

Of the time at which a deletion was requested only the instant matters: it decides
together with the timeout how a failure is answered.  Without a time in the request
the deletion is requested now, so that with a timeout no failure is let pass.
-/

namespace ProbeLifecycle.Web

open ProbeClient Rfc3339 Text

/-- A request wants the probe of a cluster deleted, and gives a text as the time at
which that was requested. -/
structure Request.WantsDeletion (request : Request) (clusterId : String)
    (given : Option String) : Prop where
  routed : ∃ segment, route request = .ok (.deleteProbe segment) ∧
    Web.clusterId segment = .ok clusterId
  requestedAtText : requestedAtText request = .ok given

/-- What the response to a wanted deletion says about the deletion and about the time
that has passed since it was requested. -/
structure AnswersDeletion (timeout : Nat) (clusterId : String) (passed : Int)
    (result : Except ProbeError Unit) (response : Response) : Prop where
  ok_iff : response.status = 200 ↔ result = .ok () ∨ (timeout : Int) ≤ max 0 passed
  unavailable_iff : response.status = 503 ↔
    result ≠ .ok () ∧ max 0 passed < (timeout : Int)
  deleted : result = .ok () →
    response = .json 200 (.object [("outcome", .string "deleted")])
  failedOpen : ∀ error, result = .error error → (timeout : Int) ≤ max 0 passed →
    response = .json 200
      (.object [("error", .string error.message), ("outcome", .string "fail_open")])
  refused : ∀ error, result = .error error → max 0 passed < (timeout : Int) →
    response = .failure 503
      ("failed to delete probe for cluster " ++ clusterId ++ ": " ++ error.message)

section Serving

variable (server : Server) {request : Request} {clusterId : String} (now : Timestamp)
  (tally : Option Tally)

theorem Request.WantsDeletion.method_ne {given : Option String}
    (wants : request.WantsDeletion clusterId given) : request.method ≠ "HEAD" := by
  obtain ⟨segment, routed, -⟩ := wants.routed
  have isSome : (route request).toOption = some (.deleteProbe segment) := by
    rw [routed]
    rfl
  obtain ⟨resource, -, isAction⟩ := Request.exists_resource_of_route isSome
  rw [(Request.action?_eq_deleteProbe isAction).2]
  decide

theorem requestedAt_written {written : WrittenTime}
    (given : requestedAtText request = .ok (some written.text)) :
    requestedAt request now = .ok written.timestamp := by
  unfold requestedAt
  rw [given]
  simp only [bind, Except.bind, read_text]
  rfl

theorem requestedAt_absent (given : requestedAtText request = .ok none) :
    requestedAt request now = .ok now := by
  unfold requestedAt
  rw [given]
  rfl

/-- A wanted deletion is performed as of the time at which it was requested. -/
theorem Server.serve_deletion {given : Option String} {requestedAt : Timestamp}
    (wants : request.WantsDeletion clusterId given)
    (dated : Web.requestedAt request now = .ok requestedAt) :
    server.serve request now tally =
      deletionResponse <$> (server.deletion.deleteProbeAt clusterId requestedAt now).run := by
  obtain ⟨segment, routed, named⟩ := wants.routed
  rw [server.serve_eq_of_route request now tally routed]
  simp only [Server.perform, named, dated, orRefuse, Functor.map_map, Request.cut,
    if_neg wants.method_ne]

end Serving

section Answers

theorem since_self (time : Timestamp) : time.since time = 0 := by
  simp [Timestamp.since, Timestamp.leapCorrection]

variable (policy : DeletionPolicy) (clusterId : String) (requestedAt now : Timestamp)

theorem answersDeletion_verdict (result : Except ProbeError Unit) :
    AnswersDeletion policy.timeout clusterId (now.since requestedAt) result
      (deletionResponse (policy.verdict clusterId requestedAt now result)) := by
  have overdue_iff := @DeletionPolicy.isOverdue_iff policy requestedAt now
  cases result with
  | ok value =>
      exact {
        ok_iff := by simp [DeletionPolicy.verdict, deletionResponse, Response.json]
        unavailable_iff := by
          simp [DeletionPolicy.verdict, deletionResponse, Response.json]
        deleted := fun _ => rfl
        failedOpen := by simp
        refused := by simp }
  | error error =>
      by_cases overdue : policy.IsOverdue requestedAt now
      · have waited := overdue_iff.mp overdue
        have opens : deletionResponse (policy.verdict clusterId requestedAt now
            (.error error)) = .json 200 (.object [("error", .string error.message),
              ("outcome", .string "fail_open")]) := by
          rw [DeletionPolicy.verdict, if_pos overdue]
          rfl
        rw [opens]
        exact {
          ok_iff := iff_of_true rfl (.inr waited)
          unavailable_iff := iff_of_false (by simp [Response.json])
            fun unavailable => absurd waited (Int.not_le.mpr unavailable.2)
          deleted := by simp
          failedOpen := by
            rintro _ ⟨⟩ -
            rfl
          refused := fun _ _ notWaited => absurd waited (Int.not_le.mpr notWaited) }
      · have notWaited := Int.not_le.mp (mt overdue_iff.mpr overdue)
        have refuses : deletionResponse (policy.verdict clusterId requestedAt now
            (.error error)) = .failure 503 ("failed to delete probe for cluster " ++
              clusterId ++ ": " ++ error.message) := by
          rw [DeletionPolicy.verdict, if_neg overdue]
          rfl
        rw [refuses]
        exact {
          ok_iff := iff_of_false (by simp [Response.failure, Response.json])
            fun ok => ok.elim (by simp) (Int.not_le.mpr notWaited)
          unavailable_iff := iff_of_true rfl ⟨by simp, notWaited⟩
          deleted := by simp
          failedOpen := fun _ _ waited => absurd waited (Int.not_le.mpr notWaited)
          refused := by
            rintro _ ⟨⟩ -
            rfl }

/-- To serve a wanted deletion is to carry it out and to answer by its result. -/
structure ServesDeletion {ω : Type} (policy : DeletionPolicy) (clusterId : String)
    (passed : Int) (deletion : Run ω (Except ProbeError Unit)) (run : Run ω Response) :
    Prop where
  exchanged : exchanges run.events = exchanges deletion.events
  answered : (run.conclusion = .halted .clockOverflow ∧ policy.client.Overflows run.events) ∨
    ∃ result response, deletion.conclusion = .finished result ∧
      run.conclusion = .finished response ∧
      AnswersDeletion policy.timeout clusterId passed result response

variable {ω : Type} (surroundings : Surroundings ω) (cache : Option AccessToken)
  (world : ω) {clusterId}

theorem servesDeletion_run (notBlank : isBlank clusterId = false) :
    ServesDeletion policy clusterId (now.since requestedAt)
      ((policy.client.deleteProbe clusterId).run.run surroundings cache world)
      ((deletionResponse <$>
        (policy.deleteProbeAt clusterId requestedAt now).run).run surroundings cache
          world) := by
  rw [surroundings.run_map, policy.run_deleteProbeAt notBlank, ← Procedure.plan_delete]
  refine ⟨by simp [DeletionPolicy.exchanges_verdictEvents], ?_⟩
  rcases Procedure.run_cases policy.client surroundings (.delete clusterId) cache world
    with ⟨halted, overflows⟩ | ⟨attempts, result, finished, -, -⟩
  · refine .inl ⟨by simp [halted, Conclusion.map], ?_⟩
    simpa [halted, Conclusion.map, DeletionPolicy.verdictEvents] using overflows
  · have answers := answersDeletion_verdict policy clusterId requestedAt now result
    exact .inr ⟨result, _, finished, by simp only [finished, Conclusion.map], answers⟩

end Answers

namespace Server

variable {ω : Type} (server : Server) {clusterId : String} (now : Timestamp)
  (tally : Option Tally) (surroundings : Surroundings ω) (cache : Option AccessToken)
  (world : ω)

/-- For every cluster with an identifier:

* a deletion that was requested at a written time is answered by its result and the time
  that has passed since, and in the same way for all other times that mean the same
  instant, after the same requests to the probe service;
* a deletion without a time is answered as if it was requested now, so that with a
  timeout a failure is not let pass;
* the written times are all texts that are taken for times. -/
theorem deletion_by_instant (notBlank : isBlank clusterId = false) :
    let deletion := (server.deletion.client.deleteProbe clusterId).run.run surroundings
      cache world
    let run := fun request => (server.serve request now tally).run surroundings cache
      world
    (∀ request (written : WrittenTime),
      request.WantsDeletion clusterId (some written.text) →
        ServesDeletion server.deletion clusterId (now.since written.timestamp) deletion
            (run request) ∧
          ∀ other (writtenToo : WrittenTime),
            other.WantsDeletion clusterId (some writtenToo.text) →
            written.SameInstant writtenToo →
              server.serve other now tally = server.serve request now tally) ∧
    (∀ request, request.WantsDeletion clusterId none →
      ServesDeletion server.deletion clusterId 0 deletion (run request) ∧
        ∀ response error, (run request).conclusion = .finished response →
          deletion.conclusion = .finished (.error error) →
          0 < server.deletion.timeout → response.status = 503) ∧
    ∀ text, (∃ time, Rfc3339.read text = .ok time) ↔
      ∃ written : WrittenTime, text = written.text := by
  intro deletion run
  refine ⟨?_, ?_, ?_⟩
  · intro request written wants
    have serves := server.serve_deletion now tally wants
      (requestedAt_written now wants.requestedAtText)
    refine ⟨?_, ?_⟩
    · simp only [run, serves]
      exact servesDeletion_run _ _ _ _ _ _ notBlank
    · intro other writtenToo wantsToo same
      rw [serves, server.serve_deletion now tally wantsToo
        (requestedAt_written now wantsToo.requestedAtText),
        (written.timestamp_eq_iff writtenToo).mpr same]
  · intro request wants
    have serves := servesDeletion_run server.deletion now now surroundings cache world
      notBlank
    rw [since_self, ← server.serve_deletion now tally wants
      (requestedAt_absent now wants.requestedAtText)] at serves
    refine ⟨serves, ?_⟩
    intro response error responds failed positive
    rcases serves.answered with
      ⟨halted, -⟩ | ⟨result, answer, finished, answered, answers⟩
    · cases responds.symm.trans halted
    · cases failed.symm.trans finished
      cases responds.symm.trans answered
      exact answers.unavailable_iff.mpr ⟨by simp, by simpa using positive⟩
  · intro text
    constructor
    · rintro ⟨time, isRead⟩
      obtain ⟨written, isText, -⟩ := read_eq_ok.mp isRead
      exact ⟨written, isText⟩
    · rintro ⟨written, rfl⟩
      exact ⟨_, read_text written⟩

/-- Half an hour before midnight in a zone that is half an hour behind is midnight in
universal time.  A quarter of an hour later a failure is let pass, but not if the
deletion is requested only then. -/
theorem deletion_by_instant_midnight :
    let written : WrittenTime :=
      { year := ⟨"2020".toList, by decide, by decide⟩
        month := ⟨"01".toList, by decide, by decide⟩
        day := ⟨"01".toList, by decide, by decide⟩
        separator := 'T'
        isSeparator := by decide
        hour := ⟨"00".toList, by decide, by decide⟩
        minute := ⟨"00".toList, by decide, by decide⟩
        second := ⟨"00".toList, by decide, by decide⟩
        fraction := ⟨[], by decide⟩
        zone := .universal 'Z' (by decide)
        dayNumber := 737790
        isDate := by decide
        hour_le := by decide
        minute_le := by decide
        second_le := by decide }
    let writtenToo : WrittenTime :=
      { year := ⟨"2019".toList, by decide, by decide⟩
        month := ⟨"12".toList, by decide, by decide⟩
        day := ⟨"31".toList, by decide, by decide⟩
        separator := 't'
        isSeparator := by decide
        hour := ⟨"23".toList, by decide, by decide⟩
        minute := ⟨"30".toList, by decide, by decide⟩
        second := ⟨"00".toList, by decide, by decide⟩
        fraction := ⟨"000".toList, by decide⟩
        zone := .behind '-' (by decide) ⟨"00".toList, by decide, by decide⟩
          ⟨"30".toList, by decide, by decide⟩ (by decide) (by decide)
        dayNumber := 737789
        isDate := by decide
        hour_le := by decide
        minute_le := by decide
        second_le := by decide }
    let client : ProbeClient :=
      ⟨⟨{ scheme := .http, host := "probes" }, "hcp"⟩,
        some ⟨⟨"hcp", "secret", "http://issuer", none⟩, 30⟩⟩
    let replies : List ScriptedReply := [
      ⟨some 200, .complete (utf8Bytes
        "\x7b\"access_token\":\"t\",\"expires_in\":60\x7d".toList)⟩,
      ⟨some 503, .complete []⟩]
    let server : Server := ⟨⟨client, false⟩, ⟨client, 900 * nanosecondsPerSecond⟩⟩
    let target := "/api/clusters/c1/probe"
    let parameter := "?deletion_requested_at="
    let request : Request :=
      ⟨"DELETE", target ++ parameter ++ "2020-01-01T00:00:00Z", none, ""⟩
    let other : Request :=
      ⟨"DELETE", target ++ parameter ++ "2019-12-31t23:30:00.000-00:30", none, ""⟩
    let undated : Request := ⟨"DELETE", target, none, ""⟩
    let now := Timestamp.ofLocal 737790 900 0 0
    let error : ProbeError := .lookup (.api 503 "")
    let deletion := (client.deleteProbe "c1").run.run (.scripted ⟨0⟩) none replies
    let run := fun request =>
      (server.serve request now none).run (.scripted ⟨0⟩) none replies
    isBlank "c1" = false ∧ request.WantsDeletion "c1" (some written.text) ∧
      other.WantsDeletion "c1" (some writtenToo.text) ∧
      undated.WantsDeletion "c1" none ∧ written.SameInstant writtenToo ∧
      deletion.conclusion = .finished (.error error) ∧
      (run other).conclusion = .finished (.json 200
        (.object [("error", .string error.message), ("outcome", .string "fail_open")])) ∧
      ∃ response, (run undated).conclusion = .finished response ∧
        response.status = 503 := by
  intro written writtenToo client replies server target parameter request other undated
    now error deletion run
  have notBlank : isBlank "c1" = false := by decide
  have wants : request.WantsDeletion "c1" (some written.text) :=
    ⟨⟨"c1".toList, by decide +kernel, by decide +kernel⟩, by decide +kernel⟩
  have wantsToo : other.WantsDeletion "c1" (some writtenToo.text) :=
    ⟨⟨"c1".toList, by decide +kernel, by decide +kernel⟩, by decide +kernel⟩
  have undatedWants : undated.WantsDeletion "c1" none :=
    ⟨⟨"c1".toList, by decide +kernel, by decide +kernel⟩, by decide +kernel⟩
  have same : written.SameInstant writtenToo := by
    constructor <;> decide +kernel
  have failed : deletion.conclusion = .finished (.error error) := by decide +kernel
  obtain ⟨dated, notDated, -⟩ := server.deletion_by_instant now none
    (.scripted ⟨0⟩) none replies notBlank
  refine ⟨notBlank, wants, wantsToo, undatedWants, same, failed, ?_, ?_⟩
  · obtain ⟨serves, others⟩ := dated request written wants
    have sameRun : run other = run request := by
      simp only [run, others other writtenToo wantsToo same]
    rw [sameRun]
    rcases serves.answered with ⟨halted, -⟩ | ⟨result, response, finished, responded, answers⟩
    · exact absurd halted (by decide +kernel)
    · obtain rfl : Except.error error = result :=
        Conclusion.finished.inj (failed.symm.trans finished)
      rw [responded, answers.failedOpen error rfl (by decide +kernel)]
  · obtain ⟨serves, unavailable⟩ := notDated undated undatedWants
    rcases serves.answered with ⟨halted, -⟩ | ⟨result, response, -, responded, -⟩
    · exact absurd halted (by decide +kernel)
    · exact ⟨response, responded,
        unavailable response error responded failed (by decide +kernel)⟩

end Server

end ProbeLifecycle.Web
