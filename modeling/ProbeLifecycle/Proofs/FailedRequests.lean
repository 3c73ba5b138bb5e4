import ProbeLifecycle.Proofs.FailureTraces

/-!
# Requests that failed

An operation goes on after a request only if there was something in the answer that
it can use.  So at most the last request of a run has failed, and exactly if it has
the operation fails, with a failure whose cause is that of the request.
-/

namespace ProbeLifecycle

open ProbeClient

/-- A request failed, or what it was answered is of no use. -/
inductive FailsWith : Request × Delivery → ProbeError → Prop where
  | token {request : TokenRequest} {delivery : Delivery} {error : TokenError}
      (refusal : delivery.grant = .error error) :
      FailsWith (.token request, delivery) (.auth error)
  | api {request : ApiRequest} {delivery : Delivery} {error : ProbeError}
      (fails : Attempt.Fails ⟨request.call, delivery.answer⟩ error) :
      FailsWith (.api request, delivery) error

def NoneFailed (exchanged : List (Request × Delivery)) : Prop :=
  ∀ exchange ∈ exchanged, ∀ error, ¬ FailsWith exchange error

/-- The last request has failed and no other, and its failure is the cause of an
error. -/
def LastFailed (error : ProbeError) (exchanged : List (Request × Delivery)) : Prop :=
  ∃ earlier exchange, exchanged = earlier ++ [exchange] ∧ NoneFailed earlier ∧
    FailsWith exchange error.cause

def Succeed (attempts : List Attempt) : Prop :=
  ∀ attempt ∈ attempts, ∀ error, ¬ attempt.Fails error

/-- The last attempt has failed and no other, with the cause of an error. -/
inductive FailAtEnd (error : ProbeError) : List Attempt → Prop where
  | last {attempt inner} (fails : Attempt.Fails attempt inner)
      (sameCause : error.cause = inner.cause) : FailAtEnd error [attempt]
  | later {attempt attempts} (succeeds : ∀ inner, ¬ attempt.Fails inner)
      (rest : FailAtEnd error attempts) : FailAtEnd error (attempt :: attempts)

section Attempts

variable {attempt : Attempt} {attempts first second : List Attempt}
  {clusterId : String} {desired : ProbeRequest} {probe : Probe}
  {error : ProbeError}

theorem Attempt.Finds.not_fails (finds : attempt.Finds clusterId probe) :
    ¬ attempt.Fails error := by
  intro fails
  obtain ⟨outcome, rfl, found⟩ := finds.outcome
  rw [lookupResult_eq_error.mpr fails] at found
  cases found

theorem Attempt.FindsNone.not_fails (findsNone : attempt.FindsNone clusterId) :
    ¬ attempt.Fails error := by
  intro fails
  obtain ⟨outcome, rfl, found⟩ := findsNone.outcome
  rw [lookupResult_eq_error.mpr fails] at found
  cases found

theorem Attempt.Terminates.not_fails (terminates : attempt.Terminates clusterId) :
    ¬ attempt.Fails error := by
  intro fails
  obtain ⟨outcome, rfl, finished⟩ := terminates.outcome
  rw [termination_eq_error.mpr fails] at finished
  cases finished

theorem Attempt.Creates.not_fails (creates : attempt.Creates desired) :
    ¬ attempt.Fails error := by
  intro fails
  obtain ⟨outcome, probe, rfl, created⟩ := creates.outcome
  rw [creation_eq_error.mpr fails] at created
  cases created

theorem succeed_singleton : Succeed [attempt] ↔ ∀ error, ¬ attempt.Fails error :=
  List.forall_mem_singleton

theorem succeed_cons :
    Succeed (attempt :: attempts) ↔
      (∀ error, ¬ attempt.Fails error) ∧ Succeed attempts :=
  List.forall_mem_cons

theorem succeed_append :
    Succeed (first ++ second) ↔ Succeed first ∧ Succeed second :=
  List.forall_mem_append

theorem FailAtEnd.append (succeed : Succeed first) (fail : FailAtEnd error second) :
    FailAtEnd error (first ++ second) := by
  induction first with
  | nil => exact fail
  | cons attempt first ih =>
      obtain ⟨succeeds, rest⟩ := succeed_cons.mp succeed
      exact .later succeeds (ih rest)

end Attempts

section Paths

variable {clusterId : String} {desired : ProbeRequest} {attempts : List Attempt}
  {error : ProbeError}

theorem Deletes.succeed (deletes : Deletes clusterId attempts (.ok ())) :
    Succeed attempts := by
  cases deletes with
  | absent findsNone => exact succeed_singleton.mpr fun _ => findsNone.not_fails
  | terminated finds terminates =>
      refine succeed_cons.mpr ⟨fun _ => finds.not_fails, ?_⟩
      exact succeed_singleton.mpr fun _ => terminates.not_fails

theorem Deletes.failAtEnd (deletes : Deletes clusterId attempts (.error error)) :
    FailAtEnd error attempts := by
  cases deletes with
  | unknown fails => exact .last fails rfl
  | refused finds fails => exact .later (fun _ => finds.not_fails) (.last fails rfl)

theorem Stops.failAtEnd {stage : Stage} (stops : Stops desired attempts stage error) :
    FailAtEnd error attempts := by
  cases stops with
  | unknown fails => exact .last fails rfl
  | uncreated findsNone fails =>
      exact .later (fun _ => findsNone.not_fails) (.last fails rfl)
  | undeleted finds deviates deletes =>
      exact .later (fun _ => finds.not_fails) deletes.failAtEnd
  | unreplaced finds deviates deletes fails =>
      exact .later (fun _ => finds.not_fails) (.append deletes.succeed (.last fails rfl))

theorem Converges.succeed {outcome : EnsureOutcome}
    (converges : Converges desired attempts (.ok outcome)) : Succeed attempts := by
  cases converges with
  | unchanged finds agrees => exact succeed_singleton.mpr fun _ => finds.not_fails
  | created findsNone creates =>
      refine succeed_cons.mpr ⟨fun _ => findsNone.not_fails, ?_⟩
      exact succeed_singleton.mpr fun _ => creates.not_fails
  | replaced finds deviates deletes creates =>
      refine succeed_cons.mpr ⟨fun _ => finds.not_fails, ?_⟩
      refine succeed_append.mpr ⟨deletes.succeed, ?_⟩
      exact succeed_singleton.mpr fun _ => creates.not_fails

end Paths

section Exchanges

variable {client : ProbeClient} {attempt : Attempt} {attempts : List Attempt}
  {exchange : Request × Delivery} {exchanged taken : List (Request × Delivery)}
  {error : ProbeError}

/-- No request fails because of another one, so its failure is the innermost. -/
theorem FailsWith.cause_eq (fails : FailsWith exchange error) : error.cause = error := by
  cases fails with
  | token refusal => rfl
  | @api request delivery _ fails =>
      have endsWith : Attempt.EndsWith ⟨request.call, delivery.answer⟩
          ([] ++ [(.api request, delivery)]) := .api rfl rfl
      have notWrapped := (fails.arises endsWith).ne_lookup
      cases error with
      | lookup inner => exact absurd rfl (notWrapped inner)
      | _ => rfl

theorem not_failsWith_of_granted {request : TokenRequest} {delivery : Delivery}
    {response : TokenResponse} (granted : delivery.grant = .ok response) :
    ¬ FailsWith (.token request, delivery) error := by
  intro fails
  cases fails with
  | token refusal =>
      rw [granted] at refusal
      cases refusal

theorem failsWith_api {request : ApiRequest} {delivery : Delivery} :
    FailsWith (.api request, delivery) error ↔
      Attempt.Fails ⟨request.call, delivery.answer⟩ error := by
  constructor
  · intro fails
    cases fails with
    | api fails => exact fails
  · exact .api

/-- An attempt fails with the last of its requests. -/
theorem ProbeClient.Takes.failsWith_last (takes : client.Takes attempt taken) :
    ∃ earlier exchange, taken = earlier ++ [exchange] ∧ NoneFailed earlier ∧
      ∀ error, FailsWith exchange error ↔ attempt.Fails error := by
  have noneBefore : NoneFailed [] := List.forall_mem_nil _
  cases takes with
  | plain unauthenticated =>
      exact ⟨[], _, rfl, noneBefore, fun _ => failsWith_api⟩
  | reused authenticated =>
      exact ⟨[], _, rfl, noneBefore, fun _ => failsWith_api⟩
  | refreshed authenticated granted =>
      refine ⟨[_], _, rfl, ?_, fun _ => failsWith_api⟩
      exact List.forall_mem_singleton.mpr fun _ => not_failsWith_of_granted granted
  | unprovided authenticated refusal =>
      refine ⟨[], _, rfl, noneBefore, fun inner => ⟨?_, ?_⟩⟩
      · rintro ⟨refusalToo⟩
        rw [refusal] at refusalToo
        cases refusalToo
        exact .unanswered
      · rintro ⟨⟩
        exact .token refusal

theorem ProbeClient.Takes.noneFailed (takes : client.Takes attempt taken)
    (succeeds : ∀ error, ¬ attempt.Fails error) : NoneFailed taken := by
  obtain ⟨earlier, exchange, rfl, noneFailed, failsWith_iff⟩ := takes.failsWith_last
  refine List.forall_mem_append.mpr ⟨noneFailed, ?_⟩
  refine List.forall_mem_singleton.mpr fun error fails => ?_
  exact succeeds error ((failsWith_iff error).mp fails)

theorem ProbeClient.TakesAll.noneFailed (takesAll : client.TakesAll attempts exchanged)
    (succeed : Succeed attempts) : NoneFailed exchanged := by
  induction takesAll with
  | none => exact List.forall_mem_nil _
  | next takes rest ih =>
      obtain ⟨succeeds, later⟩ := succeed_cons.mp succeed
      exact List.forall_mem_append.mpr ⟨takes.noneFailed succeeds, ih later⟩

theorem LastFailed.append {earlier : List (Request × Delivery)}
    (noneFailed : NoneFailed earlier) (lastFailed : LastFailed error exchanged) :
    LastFailed error (earlier ++ exchanged) := by
  obtain ⟨before, exchange, rfl, noneFailedToo, fails⟩ := lastFailed
  refine ⟨earlier ++ before, exchange, (List.append_assoc ..).symm, ?_, fails⟩
  exact List.forall_mem_append.mpr ⟨noneFailed, noneFailedToo⟩

theorem ProbeClient.TakesAll.lastFailed (takesAll : client.TakesAll attempts exchanged)
    (fail : FailAtEnd error attempts) : LastFailed error exchanged := by
  induction takesAll with
  | none => cases fail
  | next takes rest ih =>
      cases fail with
      | last fails sameCause =>
          cases rest with
          | none =>
              obtain ⟨earlier, exchange, rfl, noneFailed, failsWith_iff⟩ :=
                takes.failsWith_last
              have failsWith := (failsWith_iff _).mpr fails
              rw [List.append_nil]
              refine ⟨earlier, exchange, rfl, noneFailed, ?_⟩
              rw [sameCause, failsWith.cause_eq]
              exact failsWith
      | later succeeds fail => exact (ih fail).append (takes.noneFailed succeeds)

theorem LastFailed.ne_nil (lastFailed : LastFailed error exchanged) : exchanged ≠ [] := by
  obtain ⟨earlier, exchange, rfl, -⟩ := lastFailed
  simp

theorem LastFailed.exists_failsWith (lastFailed : LastFailed error exchanged) :
    ∃ exchange ∈ exchanged, ∃ error, FailsWith exchange error := by
  obtain ⟨earlier, exchange, rfl, -, fails⟩ := lastFailed
  exact ⟨exchange, by simp, _, fails⟩

end Exchanges

section Messages

variable (error : ProbeError)

theorem ProbeError.message_lookup :
    (ProbeError.lookup error).message =
      "failed to check existing probe: " ++ error.message :=
  rfl

theorem ProbeError.message_cause_suffix :
    error.cause.message.toList <:+ error.message.toList := by
  induction error with
  | lookup inner ih =>
      rw [message_lookup, cause, String.toList_append]
      exact ih.trans (List.suffix_append _ _)
  | _ => exact List.suffix_refl _

theorem SyncError.message_remote (stage : Stage) (clusterId : String) :
    (SyncError.remote stage clusterId error).message =
      "failed to " ++ stage.attempt ++ " for cluster " ++ clusterId ++ ": " ++
        error.message :=
  rfl

theorem SyncError.message_source_suffix (stage : Stage) (clusterId : String) :
    error.message.toList <:+
      (SyncError.remote stage clusterId error).message.toList := by
  rw [message_remote, String.toList_append]
  exact List.suffix_append _ _

end Messages

end ProbeLifecycle
