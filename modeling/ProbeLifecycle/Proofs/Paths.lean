import ProbeLifecycle.Proofs.Attempts

/-!
# The paths of a pass

A pass over a cluster makes at most four attempts.  What it may do is written
down path by path, from what the first lookup finds to the attempt at which the
pass ends.  The procedure of a pass ends on these paths and no others, so the
attempts determine the result.
-/

namespace ProbeLifecycle

open ProbeClient Text

section Reasons

variable {probe : Probe} {desired : ProbeRequest}

/-- A probe is as it should be. -/
def Probe.Agrees (probe : Probe) (desired : ProbeRequest) : Prop :=
  probe.isFailed = false ∧ probe.isPrivate = desired.isPrivate

/-- A probe is not as it should be: first of all because it has failed. -/
inductive Probe.Deviates (probe : Probe) (desired : ProbeRequest) :
    ReplaceReason → Prop where
  | failed (isFailed : probe.isFailed = true) : Deviates probe desired .failed
  | drift (isNotFailed : probe.isFailed = false)
      (differs : probe.isPrivate ≠ desired.isPrivate) :
      Deviates probe desired .drift

theorem Probe.replaceReason?_eq_none :
    probe.replaceReason? desired = none ↔ probe.Agrees desired := by
  unfold Probe.replaceReason? Probe.Agrees
  cases isFailed : probe.isFailed with
  | true => simp
  | false => simp

theorem Probe.replaceReason?_eq_some {reason : ReplaceReason} :
    probe.replaceReason? desired = some reason ↔
      probe.Deviates desired reason := by
  unfold Probe.replaceReason?
  constructor
  · intro equal
    split at equal
    · rename_i isFailed
      cases equal
      exact .failed isFailed
    · rename_i isNotFailed
      split at equal
      · cases equal
      · rename_i differs
        cases equal
        exact .drift (Bool.eq_false_iff.mpr isNotFailed) differs
  · rintro (⟨isFailed⟩ | ⟨isNotFailed, differs⟩)
    · simp [isFailed]
    · simp [isNotFailed, differs]

end Reasons

inductive Deletes (clusterId : String) :
    List Attempt → Except ProbeError Unit → Prop where
  | unknown {outcome error}
      (fails : Attempt.Fails ⟨.lookup clusterId, outcome⟩ error) :
      Deletes clusterId [⟨.lookup clusterId, outcome⟩] (.error (.lookup error))
  | absent {lookup} (findsNone : Attempt.FindsNone clusterId lookup) :
      Deletes clusterId [lookup] (.ok ())
  | refused {lookup outcome probe error}
      (finds : Attempt.Finds clusterId probe lookup)
      (fails : Attempt.Fails ⟨.terminate clusterId, outcome⟩ error) :
      Deletes clusterId [lookup, ⟨.terminate clusterId, outcome⟩] (.error error)
  | terminated {lookup termination probe}
      (finds : Attempt.Finds clusterId probe lookup)
      (terminates : Attempt.Terminates clusterId termination) :
      Deletes clusterId [lookup, termination] (.ok ())

/-- The paths of a pass that stop at a failed attempt, with the stage and the
failure.  A deletion is in a stage by its reason. -/
inductive Stops (desired : ProbeRequest) :
    List Attempt → Stage → ProbeError → Prop where
  | unknown {outcome error}
      (fails : Attempt.Fails ⟨.lookup desired.clusterId, outcome⟩ error) :
      Stops desired [⟨.lookup desired.clusterId, outcome⟩] .lookup error
  | uncreated {lookup outcome error}
      (findsNone : Attempt.FindsNone desired.clusterId lookup)
      (fails : Attempt.Fails ⟨.create desired, outcome⟩ error) :
      Stops desired [lookup, ⟨.create desired, outcome⟩] .create error
  | undeleted {lookup probe reason deletion error}
      (finds : Attempt.Finds desired.clusterId probe lookup)
      (deviates : probe.Deviates desired reason)
      (deletes : Deletes desired.clusterId deletion (.error error)) :
      Stops desired (lookup :: deletion) reason.stage error
  | unreplaced {lookup probe reason deletion outcome error}
      (finds : Attempt.Finds desired.clusterId probe lookup)
      (deviates : probe.Deviates desired reason)
      (deletes : Deletes desired.clusterId deletion (.ok ()))
      (fails : Attempt.Fails ⟨.create desired, outcome⟩ error) :
      Stops desired (lookup :: deletion ++ [⟨.create desired, outcome⟩]) .create
        error

/-- The paths of a pass over a cluster whose probe should be as desired. -/
inductive Converges (desired : ProbeRequest) :
    List Attempt → Except SyncError EnsureOutcome → Prop where
  | unchanged {lookup probe}
      (finds : Attempt.Finds desired.clusterId probe lookup)
      (agrees : probe.Agrees desired) :
      Converges desired [lookup] (.ok .unchanged)
  | created {lookup creation}
      (findsNone : Attempt.FindsNone desired.clusterId lookup)
      (creates : Attempt.Creates desired creation) :
      Converges desired [lookup, creation] (.ok .created)
  | replaced {lookup probe reason deletion creation}
      (finds : Attempt.Finds desired.clusterId probe lookup)
      (deviates : probe.Deviates desired reason)
      (deletes : Deletes desired.clusterId deletion (.ok ()))
      (creates : Attempt.Creates desired creation) :
      Converges desired (lookup :: deletion ++ [creation])
        (.ok (.replaced reason))
  | stopped {attempts stage error} (stops : Stops desired attempts stage error) :
      Converges desired attempts
        (.error (.remote stage desired.clusterId error))

namespace Procedure

section Operations

variable {clusterId : String} {attempts : List Attempt}

theorem ends_settle {α : Type} {operation : Operation}
    {outcome result : Except ProbeError α} :
    (settle operation outcome).Ends attempts result ↔
      attempts = [] ∧ result = outcome := by
  simp [settle]

theorem ends_settleFound {found : Except ProbeError (List Probe)}
    {result : Except ProbeError (Option Probe)} :
    (settleFound found).Ends attempts result ↔
      attempts = [] ∧ result = found.map List.head? := by
  unfold settleFound
  split
  · simp [ends_settle, Except.map]
  · exact ends_settle

theorem ends_call {α : Type} {call : Call}
    {next : Except ProbeError Reply → Procedure α}
    {learned : Except ProbeError Reply → α} {result : α}
    (ends_next : ∀ outcome {rest result}, (next outcome).Ends rest result ↔
      rest = [] ∧ result = learned outcome) :
    (attempt call next).Ends attempts result ↔
      ∃ outcome, attempts = [⟨call, outcome⟩] ∧ learned outcome = result := by
  simp only [ends_attempt, ends_next]
  constructor
  · rintro ⟨outcome, _, rfl, rfl, rfl⟩
    exact ⟨outcome, rfl, rfl⟩
  · rintro ⟨outcome, rfl, rfl⟩
    exact ⟨outcome, [], rfl, rfl, rfl⟩

theorem ends_lookup {result : Except ProbeError (Option Probe)} :
    (lookup clusterId).Ends attempts result ↔
      ∃ outcome, attempts = [⟨.lookup clusterId, outcome⟩] ∧
        lookupResult clusterId outcome = result :=
  ends_call fun _ => ends_settleFound

theorem ends_create {request : ProbeRequest}
    {result : Except ProbeError Probe} :
    (create request).Ends attempts result ↔
      ∃ outcome, attempts = [⟨.create request, outcome⟩] ∧
        outcome.bind createdProbe = result :=
  ends_call fun _ => ends_settle

theorem ends_terminate {result : Except ProbeError Unit} :
    (terminate clusterId).Ends attempts result ↔
      ∃ outcome, attempts = [⟨.terminate clusterId, outcome⟩] ∧
        outcome.bind terminated = result :=
  ends_call fun _ => ends_settle

theorem deletes_of_ends {result : Except ProbeError Unit}
    (ends : (delete clusterId).Ends attempts result) :
    Deletes clusterId attempts result := by
  obtain ⟨_, second, found, rfl, looks, later⟩ := ends_bind.mp ends
  obtain ⟨outcome, rfl, looked⟩ := ends_lookup.mp looks
  cases found with
  | error error =>
      obtain ⟨rfl, rfl⟩ := ends_settle.mp later
      exact .unknown (lookupResult_eq_error.mp looked)
  | ok probe? =>
      cases probe? with
      | none =>
          obtain ⟨rfl, rfl⟩ := ends_settle.mp later
          exact .absent (lookupResult_eq_none.mp looked)
      | some probe =>
          have finds := lookupResult_eq_some.mp looked
          obtain ⟨outcome, rfl, finished⟩ := ends_terminate.mp later
          cases result with
          | error error =>
              exact .refused finds (termination_eq_error.mp finished)
          | ok value => exact .terminated finds (termination_eq_ok.mp finished)

theorem ends_of_found {outcome : Except ProbeError Reply}
    {found : Except ProbeError (Option Probe)} {later : List Attempt}
    {result : Except ProbeError Unit}
    (looked : lookupResult clusterId outcome = found)
    (ends : (terminateFound clusterId found).Ends later result) :
    (delete clusterId).Ends (⟨.lookup clusterId, outcome⟩ :: later) result :=
  ends_bind.mpr
    ⟨[_], later, found, rfl, ends_lookup.mpr ⟨outcome, rfl, looked⟩, ends⟩

theorem ends_of_deletes {result : Except ProbeError Unit}
    (deletes : Deletes clusterId attempts result) :
    (delete clusterId).Ends attempts result := by
  cases deletes with
  | unknown fails =>
      exact ends_of_found (lookupResult_eq_error.mpr fails)
        (ends_settle.mpr ⟨rfl, rfl⟩)
  | absent findsNone =>
      obtain ⟨outcome, rfl, found⟩ := findsNone.outcome
      exact ends_of_found found (ends_settle.mpr ⟨rfl, rfl⟩)
  | @refused _ made _ _ finds fails =>
      obtain ⟨outcome, rfl, found⟩ := finds.outcome
      exact ends_of_found found
        (ends_terminate.mpr ⟨made, rfl, termination_eq_error.mpr fails⟩)
  | terminated finds terminates =>
      obtain ⟨outcome, rfl, found⟩ := finds.outcome
      obtain ⟨made, rfl, finished⟩ := terminates.outcome
      exact ends_of_found found (ends_terminate.mpr ⟨made, rfl, finished⟩)

theorem ends_delete {result : Except ProbeError Unit} :
    (delete clusterId).Ends attempts result ↔
      Deletes clusterId attempts result :=
  ⟨deletes_of_ends, ends_of_deletes⟩

theorem ends_inStage {α β : Type} {procedure : Procedure (Except ProbeError α)}
    {stage : Stage} {next : α → Procedure (Except SyncError β)}
    {result : Except SyncError β} :
    (procedure.inStage stage clusterId next).Ends attempts result ↔
      (∃ error, procedure.Ends attempts (.error error) ∧
        result = .error (.remote stage clusterId error)) ∨
      ∃ first second value, attempts = first ++ second ∧
        procedure.Ends first (.ok value) ∧
        (next value).Ends second result := by
  simp only [inStage, ends_bind]
  constructor
  · rintro ⟨first, second, value, rfl, ends, ends_next⟩
    cases value with
    | error error =>
        obtain ⟨rfl, rfl⟩ := ends_finish.mp ends_next
        rw [List.append_nil]
        exact .inl ⟨error, ends, rfl⟩
    | ok value => exact .inr ⟨first, second, value, rfl, ends, ends_next⟩
  · rintro (⟨error, ends, rfl⟩ | ⟨first, second, value, rfl, ends, ends_next⟩)
    · exact ⟨attempts, [], .error error, (List.append_nil _).symm, ends, .finish⟩
    · exact ⟨first, second, .ok value, rfl, ends, ends_next⟩

theorem ends_createFor {desired : ProbeRequest} {outcome : EnsureOutcome}
    {result : Except SyncError EnsureOutcome} :
    (createFor desired outcome).Ends attempts result ↔
      (∃ made error, attempts = [⟨.create desired, made⟩] ∧
        Attempt.Fails ⟨.create desired, made⟩ error ∧
        result = .error (.remote .create desired.clusterId error)) ∨
      ∃ creation, attempts = [creation] ∧
        Attempt.Creates desired creation ∧ result = .ok outcome := by
  simp only [createFor, ends_inStage, ends_create, ends_finish]
  constructor
  · rintro (⟨error, ⟨made, rfl, failed⟩, rfl⟩ |
      ⟨_, _, probe, rfl, ⟨made, rfl, created⟩, rfl, rfl⟩)
    · exact .inl ⟨made, error, rfl, creation_eq_error.mp failed, rfl⟩
    · exact .inr ⟨_, rfl, creation_eq_ok.mp ⟨probe, created⟩, rfl⟩
  · rintro (⟨made, error, rfl, fails, rfl⟩ | ⟨creation, rfl, creates, rfl⟩)
    · exact .inl ⟨error, ⟨made, rfl, creation_eq_error.mpr fails⟩, rfl⟩
    · obtain ⟨made, probe, rfl, created⟩ := creates.outcome
      exact .inr ⟨_, [], probe, rfl, ⟨made, rfl, created⟩, rfl, rfl⟩

/-- A replacement ends by a failed deletion, or by the attempt to create. -/
theorem ends_replace {desired : ProbeRequest} {reason : ReplaceReason}
    {result : Except SyncError EnsureOutcome} :
    (replace desired reason).Ends attempts result ↔
      (∃ error, Deletes desired.clusterId attempts (.error error) ∧
        result = .error (.remote reason.stage desired.clusterId error)) ∨
      (∃ deletion made error, attempts = deletion ++ [⟨.create desired, made⟩] ∧
        Deletes desired.clusterId deletion (.ok ()) ∧
        Attempt.Fails ⟨.create desired, made⟩ error ∧
        result = .error (.remote .create desired.clusterId error)) ∨
      ∃ deletion creation, attempts = deletion ++ [creation] ∧
        Deletes desired.clusterId deletion (.ok ()) ∧
        Attempt.Creates desired creation ∧
        result = .ok (.replaced reason) := by
  simp only [replace, ends_inStage, ends_delete, ends_createFor]
  constructor
  · rintro (undeleted | ⟨deletion, _, value, rfl, deletes,
      ⟨made, error, rfl, fails, rfl⟩ | ⟨creation, rfl, creates, rfl⟩⟩)
    · exact .inl undeleted
    · exact .inr (.inl ⟨deletion, made, error, rfl, deletes, fails, rfl⟩)
    · exact .inr (.inr ⟨deletion, creation, rfl, deletes, creates, rfl⟩)
  · rintro (undeleted | ⟨deletion, made, error, rfl, deletes, fails, rfl⟩ |
      ⟨deletion, creation, rfl, deletes, creates, rfl⟩)
    · exact .inl undeleted
    · exact .inr ⟨deletion, _, (), rfl, deletes,
        .inl ⟨made, error, rfl, fails, rfl⟩⟩
    · exact .inr ⟨deletion, _, (), rfl, deletes,
        .inr ⟨creation, rfl, creates, rfl⟩⟩

end Operations

section Pass

variable {desired : ProbeRequest} {attempts : List Attempt}
  {result : Except SyncError EnsureOutcome}

/-- A pass that ends has taken one of its paths. -/
theorem converges_of_ends (ends : (converge desired).Ends attempts result) :
    Converges desired attempts result := by
  unfold converge at ends
  rcases ends_inStage.mp ends with
    ⟨error, looks, rfl⟩ | ⟨first, second, probe?, rfl, looks, later⟩
  · obtain ⟨outcome, rfl, failed⟩ := ends_lookup.mp looks
    exact .stopped (.unknown (lookupResult_eq_error.mp failed))
  · obtain ⟨outcome, rfl, found⟩ := ends_lookup.mp looks
    cases probe? with
    | none =>
        have findsNone := lookupResult_eq_none.mp found
        rcases ends_createFor.mp later with
          ⟨made, error, rfl, fails, rfl⟩ | ⟨creation, rfl, creates, rfl⟩
        · exact .stopped (.uncreated findsNone fails)
        · exact .created findsNone creates
    | some probe =>
        have finds := lookupResult_eq_some.mp found
        simp only [adjust] at later
        cases decided : probe.replaceReason? desired with
        | none =>
            rw [decided] at later
            obtain ⟨rfl, rfl⟩ := ends_finish.mp later
            exact .unchanged finds (Probe.replaceReason?_eq_none.mp decided)
        | some reason =>
            have deviates := Probe.replaceReason?_eq_some.mp decided
            rw [decided] at later
            rcases ends_replace.mp later with
              ⟨error, deletes, rfl⟩ |
              ⟨deletion, made, error, rfl, deletes, fails, rfl⟩ |
              ⟨deletion, creation, rfl, deletes, creates, rfl⟩
            · exact .stopped (.undeleted finds deviates deletes)
            · exact .stopped (.unreplaced finds deviates deletes fails)
            · exact .replaced finds deviates deletes creates

theorem ends_of_findsNone {lookup : Attempt} {later : List Attempt}
    (findsNone : Attempt.FindsNone desired.clusterId lookup)
    (ends : (createFor desired .created).Ends later result) :
    (converge desired).Ends (lookup :: later) result := by
  obtain ⟨outcome, rfl, found⟩ := findsNone.outcome
  exact ends_inStage.mpr
    (.inr ⟨[_], later, none, rfl, ends_lookup.mpr ⟨outcome, rfl, found⟩, ends⟩)

theorem ends_of_finds {lookup : Attempt} {probe : Probe} {later : List Attempt}
    (finds : Attempt.Finds desired.clusterId probe lookup)
    (ends : (adjust desired probe).Ends later result) :
    (converge desired).Ends (lookup :: later) result := by
  obtain ⟨outcome, rfl, found⟩ := finds.outcome
  exact ends_inStage.mpr
    (.inr ⟨[_], later, some probe, rfl,
      ends_lookup.mpr ⟨outcome, rfl, found⟩, ends⟩)

theorem ends_of_deviates {lookup : Attempt} {probe : Probe}
    {later : List Attempt} {reason : ReplaceReason}
    (finds : Attempt.Finds desired.clusterId probe lookup)
    (deviates : probe.Deviates desired reason)
    (ends : (replace desired reason).Ends later result) :
    (converge desired).Ends (lookup :: later) result := by
  refine ends_of_finds finds ?_
  unfold adjust
  rw [Probe.replaceReason?_eq_some.mpr deviates]
  exact ends

theorem ends_of_stops {stage : Stage} {error : ProbeError}
    (stops : Stops desired attempts stage error) :
    (converge desired).Ends attempts
      (.error (.remote stage desired.clusterId error)) := by
  cases stops with
  | @unknown outcome error fails =>
      have failed := lookupResult_eq_error.mpr fails
      exact ends_inStage.mpr
        (.inl ⟨error, ends_lookup.mpr ⟨outcome, rfl, failed⟩, rfl⟩)
  | uncreated findsNone fails =>
      exact ends_of_findsNone findsNone
        (ends_createFor.mpr (.inl ⟨_, _, rfl, fails, rfl⟩))
  | undeleted finds deviates deletes =>
      exact ends_of_deviates finds deviates
        (ends_replace.mpr (.inl ⟨_, deletes, rfl⟩))
  | unreplaced finds deviates deletes fails =>
      exact ends_of_deviates finds deviates
        (ends_replace.mpr (.inr (.inl ⟨_, _, _, rfl, deletes, fails, rfl⟩)))

/-- On each of its paths a pass ends. -/
theorem ends_of_converges (converges : Converges desired attempts result) :
    (converge desired).Ends attempts result := by
  cases converges with
  | unchanged finds agrees =>
      refine ends_of_finds finds ?_
      unfold adjust
      rw [Probe.replaceReason?_eq_none.mpr agrees]
      exact .finish
  | created findsNone creates =>
      exact ends_of_findsNone findsNone
        (ends_createFor.mpr (.inr ⟨_, rfl, creates, rfl⟩))
  | replaced finds deviates deletes creates =>
      exact ends_of_deviates finds deviates
        (ends_replace.mpr (.inr (.inr ⟨_, _, rfl, deletes, creates, rfl⟩)))
  | stopped stops => exact ends_of_stops stops

/-- The paths of a pass are those on which it ends. -/
theorem ends_converge :
    (converge desired).Ends attempts result ↔
      Converges desired attempts result :=
  ⟨converges_of_ends, ends_of_converges⟩

end Pass

end Procedure

section Passes

variable {context : ClusterContext} {desired : ProbeRequest}
  {attempts : List Attempt} {result : Except SyncError EnsureOutcome}

theorem Converges.result_eq_iff (converges : Converges desired attempts result)
    (other : Except SyncError EnsureOutcome) :
    result = other ↔ Converges desired attempts other := by
  constructor
  · rintro rfl
    exact converges
  · intro convergesToo
    exact (Procedure.ends_converge.mpr converges).unique
      (Procedure.ends_converge.mpr convergesToo)

theorem Stops.ne_nil {stage : Stage} {error : ProbeError}
    (stops : Stops desired attempts stage error) : attempts ≠ [] := by
  cases stops <;> simp

theorem Converges.ne_nil (converges : Converges desired attempts result) :
    attempts ≠ [] := by
  cases converges with
  | stopped stops => exact stops.ne_nil
  | unchanged => simp
  | created => simp
  | replaced => simp

theorem ClusterContext.desiredRequest_eq_ok :
    context.desiredRequest = .ok desired ↔
      isBlank context.clusterId = false ∧
        isBlank context.apiServerHostname = false ∧
        desired = ⟨context.clusterId, context.probeUrl,
          context.effectiveManagementClusterId, context.isPrivate⟩ := by
  unfold ClusterContext.desiredRequest
  cases blank : isBlank context.clusterId with
  | true => simp
  | false =>
      cases missing : isBlank context.apiServerHostname with
      | true => simp
      | false => simp [eq_comm]

/-- A pass over a usable cluster that is not skipped goes to work. -/
theorem Procedure.ensure_eq_converge {onlyPublicClusters : Bool}
    (usable : context.desiredRequest = .ok desired)
    (wanted : context.isPrivate = true → onlyPublicClusters = false) :
    ensure onlyPublicClusters context = converge desired := by
  obtain ⟨notBlank, -, -⟩ := ClusterContext.desiredRequest_eq_ok.mp usable
  have notSkipped : (context.isPrivate && onlyPublicClusters) = false := by
    simpa using wanted
  simp [ensure, notBlank, notSkipped, usable]

/-- With an identifier, only the host name can be missing. -/
theorem ClusterContext.desiredRequest_eq_error {error : SyncError}
    (notBlank : isBlank context.clusterId = false)
    (unusable : context.desiredRequest = .error error) :
    isBlank context.apiServerHostname = true ∧
      error = .missingHostname context.clusterId := by
  unfold ClusterContext.desiredRequest at unusable
  rw [notBlank] at unusable
  cases missing : isBlank context.apiServerHostname with
  | true => simpa [missing, eq_comm] using unusable
  | false => simp [missing] at unusable

end Passes

end ProbeLifecycle
