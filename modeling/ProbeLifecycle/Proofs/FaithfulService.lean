import ProbeLifecycle.Proofs.BodyText
import ProbeLifecycle.Proofs.Paths
import ProbeLifecycle.Proofs.ProbeText
import ProbeLifecycle.Proofs.SingleProbe

/-!
# A service without faults

A faithful service lists exactly the probes of a cluster, removes them when they
are terminated, and adds a pending probe, labelled as requested, which it shows.
Where every request is answered so, a pass ends with a probe that is as desired
and a deletion ends with none; repeating either then changes nothing.
-/

namespace ProbeLifecycle

open Json ProbeClient Text

def privateLabelValue (isPrivate : Bool) : String :=
  if isPrivate then "true" else "false"

/-- What shows a value to the client: a complete and successful reply made of the
text of the value, or any other that is read as the value. -/
inductive Shows {α : Type} (read : Reply → Except ProbeError α)
    (text : List Char) (value : α) : Delivery → Prop where
  | written {status} (success : isSuccess status = true) :
      Shows read text value (.reply status (.complete (utf8Bytes text)))
  | read {delivery} (reads : delivery.answer.bind read = .ok value) :
      Shows read text value delivery

/-- How a faithful service answers a call, and what becomes of its probes. -/
inductive Answers : Call → Delivery → List Probe → List Probe → Prop where
  | listed {clusterId delivery store}
      (shows : Shows (foundProbes clusterId)
        (listingText (matching clusterId store)) (matching clusterId store)
        delivery) :
      Answers (.lookup clusterId) delivery store store
  | removed {clusterId delivery store}
      (accepts : delivery.answer.bind terminated = .ok ()) :
      Answers (.terminate clusterId) delivery store (foreign clusterId store)
  | added {request delivery store} {probe : Probe}
      (shows : Shows createdProbe probe.json.write probe delivery)
      (pending : probe.status = .pending)
      (cluster : probe.cluster? = some request.clusterId)
      (labelled : probe.labels.get? Probe.privateLabel =
        some (privateLabelValue request.isPrivate)) :
      Answers (.create request) delivery store (store ++ [probe])

/-- Exchanges in which the issuer grants every token and the service answers
every request faithfully. -/
inductive Served : List (Request × Delivery) → List Probe → List Probe →
    Prop where
  | nil {store} : Served [] store store
  | token {request delivery response exchanged store later}
      (granted : delivery.grant = .ok response)
      (rest : Served exchanged store later) :
      Served ((.token request, delivery) :: exchanged) store later
  | api {request delivery exchanged store middle later}
      (answers : Answers request.call delivery store middle)
      (rest : Served exchanged middle later) :
      Served ((.api request, delivery) :: exchanged) store later

/-- The exchanges of a run are answered without a fault, which brings the store
from one state to another, and no token that is granted outlasts the clock. -/
structure Run.IsFaultFree {ω α : Type} (run : Run ω α) (client : ProbeClient)
    (store later : List Probe) : Prop where
  served : Served (exchanges run.events) store later
  noOverflow : ¬ client.Overflows run.events

/-- What a request does to the probes of a faithful service, and what the client
learns of it. -/
inductive FaithfulEffect : Attempt → List Probe → List Probe → Prop where
  | listed {clusterId outcome store}
      (lists : outcome.bind (foundProbes clusterId) =
        .ok (matching clusterId store)) :
      FaithfulEffect ⟨.lookup clusterId, outcome⟩ store store
  | removed {clusterId outcome store}
      (accepts : outcome.bind terminated = .ok ()) :
      FaithfulEffect ⟨.terminate clusterId, outcome⟩ store
        (foreign clusterId store)
  | added {request outcome store} {probe : Probe}
      (shows : outcome.bind createdProbe = .ok probe)
      (pending : probe.status = .pending)
      (cluster : probe.cluster? = some request.clusterId)
      (labelled : probe.labels.get? Probe.privateLabel =
        some (privateLabelValue request.isPrivate)) :
      FaithfulEffect ⟨.create request, outcome⟩ store (store ++ [probe])

inductive Serves : List Attempt → List Probe → List Probe → Prop where
  | nil {store} : Serves [] store store
  | next {attempt attempts store middle later}
      (effect : FaithfulEffect attempt store middle)
      (rest : Serves attempts middle later) :
      Serves (attempt :: attempts) store later

/-- The first probe of a cluster is as desired. -/
def IsSettled (desired : ProbeRequest) (store : List Probe) : Prop :=
  ∃ probe, (matching desired.clusterId store).head? = some probe ∧
    probe.Agrees desired

section Stores

variable {clusterId : String} {store : List Probe} {desired : ProbeRequest}
  {probe : Probe}

theorem matching_foreign : matching clusterId (foreign clusterId store) = [] := by
  rw [List.eq_nil_iff_forall_not_mem]
  intro probe member
  obtain ⟨isForeign, isOfCluster⟩ := List.mem_filter.mp member
  obtain ⟨-, notOfCluster⟩ := List.mem_filter.mp isForeign
  rw [beq_iff_eq.mp isOfCluster] at notOfCluster
  simp at notOfCluster

theorem foreign_of_matching_nil (none : matching clusterId store = []) :
    foreign clusterId store = store := by
  apply List.filter_eq_self.mpr
  intro probe member
  have notMatching := List.filter_eq_nil_iff.mp none probe member
  simpa using notMatching

/-- A new probe of a cluster without probes is as desired. -/
theorem isSettled_append (none : matching desired.clusterId store = [])
    (pending : probe.status = .pending)
    (cluster : probe.cluster? = some desired.clusterId)
    (labelled : probe.labels.get? Probe.privateLabel =
      some (privateLabelValue desired.isPrivate)) :
    IsSettled desired (store ++ [probe]) := by
  have only : matching desired.clusterId (store ++ [probe]) = [probe] := by
    unfold matching at none ⊢
    rw [List.filter_append, none]
    simp [cluster]
  refine ⟨probe, by rw [only]; rfl, ?_, ?_⟩
  · simp [Probe.isFailed, pending]
  · cases isPrivate : desired.isPrivate with
    | true => simp [Probe.isPrivate, labelled, isPrivate, privateLabelValue]
    | false => simp [Probe.isPrivate, labelled, isPrivate, privateLabelValue]

end Stores

section Answers

variable {clusterId : String} {call : Call} {delivery : Delivery}
  {probe : Probe} {store later : List Probe}

theorem answer_written {first : Char} (ascii : first.toNat < 128)
    (status : Nat) (rest : List Char) :
    (Delivery.reply status (.complete (utf8Bytes (first :: rest)))).answer =
      .ok ⟨status, .ofList (first :: rest)⟩ := by
  rw [← bodyText_utf8Bytes ascii rest]
  rfl

/-- A probe that is shown is seen. -/
theorem Shows.createdProbe_eq (representable : probe.IsRepresentable)
    (shows : Shows createdProbe probe.json.write probe delivery) :
    delivery.answer.bind createdProbe = .ok probe := by
  cases shows with
  | read reads => exact reads
  | @written status success =>
      have begins : probe.json.write = '\x7b' :: writeMembers probe.members := by
        rw [Probe.json, Value.write]
      have decoded := Probe.decode_write representable
      rw [begins] at decoded ⊢
      rw [answer_written (by decide)]
      simp only [Except.bind, createdProbe, success, if_true, decodeReply,
        decoded, Except.mapError]

theorem Shows.foundProbes_eq
    (representable : ∀ probe ∈ store, probe.IsRepresentable)
    (shows : Shows (foundProbes clusterId)
      (listingText (matching clusterId store)) (matching clusterId store)
      delivery) :
    delivery.answer.bind (foundProbes clusterId) =
      .ok (matching clusterId store) := by
  cases shows with
  | read reads => exact reads
  | @written status success =>
      have found : status ≠ notFoundStatus := by
        rintro rfl
        cases success
      have listed : ∀ probe ∈ matching clusterId store,
          probe.IsRepresentable := by
        intro probe member
        exact representable probe (List.mem_filter.mp member).1
      have decoded := decode_listing listed
      -- The client selects the probes of the cluster once more.
      have again : matching clusterId (matching clusterId store) =
          matching clusterId store := by
        simp only [matching, List.filter_filter, Bool.and_self]
      unfold listingText at decoded ⊢
      rw [answer_written (by decide)]
      simp only [Except.bind, foundProbes, if_neg found, success, if_true,
        decodeReply, decoded, Except.mapError, Except.map, again]

/-- What a faithful service answers is what the client learns, and its probes
keep to the states that have names. -/
theorem Answers.effect (answers : Answers call delivery store later)
    (representable : ∀ probe ∈ store, probe.IsRepresentable) :
    FaithfulEffect ⟨call, delivery.answer⟩ store later ∧
      ∀ probe ∈ later, probe.IsRepresentable := by
  cases answers with
  | listed shows =>
      exact ⟨.listed (shows.foundProbes_eq representable), representable⟩
  | removed accepts =>
      refine ⟨.removed accepts, ?_⟩
      intro probe member
      exact representable probe (List.mem_filter.mp member).1
  | @added _ _ _ probe shows pending cluster labelled =>
      have named : probe.IsRepresentable := by
        rw [Probe.IsRepresentable, pending]
        rfl
      refine ⟨.added (shows.createdProbe_eq named) pending cluster labelled, ?_⟩
      intro other member
      rcases List.mem_append.mp member with member | member
      · exact representable other member
      · rw [List.mem_singleton.mp member]
        exact named

end Answers

section Attempts

variable {attempt : Attempt} {attempts first second : List Attempt}
  {store middle later : List Probe} {clusterId : String} {probe : Probe}
  {desired : ProbeRequest} {error : ProbeError}

theorem FaithfulEffect.not_fails (effect : FaithfulEffect attempt store later)
    (fails : Attempt.Fails attempt error) : False := by
  cases effect with
  | listed lists =>
      have failed := lookupResult_eq_error.mpr fails
      rw [lookupResult, lists] at failed
      cases failed
  | removed accepts =>
      rw [termination_eq_error.mpr fails] at accepts
      cases accepts
  | added shows pending cluster labelled =>
      rw [creation_eq_error.mpr fails] at shows
      cases shows

theorem FaithfulEffect.of_finds (effect : FaithfulEffect attempt store later)
    (finds : Attempt.Finds clusterId probe attempt) :
    later = store ∧ (matching clusterId store).head? = some probe := by
  obtain ⟨outcome, rfl, found⟩ := finds.outcome
  cases effect with
  | listed lists =>
      rw [lookupResult, lists] at found
      exact ⟨rfl, Except.ok.inj found⟩

theorem FaithfulEffect.of_findsNone
    (effect : FaithfulEffect attempt store later)
    (findsNone : Attempt.FindsNone clusterId attempt) :
    later = store ∧ matching clusterId store = [] := by
  obtain ⟨outcome, rfl, found⟩ := findsNone.outcome
  cases effect with
  | listed lists =>
      rw [lookupResult, lists] at found
      exact ⟨rfl, List.head?_eq_none_iff.mp (Except.ok.inj found)⟩

theorem FaithfulEffect.of_terminates
    (effect : FaithfulEffect attempt store later)
    (terminates : Attempt.Terminates clusterId attempt) :
    later = foreign clusterId store := by
  obtain ⟨outcome, rfl, -⟩ := terminates.outcome
  cases effect with
  | removed accepts => rfl

theorem FaithfulEffect.of_creates (effect : FaithfulEffect attempt store later)
    (creates : Attempt.Creates desired attempt)
    (none : matching desired.clusterId store = []) :
    IsSettled desired later := by
  obtain ⟨outcome, -, rfl, -⟩ := creates.outcome
  cases effect with
  | added shows pending cluster labelled =>
      exact isSettled_append none pending cluster labelled

theorem Serves.split (serves : Serves (first ++ second) store later) :
    ∃ middle, Serves first store middle ∧ Serves second middle later := by
  induction first generalizing store with
  | nil => exact ⟨store, .nil, serves⟩
  | cons attempt first ih =>
      cases serves with
      | next effect rest =>
          obtain ⟨middle, before, after⟩ := ih rest
          exact ⟨middle, .next effect before, after⟩

theorem Serves.single (serves : Serves [attempt] store later) :
    FaithfulEffect attempt store later := by
  cases serves with
  | next effect rest =>
      cases rest
      exact effect

theorem Serves.not_fails (serves : Serves attempts store later)
    (member : attempt ∈ attempts) (fails : Attempt.Fails attempt error) :
    False := by
  induction serves with
  | nil => cases member
  | next effect rest ih =>
      rcases List.mem_cons.mp member with rfl | later
      · exact effect.not_fails fails
      · exact ih later

/-- A deletion that is answered faithfully leaves no probe of the cluster. -/
theorem Deletes.of_serves {result : Except ProbeError Unit}
    (deletes : Deletes clusterId attempts result)
    (serves : Serves attempts store later) :
    result = .ok () ∧ later = foreign clusterId store := by
  cases deletes with
  | unknown fails => exact (serves.not_fails (by simp) fails).elim
  | refused finds fails => exact (serves.not_fails (by simp) fails).elim
  | absent findsNone =>
      obtain ⟨rfl, none⟩ := serves.single.of_findsNone findsNone
      exact ⟨rfl, (foreign_of_matching_nil none).symm⟩
  | terminated finds terminates =>
      cases serves with
      | next looks rest =>
          obtain ⟨rfl, -⟩ := looks.of_finds finds
          exact ⟨rfl, rest.single.of_terminates terminates⟩

/-- A deletion for a cluster without probes only looks the probe up. -/
theorem Deletes.of_serves_none {result : Except ProbeError Unit}
    (deletes : Deletes clusterId attempts result)
    (serves : Serves attempts store later)
    (none : matching clusterId store = []) :
    attempts.map (·.call) = [.lookup clusterId] := by
  cases deletes with
  | unknown fails => exact (serves.not_fails (by simp) fails).elim
  | refused finds fails => exact (serves.not_fails (by simp) fails).elim
  | absent findsNone =>
      obtain ⟨outcome, rfl, -⟩ := findsNone.outcome
      rfl
  | terminated finds terminates =>
      cases serves with
      | next looks rest =>
          obtain ⟨-, found⟩ := looks.of_finds finds
          rw [none] at found
          cases found

theorem Stops.not_serves {stage : Stage}
    (stops : Stops desired attempts stage error)
    (serves : Serves attempts store later) : False := by
  cases stops with
  | unknown fails => exact serves.not_fails (by simp) fails
  | uncreated findsNone fails => exact serves.not_fails (by simp) fails
  | unreplaced finds deviates deletes fails =>
      exact serves.not_fails (by simp) fails
  | undeleted finds deviates deletes =>
      cases serves with
      | next looks rest => cases (deletes.of_serves rest).1

/-- A pass that is answered faithfully settles the cluster. -/
theorem Converges.of_serves {result : Except SyncError EnsureOutcome}
    (converges : Converges desired attempts result)
    (serves : Serves attempts store later) :
    (∃ outcome, result = .ok outcome) ∧ IsSettled desired later := by
  cases converges with
  | stopped stops => exact (stops.not_serves serves).elim
  | unchanged finds agrees =>
      obtain ⟨rfl, found⟩ := serves.single.of_finds finds
      exact ⟨⟨_, rfl⟩, _, found, agrees⟩
  | created findsNone creates =>
      cases serves with
      | next looks rest =>
          obtain ⟨rfl, none⟩ := looks.of_findsNone findsNone
          exact ⟨⟨_, rfl⟩, rest.single.of_creates creates none⟩
  | replaced finds deviates deletes creates =>
      rw [List.cons_append] at serves
      cases serves with
      | next looks rest =>
          obtain ⟨middle, deleted, created⟩ := rest.split
          obtain ⟨-, rfl⟩ := deletes.of_serves deleted
          exact ⟨⟨_, rfl⟩, created.single.of_creates creates matching_foreign⟩

/-- A pass over a settled cluster only looks the probe up. -/
theorem Converges.of_serves_settled {result : Except SyncError EnsureOutcome}
    (converges : Converges desired attempts result)
    (serves : Serves attempts store later) (settled : IsSettled desired store) :
    result = .ok .unchanged ∧
      attempts.map (·.call) = [.lookup desired.clusterId] ∧ later = store := by
  obtain ⟨first, isFirst, agrees⟩ := settled
  have not_deviates : ∀ {reason lookup rest probe},
      Serves (lookup :: rest) store later →
      Attempt.Finds desired.clusterId probe lookup →
      ¬ probe.Deviates desired reason := by
    intro reason lookup rest probe serves finds deviates
    cases serves with
    | next looks rest =>
        obtain ⟨-, found⟩ := looks.of_finds finds
        obtain rfl := Option.some.inj (isFirst.symm.trans found)
        have kept := Probe.replaceReason?_eq_none.mpr agrees
        rw [Probe.replaceReason?_eq_some.mpr deviates] at kept
        cases kept
  -- Only the path that keeps the first probe is open.
  cases converges with
  | stopped stops => exact (stops.not_serves serves).elim
  | replaced finds deviates deletes creates =>
      exact absurd deviates (not_deviates serves finds)
  | created findsNone creates =>
      cases serves with
      | next looks rest =>
          obtain ⟨-, none⟩ := looks.of_findsNone findsNone
          rw [none] at isFirst
          cases isFirst
  | unchanged finds agreesToo =>
      obtain ⟨rfl, -⟩ := serves.single.of_finds finds
      obtain ⟨outcome, rfl, -⟩ := finds.outcome
      exact ⟨rfl, rfl, rfl⟩

end Attempts

end ProbeLifecycle
