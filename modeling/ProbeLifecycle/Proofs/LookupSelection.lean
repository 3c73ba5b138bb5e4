import ProbeLifecycle.Proofs.Measuring
import ProbeLifecycle.Proofs.MutationSafety
import ProbeLifecycle.Proofs.ServiceReplies
import ProbeLifecycle.Proofs.Tallies

/-!
# What a lookup selects

A lookup makes one call, and what it returns and measures depends on the outcome
of this call alone.  It returns the first probe of the cluster in a complete listing,
or nothing if the service knows of none, and it is an error if the service does not
say.  That there are several is measured once, however many they are.
-/

namespace ProbeLifecycle

open ProbeClient

/-- A complete listing has more than one probe of the cluster. -/
inductive Attempt.FindsSeveral (clusterId : String) : Attempt → Prop where
  | listed {reply : Reply} {probes : List Probe}
      (success : isSuccess reply.status = true)
      (read : Json.decode readListing reply.body = .ok probes)
      (several : 2 ≤ (matching clusterId probes).length) :
      FindsSeveral clusterId ⟨.lookup clusterId, .ok reply⟩

def foundMeasurements : Except ProbeError (List Probe) → List Measurement
  | .ok (_ :: _ :: _) => [.duplicateProbes, .request .getProbe true]
  | found => [.request .getProbe found.isOk]

section Outcomes

variable {clusterId : String} {outcome : Except ProbeError Reply}

theorem count_duplicateProbes_found (found : Except ProbeError (List Probe)) :
    (foundMeasurements found).count .duplicateProbes =
      match found with
      | .ok (_ :: _ :: _) => 1
      | _ => 0 := by
  unfold foundMeasurements
  split
  · rfl
  · simp

theorem foundProbes_eq_ok {reply : Reply} {first second : Probe}
    {probes : List Probe} :
    foundProbes clusterId reply = .ok (first :: second :: probes) ↔
      isSuccess reply.status = true ∧
        ∃ listed, Json.decode readListing reply.body = .ok listed ∧
          matching clusterId listed = first :: second :: probes := by
  unfold foundProbes
  by_cases notFound : reply.status = notFoundStatus
  · simp [notFound, isSuccess, notFoundStatus]
  · rw [if_neg notFound]
    by_cases success : isSuccess reply.status = true
    · rw [if_pos success]
      cases read : Json.decode readListing reply.body with
      | error problem => simp [decodeReply, read, Except.map]
      | ok listed => simp [decodeReply, read, Except.map, success]
    · simp [success]

theorem findsSeveral_iff :
    Attempt.FindsSeveral clusterId ⟨.lookup clusterId, outcome⟩ ↔
      (foundMeasurements (outcome.bind (foundProbes clusterId))).count
        .duplicateProbes = 1 := by
  rw [count_duplicateProbes_found]
  constructor
  · rintro ⟨success, read, several⟩
    rename_i reply listed
    match matched : matching clusterId listed, several with
    | first :: second :: probes, _ =>
        have found : foundProbes clusterId reply = .ok (first :: second :: probes) :=
          foundProbes_eq_ok.mpr ⟨success, listed, read, matched⟩
        simp [Except.bind, found]
  · intro counted
    split at counted
    · rename_i first second probes found
      cases outcome with
      | error error => cases found
      | ok reply =>
          obtain ⟨success, listed, read, matched⟩ := foundProbes_eq_ok.mp found
          exact .listed success read (by simp [matched])
    · cases counted

end Outcomes

namespace Procedure

variable {client : ProbeClient} {clusterId : String}
  {cache later : Option AccessToken} {attempts : List Attempt}
  {events : List Event} {conclusion : Conclusion (Except ProbeError (Option Probe))}

theorem conducts_settle {α : Type} {operation : Operation}
    {result : Except ProbeError α} {conclusion : Conclusion (Except ProbeError α)}
    (conducts : (settle operation result).Conducts client cache attempts events
      conclusion later) :
    conclusion = .finished result ∧
      events = [.measured (.request operation result.isOk)] := by
  cases conducts with
  | measure rest =>
      cases rest with
      | finish => exact ⟨rfl, rfl⟩

theorem conducts_settleFound {found : Except ProbeError (List Probe)}
    (conducts :
      (settleFound found).Conducts client cache attempts events conclusion later) :
    conclusion = .finished (found.map List.head?) ∧
      events = (foundMeasurements found).map .measured := by
  cases found with
  | error error =>
      obtain ⟨rfl, rfl⟩ := conducts_settle conducts
      exact ⟨rfl, rfl⟩
  | ok probes =>
      match probes, conducts with
      | [], conducts =>
          obtain ⟨rfl, rfl⟩ := conducts_settle conducts
          exact ⟨rfl, rfl⟩
      | [probe], conducts =>
          obtain ⟨rfl, rfl⟩ := conducts_settle conducts
          exact ⟨rfl, rfl⟩
      | first :: second :: probes, .measure rest =>
          obtain ⟨rfl, rfl⟩ := conducts_settle rest
          exact ⟨rfl, rfl⟩

/-- A lookup breaks off in its call, or it ends by the outcome of the call. -/
theorem Conducts.lookup_cases
    (conducts :
      (lookup clusterId).Conducts client cache attempts events conclusion later) :
    (∃ cause, conclusion = .halted cause ∧
        client.Makes (.lookup clusterId) cache events (.halted cause) later) ∨
      ∃ made outcome middle,
        client.Makes (.lookup clusterId) cache made (.finished outcome) middle ∧
        conclusion = .finished (lookupResult clusterId outcome) ∧
        events = made ++
          (foundMeasurements (outcome.bind (foundProbes clusterId))).map
            .measured := by
  cases conducts with
  | broken makes => exact .inl ⟨_, rfl, makes⟩
  | attempt makes rest =>
      obtain ⟨concluded, rfl⟩ := conducts_settleFound rest
      exact .inr ⟨_, _, _, makes, concluded, rfl⟩

end Procedure

/-- A lookup returns and counts what the complete reply of the service says, and
fails without one. -/
structure SelectsFirst {ω : Type} (client : ProbeClient) (clusterId : String)
    (run : Run ω (Except ProbeError (Option Probe))) : Prop where
  none_iff : run.conclusion = .finished (.ok none) ↔
    ∃ reply, RepliesOnce (exchanges run.events) reply ∧
      Attempt.FindsNone clusterId ⟨.lookup clusterId, .ok reply⟩
  some_iff : ∀ probe, run.conclusion = .finished (.ok (some probe)) ↔
    ∃ reply, RepliesOnce (exchanges run.events) reply ∧
      Attempt.Finds clusterId probe ⟨.lookup clusterId, .ok reply⟩
  otherwise :
    (∀ reply, RepliesOnce (exchanges run.events) reply →
      ¬ Attempt.FindsNone clusterId ⟨.lookup clusterId, .ok reply⟩ ∧
        ∀ probe, ¬ Attempt.Finds clusterId probe ⟨.lookup clusterId, .ok reply⟩) →
      (∃ error, run.conclusion = .finished (.error error)) ∨
        run.conclusion = .halted .clockOverflow ∧ client.Overflows run.events
  overflow_iff :
    run.conclusion = .halted .clockOverflow ↔ client.Overflows run.events
  duplicates : ∀ earlier,
    (Tally.ofMeasurements (earlier ++ measurements run.events)).recorded
        duplicateProbesSeries =
      (Tally.ofMeasurements earlier).recorded duplicateProbesSeries +
        (measurements run.events).count .duplicateProbes
  several_iff : (measurements run.events).count .duplicateProbes = 1 ↔
    ∃ reply, RepliesOnce (exchanges run.events) reply ∧
      Attempt.FindsSeveral clusterId ⟨.lookup clusterId, .ok reply⟩
  at_most_one : (measurements run.events).count .duplicateProbes ≤ 1

section Runs

variable {client : ProbeClient} {clusterId : String} {call : Call}
  {cache later : Option AccessToken} {events : List Event}
  {outcome : Except ProbeError Reply}

/-- What an attempt says is what the complete reply to it says, if it takes one. -/
theorem ProbeClient.Takes.tells_iff {exchanged : List (Request × Delivery)}
    {tells : Attempt → Prop} (takes : client.Takes ⟨call, outcome⟩ exchanged)
    (answered : tells ⟨call, outcome⟩ → ∃ reply, outcome = .ok reply) :
    tells ⟨call, outcome⟩ ↔
      ∃ reply, RepliesOnce exchanged reply ∧ tells ⟨call, .ok reply⟩ := by
  constructor
  · intro told
    obtain ⟨reply, rfl⟩ := answered told
    exact ⟨reply, takes.repliesOnce_iff.mpr rfl, told⟩
  · rintro ⟨reply, replies, told⟩
    rwa [takes.repliesOnce_iff.mp replies]

section Lookups

variable {exchanged : List (Request × Delivery)}

theorem ProbeClient.Takes.findsNone_iff
    (takes : client.Takes ⟨.lookup clusterId, outcome⟩ exchanged) :
    Attempt.FindsNone clusterId ⟨.lookup clusterId, outcome⟩ ↔
      ∃ reply, RepliesOnce exchanged reply ∧
        Attempt.FindsNone clusterId ⟨.lookup clusterId, .ok reply⟩ := by
  refine takes.tells_iff fun findsNone => ?_
  cases findsNone with
  | unknown notFound => exact ⟨_, rfl⟩
  | unlisted success read absent => exact ⟨_, rfl⟩

theorem ProbeClient.Takes.finds_iff {probe : Probe}
    (takes : client.Takes ⟨.lookup clusterId, outcome⟩ exchanged) :
    Attempt.Finds clusterId probe ⟨.lookup clusterId, outcome⟩ ↔
      ∃ reply, RepliesOnce exchanged reply ∧
        Attempt.Finds clusterId probe ⟨.lookup clusterId, .ok reply⟩ := by
  refine takes.tells_iff fun finds => ?_
  cases finds with
  | listed success read first => exact ⟨_, rfl⟩

theorem ProbeClient.Takes.findsSeveral_iff
    (takes : client.Takes ⟨.lookup clusterId, outcome⟩ exchanged) :
    Attempt.FindsSeveral clusterId ⟨.lookup clusterId, outcome⟩ ↔
      ∃ reply, RepliesOnce exchanged reply ∧
        Attempt.FindsSeveral clusterId ⟨.lookup clusterId, .ok reply⟩ := by
  refine takes.tells_iff fun several => ?_
  cases several with
  | listed success read several => exact ⟨_, rfl⟩

end Lookups

@[simp]
theorem exchanges_map_measured (measured : List Measurement) :
    exchanges (measured.map .measured) = [] := by
  induction measured with
  | nil => rfl
  | cons measurement measured ih => simpa using ih

@[simp]
theorem measurements_map_measured (measured : List Measurement) :
    measurements (measured.map .measured) = measured := by
  induction measured with
  | nil => rfl
  | cons measurement measured ih => simpa using ih

theorem ProbeClient.Makes.count_duplicateProbes
    {conclusion : Conclusion (Except ProbeError Reply)}
    (makes : client.Makes call cache events conclusion later) :
    (measurements events).count .duplicateProbes = 0 := by
  rw [List.count_eq_zero]
  intro measured
  obtain ⟨success, different⟩ := makes.measures _ measured
  cases different

theorem ProbeClient.Makes.not_repliesOnce {cause : Fatal} {reply : Reply}
    (makes : client.Makes call cache events (.halted cause) later) :
    ¬ RepliesOnce (exchanges events) reply := by
  obtain ⟨request, delivery, exchanged⟩ := makes.exchanges_halted
  rw [exchanged]
  simp [RepliesOnce, serviceReplies]

/-- An overflow comes before anything is measured about the lookup. -/
theorem not_overflows_found (made : List Event)
    (found : Except ProbeError (List Probe)) :
    ¬ client.Overflows (made ++ (foundMeasurements found).map .measured) := by
  intro overflows
  obtain ⟨cached, isLast⟩ := overflows.exists_getLast?_eq
  unfold foundMeasurements at isLast
  split at isLast
  · simp at isLast
  · simp at isLast

theorem count_duplicateProbes_le (found : Except ProbeError (List Probe)) :
    (foundMeasurements found).count .duplicateProbes ≤ 1 := by
  rw [count_duplicateProbes_found]
  split
  · exact Nat.le_refl 1
  · exact Nat.zero_le 1

theorem selectsFirst_run {ω : Type} (surroundings : Surroundings ω)
    (client : ProbeClient) (clusterId : String) (cache : Option AccessToken)
    (world : ω) :
    SelectsFirst client clusterId
      ((client.getProbe clusterId).run.run surroundings cache world) := by
  rw [← Procedure.plan_lookup]
  obtain ⟨attempts, conducts⟩ :=
    Procedure.conducts_run surroundings client (Procedure.lookup clusterId) cache world
  generalize ((Procedure.lookup clusterId).plan client).run surroundings cache
    world = run at conducts ⊢
  obtain ⟨conclusion, left, after, events⟩ := run
  have counted : ∀ earlier : List Measurement,
      (Tally.ofMeasurements (earlier ++ measurements events)).recorded
          duplicateProbesSeries =
        (Tally.ofMeasurements earlier).recorded duplicateProbesSeries +
          (measurements events).count .duplicateProbes :=
    fun earlier => Tally.recorded_append Measurement.counts_duplicateProbes _ _
  rcases conducts.lookup_cases with
    ⟨cause, rfl, makes⟩ | ⟨made, outcome, middle, makes, rfl, rfl⟩
  · have unreplied : ∀ reply, ¬ RepliesOnce (exchanges events) reply :=
      fun reply => makes.not_repliesOnce
    obtain ⟨rfl, overflows⟩ := makes.overflows
    exact {
      none_iff := by simp [unreplied]
      some_iff := by simp [unreplied]
      otherwise := fun _ => .inr ⟨rfl, overflows⟩
      overflow_iff := iff_of_true rfl overflows
      duplicates := counted
      several_iff := by simp [unreplied, makes.count_duplicateProbes]
      at_most_one := by simp [makes.count_duplicateProbes] }
  · have takes := makes.takes
    have exchanged : exchanges (made ++
        (foundMeasurements (outcome.bind (foundProbes clusterId))).map .measured) =
          exchanges made := by
      simp
    refine {
      none_iff := ?none
      some_iff := fun probe => ?some
      otherwise := fun silent => ?otherwise
      overflow_iff := iff_of_false nofun (not_overflows_found made _)
      duplicates := counted
      several_iff := ?several
      at_most_one := ?once }
    case none =>
      rw [Conclusion.finished.injEq, lookupResult_eq_none, exchanged]
      exact takes.findsNone_iff
    case some =>
      rw [Conclusion.finished.injEq, lookupResult_eq_some, exchanged]
      exact takes.finds_iff
    case otherwise =>
      rw [exchanged] at silent
      have found := lookupResult_spec clusterId outcome
      cases result : lookupResult clusterId outcome with
      | error error => exact .inl ⟨error, rfl⟩
      | ok probe? =>
          rw [result] at found
          cases probe? with
          | none =>
              obtain ⟨reply, replies, findsNone⟩ := takes.findsNone_iff.mp found
              exact absurd findsNone (silent reply replies).1
          | some probe =>
              obtain ⟨reply, replies, finds⟩ := takes.finds_iff.mp found
              exact absurd finds ((silent reply replies).2 probe)
    case several =>
      simp only [measurements_append, measurements_map_measured, List.count_append,
        makes.count_duplicateProbes, Nat.zero_add]
      rw [exchanged, ← findsSeveral_iff]
      exact takes.findsSeveral_iff
    case once =>
      simpa [makes.count_duplicateProbes] using count_duplicateProbes_le _

end Runs

end ProbeLifecycle
