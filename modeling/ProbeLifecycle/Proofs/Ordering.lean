import ProbeLifecycle.Proofs.Attempts

/-!
# Attempts in order

Which call may be attempted next depends on the attempt before it: a probe is
terminated when a lookup has found one, and created when a lookup has found none
or the old one is terminated.  A log in this order has properties that speak of
all its attempts, and so have the exchanges that the attempts make, in which a
token is obtained before a call.
-/

namespace ProbeLifecycle

open ProbeClient

inductive Follows : Option Attempt → Call → Prop where
  | first {clusterId} : Follows none (.lookup clusterId)
  | again {previous clusterId probe}
      (finds : Attempt.Finds clusterId probe previous) :
      Follows (some previous) (.lookup clusterId)
  | terminating {previous clusterId probe}
      (finds : Attempt.Finds clusterId probe previous) :
      Follows (some previous) (.terminate clusterId)
  | missing {previous request}
      (findsNone : Attempt.FindsNone request.clusterId previous) :
      Follows (some previous) (.create request)
  | terminated {previous request}
      (terminates : Attempt.Terminates request.clusterId previous) :
      Follows (some previous) (.create request)

inductive Ordered : Option Attempt → List Attempt → Prop where
  | nil {previous} : Ordered previous []
  | cons {previous attempt rest} (follows : Follows previous attempt.call)
      (ordered : Ordered (some attempt) rest) :
      Ordered previous (attempt :: rest)

section Logs

variable {previous : Option Attempt} {attempt : Attempt} {call : Call}
  {log before after : List Attempt} {clusterId : String} {request : ProbeRequest}
  {outcome : Except ProbeError Reply} {error : ProbeError}

theorem getLast?_cons_or :
    (attempt :: log).getLast?.or previous = log.getLast?.or (some attempt) := by
  rw [List.getLast?_cons]
  cases log.getLast? with
  | none => rfl
  | some last => rfl

theorem Follows.not_fails (follows : Follows (some attempt) call)
    (fails : Attempt.Fails attempt error) : False := by
  have not_finds : ∀ {clusterId probe},
      ¬ Attempt.Finds clusterId probe attempt := by
    intro clusterId probe finds
    obtain ⟨outcome, rfl, found⟩ := finds.outcome
    rw [lookupResult_eq_error.mpr fails] at found
    cases found
  cases follows with
  | again finds => exact not_finds finds
  | terminating finds => exact not_finds finds
  | missing findsNone =>
      obtain ⟨outcome, rfl, found⟩ := findsNone.outcome
      rw [lookupResult_eq_error.mpr fails] at found
      cases found
  | terminated terminates =>
      obtain ⟨outcome, rfl, finished⟩ := terminates.outcome
      rw [termination_eq_error.mpr fails] at finished
      cases finished

/-- Nothing follows a creation, and only a creation follows a termination. -/
theorem Follows.previous_call (follows : Follows (some attempt) call) :
    (∃ clusterId, attempt.call = .lookup clusterId) ∨
      (∃ clusterId, attempt.call = .terminate clusterId) ∧
        ∃ request, call = .create request := by
  cases follows with
  | again finds => cases finds; exact .inl ⟨_, rfl⟩
  | terminating finds => cases finds; exact .inl ⟨_, rfl⟩
  | missing findsNone => cases findsNone <;> exact .inl ⟨_, rfl⟩
  | terminated terminates => cases terminates <;> exact .inr ⟨⟨_, rfl⟩, _, rfl⟩

theorem Ordered.follows
    (ordered : Ordered previous (before ++ attempt :: after)) :
    Follows (before.getLast?.or previous) attempt.call := by
  induction before generalizing previous with
  | nil =>
      cases ordered with
      | cons follows ordered => exact follows
  | cons head before ih =>
      cases ordered with
      | cons follows ordered =>
          rw [getLast?_cons_or]
          exact ih ordered

/-- A log begins with a lookup; all else has an attempt before it. -/
theorem Ordered.follows_previous
    (ordered : Ordered none (before ++ attempt :: after))
    (notLookup : ∀ clusterId, attempt.call ≠ .lookup clusterId) :
    ∃ earlier previous, before = earlier ++ [previous] ∧
      Follows (some previous) attempt.call := by
  have follows := ordered.follows
  rw [Option.or_none] at follows
  cases last : before.getLast? with
  | none =>
      rw [last] at follows
      generalize attempt.call = call at follows notLookup
      cases follows
      exact absurd rfl (notLookup _)
  | some previous =>
      rw [last] at follows
      obtain ⟨earlier, split⟩ := List.getLast?_eq_some_iff.mp last
      exact ⟨earlier, previous, split, follows⟩

theorem Ordered.after_create
    (ordered : Ordered (some ⟨.create request, outcome⟩) log) : log = [] := by
  cases ordered with
  | nil => rfl
  | cons follows ordered =>
      rcases follows.previous_call with ⟨_, impossible⟩ | ⟨⟨_, impossible⟩, _⟩
      · cases impossible
      · cases impossible

theorem Ordered.after_terminate
    (ordered : Ordered (some ⟨.terminate clusterId, outcome⟩) log) :
    log = [] ∨ ∃ request made, log = [⟨.create request, made⟩] := by
  cases ordered with
  | nil => exact .inl rfl
  | @cons _ attempt rest follows ordered =>
      rcases follows.previous_call with
        ⟨_, impossible⟩ | ⟨_, request, isCreate⟩
      · cases impossible
      · obtain ⟨call, made⟩ := attempt
        obtain rfl : call = .create request := isCreate
        rw [ordered.after_create]
        exact .inr ⟨request, made, rfl⟩

theorem Ordered.countP_patch (ordered : Ordered previous log) :
    log.countP (fun attempt => attempt.call.method == .patch) ≤ 1 := by
  induction ordered with
  | nil => simp
  | @cons _ attempt rest follows ordered ih =>
      obtain ⟨call, outcome⟩ := attempt
      cases call with
      | lookup clusterId => simpa [Call.method] using ih
      | create request => simp [ordered.after_create, Call.method]
      | terminate clusterId =>
          -- Only a creation can follow, so the count does not need to go on.
          rcases ordered.after_terminate with rfl | ⟨request, made, rfl⟩
          · simp [Call.method]
          · simp [Call.method]

theorem Ordered.countP_post (ordered : Ordered previous log) :
    log.countP (fun attempt => attempt.call.method == .post) ≤ 1 := by
  induction ordered with
  | nil => simp
  | @cons _ attempt rest follows ordered ih =>
      obtain ⟨call, outcome⟩ := attempt
      cases call with
      | lookup clusterId => simpa [Call.method] using ih
      | create request => simp [ordered.after_create, Call.method]
      | terminate clusterId => simpa [Call.method] using ih

theorem Ordered.tail (ordered : Ordered previous (before ++ attempt :: after)) :
    Ordered (some attempt) after := by
  induction before generalizing previous with
  | nil =>
      cases ordered with
      | cons follows ordered => exact ordered
  | cons head before ih =>
      cases ordered with
      | cons follows ordered => exact ih ordered

end Logs

/-- The attempts that exchanges with the service make; those with the issuer are
set aside. -/
def sentAttempts (exchanged : List (Request × Delivery)) : List Attempt :=
  exchanged.filterMap fun
    | (.api request, delivery) => some ⟨request.call, delivery.answer⟩
    | (.token _, _) => none

theorem sentAttempts_append (first second : List (Request × Delivery)) :
    sentAttempts (first ++ second) = sentAttempts first ++ sentAttempts second :=
  List.filterMap_append

/-- Exchanges whose attempts are in order.  A token is obtained only for a call
that may be attempted next, which is made as soon as the token is granted. -/
inductive OrderedExchanges :
    Option Attempt → List (Request × Delivery) → Prop where
  | nil {previous} : OrderedExchanges previous []
  | obtaining {previous call request delivery} (follows : Follows previous call) :
      OrderedExchanges previous [(.token request, delivery)]
  | sent {previous request delivery rest}
      (follows : Follows previous request.call)
      (ordered : OrderedExchanges (some ⟨request.call, delivery.answer⟩) rest) :
      OrderedExchanges previous ((.api request, delivery) :: rest)
  | provided {previous tokenRequest granting response request delivery rest}
      (granted : granting.grant = .ok response)
      (follows : Follows previous request.call)
      (ordered : OrderedExchanges (some ⟨request.call, delivery.answer⟩) rest) :
      OrderedExchanges previous
        ((.token tokenRequest, granting) :: (.api request, delivery) :: rest)

namespace OrderedExchanges

variable {previous : Option Attempt} {exchanged : List (Request × Delivery)}

theorem ordered (ordered : OrderedExchanges previous exchanged) :
    Ordered previous (sentAttempts exchanged) := by
  induction ordered with
  | nil => exact .nil
  | obtaining follows => exact .nil
  | sent follows rest ih => exact .cons follows ih
  | provided granted follows rest ih => exact .cons follows ih

theorem nil_of_fails {attempt : Attempt} {error : ProbeError}
    (ordered : OrderedExchanges (some attempt) exchanged)
    (fails : Attempt.Fails attempt error) : exchanged = [] := by
  cases ordered with
  | nil => rfl
  | obtaining follows => exact (follows.not_fails fails).elim
  | sent follows rest => exact (follows.not_fails fails).elim
  | provided granted follows rest => exact (follows.not_fails fails).elim

theorem of_cons {exchange : Request × Delivery}
    (ordered : OrderedExchanges previous (exchange :: exchanged)) :
    ∃ earlier, OrderedExchanges earlier exchanged := by
  cases ordered with
  | obtaining follows => exact ⟨previous, .nil⟩
  | sent follows rest => exact ⟨_, rest⟩
  | provided granted follows rest => exact ⟨previous, .sent follows rest⟩

theorem of_append {before : List (Request × Delivery)}
    (ordered : OrderedExchanges previous (before ++ exchanged)) :
    ∃ earlier, OrderedExchanges earlier exchanged := by
  induction before generalizing previous with
  | nil => exact ⟨previous, ordered⟩
  | cons exchange before ih =>
      obtain ⟨earlier, rest⟩ := ordered.of_cons
      exact ih rest

theorem after_failure {request : ApiRequest} {delivery : Delivery}
    {before after : List (Request × Delivery)} {error : ProbeError}
    (ordered :
      OrderedExchanges previous (before ++ (.api request, delivery) :: after))
    (fails : Attempt.Fails ⟨request.call, delivery.answer⟩ error) :
    after = [] := by
  obtain ⟨earlier, rest⟩ := ordered.of_append
  cases rest with
  | sent follows rest => exact rest.nil_of_fails fails

theorem after_refusal {request : TokenRequest} {delivery : Delivery}
    {before after : List (Request × Delivery)} {error : TokenError}
    (ordered :
      OrderedExchanges previous (before ++ (.token request, delivery) :: after))
    (refusal : delivery.grant = .error error) : after = [] := by
  obtain ⟨earlier, rest⟩ := ordered.of_append
  cases rest with
  | obtaining follows => rfl
  | provided granted follows rest =>
      rw [granted] at refusal
      cases refusal

end OrderedExchanges

end ProbeLifecycle
