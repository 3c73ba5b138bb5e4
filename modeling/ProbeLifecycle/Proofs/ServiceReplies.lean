import ProbeLifecycle.Proofs.Attempts

/-!
# The replies of the service

What the service replied stands in the exchanges of a run, complete or not.  An
attempt brings one reply at most, which is complete exactly if the attempt had a
reply to work with; a token that is obtained for it brings none.
-/

namespace ProbeLifecycle

open ProbeClient

/-- The replies of the service among exchanges: their statuses and bodies. -/
def serviceReplies (exchanged : List (Request × Delivery)) : List (Nat × Body) :=
  exchanged.filterMap fun
    | (.api _, .reply status body) => some (status, body)
    | _ => none

/-- The service has replied once, and this is its complete reply. -/
def RepliesOnce (exchanged : List (Request × Delivery)) (reply : Reply) : Prop :=
  ∃ bytes, serviceReplies exchanged = [(reply.status, .complete bytes)] ∧
    bodyText bytes = reply.body

section Replies

variable {client : ProbeClient} {exchanged : List (Request × Delivery)}
  {request : Request} {delivery : Delivery} {reply : Reply}

@[simp]
theorem serviceReplies_append (first second : List (Request × Delivery)) :
    serviceReplies (first ++ second) =
      serviceReplies first ++ serviceReplies second :=
  List.filterMap_append

@[simp]
theorem serviceReplies_token (asked : TokenRequest) :
    serviceReplies ((.token asked, delivery) :: exchanged) =
      serviceReplies exchanged :=
  rfl

theorem Delivery.receive_eq_ok :
    delivery.receive = .ok reply ↔
      ∃ bytes, delivery = .reply reply.status (.complete bytes) ∧
        bodyText bytes = reply.body := by
  obtain ⟨status, body⟩ := reply
  cases delivery with
  | reply given text =>
      cases text with
      | truncated => simp [receive]
      | complete bytes =>
          simp only [receive, Except.ok.injEq, Reply.mk.injEq,
            reply.injEq, Body.complete.injEq]
          constructor
          · rintro ⟨rfl, rfl⟩
            exact ⟨bytes, ⟨rfl, rfl⟩, rfl⟩
          · rintro ⟨_, ⟨rfl, rfl⟩, rfl⟩
            exact ⟨rfl, rfl⟩
  | _ => simp [receive]

theorem Delivery.answer_eq_ok :
    delivery.answer = .ok reply ↔ delivery.receive = .ok reply := by
  unfold answer
  cases delivery.receive with
  | error fault => simp
  | ok received => simp

theorem repliesOnce_api {asked : ApiRequest} :
    RepliesOnce [(.api asked, delivery)] reply ↔
      delivery.answer = .ok reply := by
  rw [Delivery.answer_eq_ok, Delivery.receive_eq_ok]
  unfold RepliesOnce serviceReplies
  cases delivery with
  | reply status body => simp
  | _ => simp

/-- The complete reply that an attempt brought is the one it works with. -/
theorem ProbeClient.Takes.repliesOnce_iff {call : Call}
    {outcome : Except ProbeError Reply}
    (takes : client.Takes ⟨call, outcome⟩ exchanged) :
    RepliesOnce exchanged reply ↔ outcome = .ok reply := by
  cases takes with
  | plain unauthenticated => exact repliesOnce_api
  | reused authenticated => exact repliesOnce_api
  | refreshed authenticated granted => exact repliesOnce_api
  | unprovided authenticated refusal => simp [RepliesOnce, serviceReplies]

end Replies

end ProbeLifecycle
