import ProbeLifecycle.Proofs.Attempts

/-!
# The ledger of a token cache

What a token cache should hold can be told from outside: a token request that is
granted puts a token in, a reply by which the service refuses a token takes it
out, and nothing else changes anything.  Events that go with a cache leave in it
what this ledger says, and every request among them is made on its grounds: one
to the issuer because no valid token is held, one to the service with the token
that is held.
-/

namespace ProbeLifecycle

/-- A change of what a token cache should hold. -/
inductive TokenChange where
  | refreshed (fetchedAt : Instant) (response : TokenResponse)
  | invalidated
  deriving DecidableEq, Repr

def clockReadings (events : List Event) : List Instant :=
  events.filterMap fun
    | .clockRead now => some now
    | _ => none

def lastReading (reading : Instant) (events : List Event) : Instant :=
  events.foldl (fun reading event =>
    match event with
    | .clockRead now => now
    | _ => reading) reading

namespace TokenProvider

variable (provider : TokenProvider)

/-- What an exchange changes, given the last reading of the clock before it. -/
def change? (reading : Instant) : Request → Delivery → Option TokenChange
  | .token _, delivery =>
      match delivery.grant with
      | .error _ => none
      | .ok response =>
          (provider.accessToken? reading response).map fun _ =>
            .refreshed reading response
  | .api _, delivery =>
      if delivery.status? = some unauthorizedStatus then some .invalidated
      else none

def changes (reading : Instant) : List Event → List TokenChange
  | [] => []
  | .clockRead now :: events => changes now events
  | .exchanged request delivery :: events =>
      (provider.change? reading request delivery).toList ++
        changes reading events
  | .locked :: events => changes reading events
  | .unlocked _ :: events => changes reading events
  | .measured _ :: events => changes reading events

def leaves : TokenChange → Option AccessToken
  | .refreshed fetchedAt response => provider.accessToken? fetchedAt response
  | .invalidated => none

def held (cache : Option AccessToken) (changes : List TokenChange) :
    Option AccessToken :=
  changes.foldl (fun _ change => provider.leaves change) cache

def heldAfter (reading : Instant) (cache : Option AccessToken)
    (events : List Event) : Option AccessToken :=
  provider.held cache (provider.changes reading events)

section Grants

variable {provider} {fetchedAt : Instant} {response : TokenResponse}
  {token : AccessToken}

/-- A token expires when its lifetime has passed since it was requested. -/
theorem eq_of_accessToken?
    (issued : provider.accessToken? fetchedAt response = some token) :
    token = ⟨response.accessToken, ⟨fetchedAt.nanoseconds +
      (response.expiresIn - provider.leeway) * nanosecondsPerSecond⟩⟩ := by
  obtain ⟨expiresAt, inRange, rfl⟩ := Option.map_eq_some_iff.mp issued
  unfold Instant.after? at inRange
  rw [Option.ite_none_right_eq_some] at inRange
  rw [← Option.some.inj inRange.2]
  rfl

theorem accessToken_ne_of_grant {delivery : Delivery}
    (granted : delivery.grant = .ok response) : response.accessToken ≠ "" := by
  unfold Delivery.grant at granted
  split at granted
  · cases granted
  · split at granted
    · split at granted
      · cases granted
      · split at granted
        · cases granted
        · rename_i notEmpty
          cases granted
          exact notEmpty
    · cases granted

end Grants

section Changes

variable {reading : Instant} {cache : Option AccessToken}

theorem changes_append (first second : List Event) :
    provider.changes reading (first ++ second) =
      provider.changes reading first ++
        provider.changes (lastReading reading first) second := by
  induction first generalizing reading with
  | nil => rfl
  | cons event first ih =>
      cases event with
      | clockRead now => exact ih
      | exchanged request delivery =>
          have sameReading :
              lastReading reading (.exchanged request delivery :: first) =
                lastReading reading first := rfl
          rw [sameReading, List.cons_append, changes, changes, ih,
            List.append_assoc]
      | locked => exact ih
      | unlocked cached => exact ih
      | measured measurement => exact ih

@[simp]
theorem held_nil : provider.held cache [] = cache :=
  rfl

@[simp]
theorem held_cons (change : TokenChange) (rest : List TokenChange) :
    provider.held cache (change :: rest) =
      provider.held (provider.leaves change) rest :=
  rfl

theorem held_append (first second : List TokenChange) :
    provider.held cache (first ++ second) =
      provider.held (provider.held cache first) second :=
  List.foldl_append

theorem heldAfter_append (first second : List Event) :
    provider.heldAfter reading cache (first ++ second) =
      provider.heldAfter (lastReading reading first)
        (provider.heldAfter reading cache first) second := by
  unfold heldAfter
  rw [changes_append, held_append]

/-- After a reply that refuses the token a cache is like an empty one. -/
theorem heldAfter_refused (request : ApiRequest) {rejected : Delivery}
    (refusal : rejected.status? = some unauthorizedStatus)
    (events : List Event) :
    provider.heldAfter reading cache
        (.exchanged (.api request) rejected :: events) =
      provider.heldAfter reading none events := by
  simp [heldAfter, changes, change?, refusal, leaves]

theorem exists_refreshed_of_held {changes : List TokenChange}
    {token : AccessToken} (holds : provider.held none changes = some token) :
    ∃ fetchedAt response, .refreshed fetchedAt response ∈ changes ∧
      provider.accessToken? fetchedAt response = some token := by
  -- Only the last change counts.
  cases List.eq_nil_or_concat changes with
  | inl empty =>
      rw [empty] at holds
      cases holds
  | inr last =>
      obtain ⟨earlier, change, rfl⟩ := last
      rw [List.concat_eq_append] at holds ⊢
      rw [held_append] at holds
      cases change with
      | invalidated => cases holds
      | refreshed fetchedAt response =>
          exact ⟨fetchedAt, response, by simp, holds⟩

/-- Only a token request that is granted and whose token can be used is a
refresh. -/
theorem change?_eq_refreshed {request : Request} {delivery : Delivery}
    {fetchedAt : Instant} {response : TokenResponse}
    (changed : provider.change? reading request delivery =
      some (.refreshed fetchedAt response)) :
    ∃ tokenRequest, request = .token tokenRequest ∧
      delivery.grant = .ok response ∧
      ∃ token, provider.accessToken? fetchedAt response = some token := by
  cases request with
  | api request =>
      simp only [change?, Option.ite_none_right_eq_some, Option.some.injEq,
        reduceCtorEq, and_false] at changed
  | token request =>
      change (match delivery.grant with
        | .error _ => none
        | .ok response => _) = _ at changed
      cases granted : delivery.grant with
      | error error =>
          rw [granted] at changed
          cases changed
      | ok granting =>
          rw [granted] at changed
          obtain ⟨token, issued, same⟩ := Option.map_eq_some_iff.mp changed
          cases same
          exact ⟨request, rfl, rfl, token, issued⟩

theorem mem_changes {events : List Event} {fetchedAt : Instant}
    {response : TokenResponse}
    (member : .refreshed fetchedAt response ∈ provider.changes reading events) :
    (∃ token, provider.accessToken? fetchedAt response = some token) ∧
      ∃ request delivery, .exchanged (.token request) delivery ∈ events ∧
        delivery.grant = .ok response := by
  induction events generalizing reading with
  | nil => cases member
  | cons event events ih =>
      have of_rest : ∀ {reading},
          .refreshed fetchedAt response ∈ provider.changes reading events →
          (∃ token, provider.accessToken? fetchedAt response = some token) ∧
            ∃ request delivery,
              .exchanged (.token request) delivery ∈ event :: events ∧
                delivery.grant = .ok response := by
        intro reading member
        obtain ⟨usable, request, delivery, made, granted⟩ := ih member
        exact ⟨usable, request, delivery, List.mem_cons_of_mem event made,
          granted⟩
      cases event with
      | clockRead now => exact of_rest member
      | locked => exact of_rest member
      | unlocked cached => exact of_rest member
      | measured measurement => exact of_rest member
      | exchanged request delivery =>
          rcases List.mem_append.mp member with changed | later
          · obtain ⟨tokenRequest, rfl, granted, usable⟩ :=
              provider.change?_eq_refreshed (Option.mem_toList.mp changed)
            exact ⟨usable, tokenRequest, delivery, List.mem_cons_self, granted⟩
          · exact of_rest later

end Changes

/-- Events that go with a cache, and what they leave in it. -/
inductive Custody : Option AccessToken → List Event → Option AccessToken →
    Prop where
  | idle {cache} : Custody cache [] cache
  | measured {cache measurement} : Custody cache [.measured measurement] cache
  | asked {cache events conclusion later}
      (provides : provider.Provides cache events conclusion later) :
      Custody cache events later
  | sent {token : AccessToken} {request : ApiRequest} {delivery : Delivery}
      (carries :
        request.bearer = some ⟨token.value, provider.client.clientId⟩) :
      Custody (some token)
        (.exchanged (.api request) delivery :: delivery.dropping)
        (delivery.cacheAfter (some token))
  | append {cache first middle second later}
      (before : Custody cache first middle)
      (after : Custody middle second later) :
      Custody cache (first ++ second) later

/-- Whoever asks for a token finds a valid one in the cache, or makes one request
to the issuer. -/
theorem Provides.shape {provider : TokenProvider}
    {cache later : Option AccessToken} {events : List Event}
    {conclusion : Conclusion (Except TokenError AccessToken)}
    (provides : provider.Provides cache events conclusion later) :
    (∃ token now, AccessToken.IsValidAt token now ∧ cache = some token ∧
        events = [.locked, .clockRead now, .unlocked (some token)]) ∨
      ∃ opening fetchedAt delivery closing, Misses cache opening ∧
        exchanges closing = [] ∧
        events = opening ++ [.clockRead fetchedAt] ++
          .exchanged (.token provider.client.tokenRequest) delivery ::
            closing := by
  cases provides with
  | reused valid => exact .inl ⟨_, _, valid, rfl, rfl⟩
  | @refused _ opening fetchedAt delivery _ misses refusal =>
      exact .inr ⟨opening, fetchedAt, delivery,
        [.measured (.tokenRefresh false), .unlocked cache], misses, rfl, by simp⟩
  | @overflowed _ opening fetchedAt delivery _ misses granted overflow =>
      exact .inr ⟨opening, fetchedAt, delivery, [.unlocked cache], misses, rfl,
        by simp⟩
  | @refreshed _ opening fetchedAt delivery _ token misses granted issued =>
      exact .inr ⟨opening, fetchedAt, delivery,
        [.measured (.tokenRefresh true), .unlocked (some token)], misses, rfl,
        by simp⟩

section Ledger

variable {provider} {reading : Instant} {cache later : Option AccessToken}
  {events : List Event}

theorem changes_opening {opening : List Event} (misses : Misses cache opening)
    (fetchedAt : Instant) (events : List Event) :
    provider.changes reading (opening ++ .clockRead fetchedAt :: events) =
      provider.changes fetchedAt events := by
  cases misses with
  | empty => rfl
  | expired invalid => rfl

/-- Whoever asks for a token changes the ledger by the token that is granted. -/
theorem Provides.changes_eq
    {conclusion : Conclusion (Except TokenError AccessToken)}
    (provides : provider.Provides cache events conclusion later) :
    (provider.changes reading events = [] ∧ later = cache) ∨
      ∃ opening rest fetchedAt response token, Misses cache opening ∧
        events = opening ++ .clockRead fetchedAt :: rest ∧
        provider.changes reading events = [.refreshed fetchedAt response] ∧
        provider.accessToken? fetchedAt response = some token ∧
        later = some token := by
  cases provides with
  | reused valid => exact .inl ⟨rfl, rfl⟩
  | refused misses refusal =>
      refine .inl ⟨?_, rfl⟩
      rw [changes_opening misses]
      simp [changes, change?, refusal]
  | overflowed misses granted overflow =>
      refine .inl ⟨?_, rfl⟩
      rw [changes_opening misses]
      simp [changes, change?, granted, overflow]
  | @refreshed _ opening fetchedAt delivery response token misses granted issued =>
      refine .inr ⟨opening, _, fetchedAt, response, token, misses, rfl, ?_,
        issued, rfl⟩
      rw [changes_opening misses]
      simp [changes, change?, granted, issued]

theorem changes_sent (request : ApiRequest) (delivery : Delivery) :
    provider.changes reading
        (.exchanged (.api request) delivery :: delivery.dropping) =
      if delivery.status? = some unauthorizedStatus then [.invalidated]
      else [] := by
  unfold Delivery.dropping
  by_cases refused : delivery.status? = some unauthorizedStatus
  · simp [changes, change?, refused]
  · simp [changes, change?, refused]

/-- Events that go with a cache leave in it what the ledger says. -/
theorem Custody.later_eq (custody : provider.Custody cache events later)
    (reading : Instant) :
    later = provider.heldAfter reading cache events := by
  induction custody generalizing reading with
  | idle => rfl
  | measured => rfl
  | asked provides =>
      unfold heldAfter
      rcases provides.changes_eq with ⟨unchanged, same⟩ |
        ⟨_, _, fetchedAt, response, token, -, -, changed, issued, same⟩
      · rw [unchanged, same]
        rfl
      · rw [changed, same]
        exact issued.symm
  | @sent token request delivery carries =>
      unfold heldAfter
      rw [changes_sent]
      unfold Delivery.cacheAfter
      split
      · rfl
      · rfl
  | append before after ihBefore ihAfter =>
      rw [heldAfter_append, ← ihBefore]
      exact ihAfter _

end Ledger

/-- The grounds on which a request is made after events: one to the issuer
because no valid token is found in the cache, one to the service with the token
in it. -/
def Grounded (reading : Instant) (cache : Option AccessToken)
    (before : List Event) : Request → Prop
  | .token _ =>
      ∃ earlier opening fetchedAt,
        before = earlier ++ opening ++ [.clockRead fetchedAt] ∧
          Misses (provider.heldAfter reading cache before) opening
  | .api request =>
      ∃ token, provider.heldAfter reading cache before = some token ∧
        request.bearer = some ⟨token.value, provider.client.clientId⟩

section Grounds

variable {provider} {reading : Instant} {cache later middle : Option AccessToken}
  {events first second before after : List Event} {request : Request}
  {delivery : Delivery}

/-- Among events with one exchange there is one place to cut at it. -/
theorem cut_unique {made : Request} {became : Delivery}
    (quietFirst : exchanges first = []) (quietSecond : exchanges second = [])
    (cut : first ++ .exchanged made became :: second =
      before ++ .exchanged request delivery :: after) :
    before = first ∧ request = made := by
  have notFirst : .exchanged request delivery ∉ first := by
    intro member
    have listed : (request, delivery) ∈ exchanges first :=
      List.mem_filterMap.mpr ⟨_, member, rfl⟩
    rw [quietFirst] at listed
    cases listed
  have notSecond : .exchanged request delivery ∉ second := by
    intro member
    have listed : (request, delivery) ∈ exchanges second :=
      List.mem_filterMap.mpr ⟨_, member, rfl⟩
    rw [quietSecond] at listed
    cases listed
  rcases List.append_eq_append_iff.mp cut with
    ⟨between, rfl, rest⟩ | ⟨between, rfl, rest⟩
  · cases between with
    | nil =>
        cases rest
        exact ⟨List.append_nil _, rfl⟩
    | cons event between =>
        cases rest
        exact absurd (by simp) notSecond
  · cases between with
    | nil =>
        cases rest
        exact ⟨(List.append_nil _).symm, rfl⟩
    | cons event between =>
        cases rest
        exact absurd (by simp) notFirst

/-- A cut of two lists of events is one of the first or one of the second. -/
theorem cut_append {event : Event}
    (cut : first ++ second = before ++ event :: after) :
    (∃ rest, first = before ++ event :: rest) ∨
      ∃ earlier, before = first ++ earlier ∧
        second = earlier ++ event :: after := by
  rcases List.append_eq_append_iff.mp cut with
    ⟨between, rfl, rest⟩ | ⟨between, rfl, rest⟩
  · exact .inr ⟨between, rfl, rest⟩
  · cases between with
    | nil => exact .inr ⟨[], by simp, rest.symm⟩
    | cons event between =>
        cases rest
        exact .inl ⟨between, rfl⟩

theorem Grounded.after_append
    (holds : middle = provider.heldAfter reading cache first)
    (grounded :
      provider.Grounded (lastReading reading first) middle before request) :
    provider.Grounded reading cache (first ++ before) request := by
  cases request with
  | token request =>
      obtain ⟨earlier, opening, fetchedAt, rfl, misses⟩ := grounded
      refine ⟨first ++ earlier, opening, fetchedAt, by simp, ?_⟩
      rw [heldAfter_append, ← holds]
      exact misses
  | api request =>
      obtain ⟨token, holdsToken, carries⟩ := grounded
      refine ⟨token, ?_, carries⟩
      rw [heldAfter_append, ← holds]
      exact holdsToken

/-- Every request among events that go with a cache is made on grounds of what
the ledger says. -/
theorem Custody.grounded (custody : provider.Custody cache events later)
    (reading : Instant)
    (cut : events = before ++ .exchanged request delivery :: after) :
    provider.Grounded reading cache before request := by
  -- The event is in the part of the history that one constructor adds.
  induction custody generalizing reading before after with
  | idle => simp at cut
  | measured => simp [List.cons_eq_append_iff] at cut
  | asked provides =>
      rcases provides.shape with ⟨token, now, -, -, rfl⟩ |
        ⟨opening, fetchedAt, became, closing, misses, quiet, rfl⟩
      · simp [List.cons_eq_append_iff] at cut
      · have quietOpening : exchanges (opening ++ [.clockRead fetchedAt]) = [] := by
          simp [ProbeClient.exchanges_misses misses]
        obtain ⟨rfl, rfl⟩ := cut_unique quietOpening quiet cut
        refine ⟨[], opening, fetchedAt, rfl, ?_⟩
        unfold heldAfter
        rw [changes_opening misses]
        exact misses
  | @sent token sentRequest became carries =>
      have cutAtHead : [] ++ .exchanged (.api sentRequest) became ::
          became.dropping = before ++ .exchanged request delivery :: after := cut
      obtain ⟨rfl, rfl⟩ :=
        cut_unique rfl (ProbeClient.exchanges_dropping became) cutAtHead
      exact ⟨token, rfl, carries⟩
  | append custodyFirst custodySecond ihFirst ihSecond =>
      rcases cut_append cut with ⟨rest, cutFirst⟩ | ⟨earlier, rfl, cutSecond⟩
      · exact ihFirst _ cutFirst
      · exact (ihSecond _ cutSecond).after_append (custodyFirst.later_eq _)

end Grounds

end TokenProvider

section Operations

variable {client : ProbeClient} {provider : TokenProvider}
  {cache later : Option AccessToken} {events : List Event}

/-- Making a call with authentication goes with the cache. -/
theorem ProbeClient.Makes.custody {call : Call}
    {conclusion : Conclusion (Except ProbeError Reply)}
    (authenticated : client.provider = some provider)
    (makes : client.Makes call cache events conclusion later) :
    provider.Custody cache events later := by
  cases makes with
  | plain unauthenticated =>
      rw [authenticated] at unauthenticated
      cases unauthenticated
  | broken authenticatedToo provides =>
      cases authenticated.symm.trans authenticatedToo
      exact .asked provides
  | unprovided authenticatedToo provides =>
      cases authenticated.symm.trans authenticatedToo
      exact .asked provides
  | sent authenticatedToo provides =>
      cases authenticated.symm.trans authenticatedToo
      have held := provides
      cases provides with
      | reused valid => exact .append (.asked held) (.sent rfl)
      | refreshed misses granted issued =>
          exact .append (.asked held) (.sent rfl)

theorem ProbeClient.MakesAll.custody
    (authenticated : client.provider = some provider)
    (makesAll : client.MakesAll cache events later) :
    provider.Custody cache events later := by
  induction makesAll with
  | idle => exact .idle
  | measured => exact .measured
  | made makes => exact makes.custody authenticated
  | append before after ihBefore ihAfter => exact .append ihBefore ihAfter

end Operations

end ProbeLifecycle
