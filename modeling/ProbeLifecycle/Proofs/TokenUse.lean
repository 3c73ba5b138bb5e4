import ProbeLifecycle.Proofs.History
import ProbeLifecycle.Token.Provider

/-!
# What asking for a token leaves

A provider is asked for a token with some cache.  The cached token is handed
out if it is valid.  Otherwise one request is made, and the issuer refuses it,
grants a token whose expiry the clock cannot represent, or grants a usable one.
The events and the cache that each of these leaves are listed here once, and
every run is shown to be one of them.
-/

namespace ProbeLifecycle

namespace TokenProvider

variable (provider : TokenProvider)

theorem accessToken?_eq_none_iff {fetchedAt : Instant} {response : TokenResponse} :
    provider.accessToken? fetchedAt response = none ↔
      Instant.largestSeconds <
        fetchedAt.nanoseconds / nanosecondsPerSecond +
          (response.expiresIn - provider.leeway) := by
  unfold accessToken? Instant.after? lifetime
  rw [Option.map_eq_none_iff, ← Nat.not_le]
  split
  · rename_i inRange
    exact iff_of_false nofun (not_not_intro inRange)
  · rename_i outside
    exact iff_of_true rfl outside

/-- A cache is found to hold no valid token. -/
inductive Misses : Option AccessToken → List Event → Prop where
  | empty : Misses none [.locked]
  | expired {token : AccessToken} {now : Instant}
      (invalid : ¬ token.IsValidAt now) :
      Misses (some token) [.locked, .clockRead now]

/-- What asking for a token leaves: the events, how it ends, and the cache. -/
inductive Provides : Option AccessToken → List Event →
    Conclusion (Except TokenError AccessToken) → Option AccessToken → Prop where
  | reused {token : AccessToken} {now : Instant}
      (valid : token.IsValidAt now) :
      Provides (some token)
        [.locked, .clockRead now, .unlocked (some token)]
        (.finished (.ok token)) (some token)
  | refused {cache opening fetchedAt delivery error}
      (misses : Misses cache opening)
      (refusal : delivery.grant = .error error) :
      Provides cache
        (opening ++
          [.clockRead fetchedAt,
            .exchanged (.token provider.client.tokenRequest) delivery,
            .measured (.tokenRefresh false), .unlocked cache])
        (.finished (.error error)) cache
  | overflowed {cache opening fetchedAt delivery response}
      (misses : Misses cache opening)
      (granted : delivery.grant = .ok response)
      (overflow : provider.accessToken? fetchedAt response = none) :
      Provides cache
        (opening ++
          [.clockRead fetchedAt,
            .exchanged (.token provider.client.tokenRequest) delivery,
            .unlocked cache])
        (.halted .clockOverflow) cache
  | refreshed {cache opening fetchedAt delivery response token}
      (misses : Misses cache opening)
      (granted : delivery.grant = .ok response)
      (issued : provider.accessToken? fetchedAt response = some token) :
      Provides cache
        (opening ++
          [.clockRead fetchedAt,
            .exchanged (.token provider.client.tokenRequest) delivery,
            .measured (.tokenRefresh true), .unlocked (some token)])
        (.finished (.ok token)) (some token)

/-- What a refresh brings, given when it began and what becomes of the request. -/
def obtained (fetchedAt : Instant) (delivery : Delivery) :
    Conclusion (Except TokenError AccessToken) :=
  match delivery.grant with
  | .error error => .finished (.error error)
  | .ok response =>
      match provider.accessToken? fetchedAt response with
      | none => .halted .clockOverflow
      | some token => .finished (.ok token)

variable {provider} in
/-- Whoever asks for a token is handed the cached one, or gets what a refresh
brings. -/
theorem Provides.outcome {cache later : Option AccessToken} {events : List Event}
    {conclusion : Conclusion (Except TokenError AccessToken)}
    (provides : provider.Provides cache events conclusion later) :
    (∃ token now, AccessToken.IsValidAt token now ∧ cache = some token ∧
        later = some token ∧ conclusion = .finished (.ok token) ∧
        events = [.locked, .clockRead now, .unlocked (some token)]) ∨
      ∃ opening fetchedAt delivery closing, Misses cache opening ∧
        events = opening ++ .clockRead fetchedAt ::
          .exchanged (.token provider.client.tokenRequest) delivery :: closing ∧
        exchanges closing = [] ∧
        conclusion = provider.obtained fetchedAt delivery := by
  cases provides with
  | reused valid => exact .inl ⟨_, _, valid, rfl, rfl, rfl, rfl⟩
  | @refused _ _ fetchedAt delivery error misses refusal =>
      refine .inr ⟨_, fetchedAt, delivery, _, misses, rfl, rfl, ?_⟩
      simp only [obtained, refusal]
  | @overflowed _ _ fetchedAt delivery response misses granted overflow =>
      refine .inr ⟨_, fetchedAt, delivery, _, misses, rfl, rfl, ?_⟩
      simp only [obtained, granted, overflow]
  | @refreshed _ _ fetchedAt delivery response token misses granted issued =>
      refine .inr ⟨_, fetchedAt, delivery, _, misses, rfl, rfl, ?_⟩
      simp only [obtained, granted, issued]

theorem refresh_steps (cached : Option AccessToken) :
    provider.refresh cached =
      .clock fun fetchedAt =>
        .exchange (.token provider.client.tokenRequest) fun delivery =>
          match delivery.grant with
          | .error error =>
              .measure (.tokenRefresh false)
                (.unlock cached (.done (.error error)))
          | .ok response =>
              match provider.accessToken? fetchedAt response with
              | none => .unlock cached (.halt .clockOverflow)
              | some token =>
                  .measure (.tokenRefresh true)
                    (.unlock (some token) (.done (.ok token))) :=
  rfl

theorem token_steps :
    provider.token =
      .lock fun cached =>
        match cached with
        | none => provider.refresh none
        | some token =>
            .clock fun now =>
              if token.IsValidAt now then
                .unlock (some token) (.done (.ok token))
              else provider.refresh (some token) := by
  change Plan.lock _ = _
  congr 1
  funext cached
  cases cached with
  | none => rfl
  | some token => rfl

section Runs

variable {ω : Type} (surroundings : Surroundings ω)

theorem provides_refresh {cache : Option AccessToken} {opening : List Event}
    (misses : Misses cache opening) (world : ω) :
    let run := (provider.refresh cache).run surroundings cache world
    provider.Provides cache (opening ++ run.events) run.conclusion run.cache := by
  simp only [refresh_steps, Plan.run, Run.after]
  cases granted : ((surroundings.exchange _ _).1).grant with
  | error error => exact .refused misses granted
  | ok response =>
      cases issued : provider.accessToken? (surroundings.clock world).1
          response with
      | none =>
          simp only [issued, Plan.run, Run.after]
          exact .overflowed misses granted issued
      | some token =>
          simp only [issued, Plan.run, Run.after]
          exact .refreshed misses granted issued

theorem provides_token (cache : Option AccessToken) (world : ω) :
    let run := provider.token.run surroundings cache world
    provider.Provides cache run.events run.conclusion run.cache := by
  rw [token_steps]
  cases cache with
  | none =>
      simp only [Plan.run, Run.after]
      exact provider.provides_refresh surroundings .empty world
  | some token =>
      simp only [Plan.run, Run.after]
      by_cases valid : token.IsValidAt (surroundings.clock world).1
      · simp only [valid, if_true, Plan.run, Run.after]
        exact .reused valid
      · simp only [valid, if_false]
        exact provider.provides_refresh surroundings (.expired valid) _

end Runs

end TokenProvider

end ProbeLifecycle
