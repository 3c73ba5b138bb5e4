import ProbeLifecycle.Plan.Surroundings
import ProbeLifecycle.Proofs.TokenLedger

/-!
# The token cache over time

A provider starts with an empty cache.  In every run of uses the cache holds the
token of the last refresh, unless something has invalidated it since; a token is
requested exactly if none is held that is valid; and as long as the clock does not
go back, no token is replaced before it has expired.
-/

namespace ProbeLifecycle

/-- A use of a token cache.  Calls may be made by several clients. -/
inductive CacheUse where
  | token
  | invalidate
  | call (collection : Collection) (call : Call)
  deriving DecidableEq

structure Usage (ω : Type) where
  record : List (CacheUse × List Event)
  cache : Option AccessToken
  world : ω

namespace TokenProvider

variable (provider : TokenProvider)

def usePlan : CacheUse → Plan Unit
  | .token => (fun _ => ()) <$> provider.token
  | .invalidate => invalidateToken
  | .call collection call =>
      let client : ProbeClient := ⟨collection, some provider⟩
      (fun _ => ()) <$> (client.execute call).run

def usage {ω : Type} (surroundings : Surroundings ω) :
    List CacheUse → Option AccessToken → ω → Usage ω
  | [], cache, world => ⟨[], cache, world⟩
  | use :: uses, cache, world =>
      let run := (provider.usePlan use).run surroundings cache world
      let rest := usage surroundings uses run.cache run.world
      { rest with record := (use, run.events) :: rest.record }

/-- What a use changes.  Every token request follows a reading of the clock in
the same use, so no earlier reading matters. -/
def useChanges : CacheUse × List Event → List TokenChange
  | (.invalidate, _) => [.invalidated]
  | (.token, events) => provider.changes ⟨0⟩ events
  | (.call _ _, events) => provider.changes ⟨0⟩ events

def history (record : List (CacheUse × List Event)) : List TokenChange :=
  record.flatMap provider.useChanges

/-- A cache holds the token of the last change, if that is a refresh, and nothing
otherwise. -/
def IsCurrent (cache : Option AccessToken) (history : List TokenChange) : Prop :=
  match history.getLast? with
  | some (.refreshed fetchedAt response) =>
      response.accessToken ≠ "" ∧
        cache = some ⟨response.accessToken, ⟨fetchedAt.nanoseconds +
          (response.expiresIn - provider.leeway) * nanosecondsPerSecond⟩⟩
  | _ => cache = none

/-- No token is replaced before it has expired. -/
def Spaced : Option AccessToken → List TokenChange → Prop
  | _, [] => True
  | cache, change :: rest =>
      (∀ fetchedAt response token, change = .refreshed fetchedAt response →
        cache = some token → token.expiresAt ≤ fetchedAt) ∧
        Spaced (provider.leaves change) rest

section Spacing

variable {provider} {cache later : Option AccessToken}

theorem spaced_invalidated : provider.Spaced cache [.invalidated] := by
  refine ⟨?_, trivial⟩
  intro fetchedAt response token changed
  cases changed

theorem spaced_append (first second : List TokenChange) :
    provider.Spaced cache (first ++ second) ↔
      provider.Spaced cache first ∧
        provider.Spaced (provider.held cache first) second := by
  induction first generalizing cache with
  | nil => simp [Spaced]
  | cons change first ih =>
      simp only [List.cons_append, Spaced, ih, held_cons, and_assoc]

theorem clockReadings_append (first second : List Event) :
    clockReadings (first ++ second) =
      clockReadings first ++ clockReadings second :=
  List.filterMap_append

/-- A cache that is found to hold no valid token holds none that expires later
than the next reading of a clock that does not go back. -/
theorem Misses.expiresAt_le {opening rest : List Event} {fetchedAt : Instant}
    {token : AccessToken} (misses : Misses cache opening)
    (steady : (clockReadings (opening ++ .clockRead fetchedAt :: rest)).Pairwise
      (· ≤ ·))
    (holds : cache = some token) : token.expiresAt ≤ fetchedAt := by
  cases misses with
  | empty => cases holds
  | @expired _ now invalid =>
      cases holds
      have notLater : token.expiresAt ≤ now := Nat.le_of_not_lt invalid
      have readings : clockReadings ([.locked, .clockRead now] ++
          .clockRead fetchedAt :: rest) =
            now :: fetchedAt :: clockReadings rest := rfl
      rw [readings] at steady
      have steadyPair : now ≤ fetchedAt :=
        List.rel_of_pairwise_cons steady List.mem_cons_self
      exact Nat.le_trans notLater steadyPair

/-- While the clock does not go back, events that go with a cache replace no token
before it has expired. -/
theorem Custody.spaced {events : List Event} {reading : Instant}
    (custody : provider.Custody cache events later)
    (steady : (clockReadings events).Pairwise (· ≤ ·)) :
    provider.Spaced cache (provider.changes reading events) := by
  induction custody generalizing reading with
  | idle => trivial
  | measured => trivial
  | asked provides =>
      rcases provides.changes_eq with ⟨unchanged, -⟩ |
        ⟨opening, rest, fetchedAt, response, token, misses, rfl, changed, -, -⟩
      · rw [unchanged]
        trivial
      · rw [changed]
        refine ⟨?_, trivial⟩
        rintro _ _ _ ⟨⟩ holds
        exact misses.expiresAt_le steady holds
  | sent carries =>
      rw [changes_sent]
      split
      · exact spaced_invalidated
      · trivial
  | append custodyFirst custodySecond ihFirst ihSecond =>
      rw [clockReadings_append, List.pairwise_append] at steady
      rw [changes_append, spaced_append]
      have holds := custodyFirst.later_eq reading
      unfold heldAfter at holds
      rw [← holds]
      exact ⟨ihFirst steady.1, ihSecond steady.2.1⟩

end Spacing

section Asking

variable {provider} {ω : Type} {surroundings : Surroundings ω} {world after : ω}
  {cache later : Option AccessToken} {events : List Event}
  {conclusion : Conclusion (Except TokenError AccessToken)}

/-- A cache that is found to hold no valid token holds none that expires later
than the first reading of the clock. -/
theorem Misses.expiresAt_le_clock {opening rest : List Event}
    {token : AccessToken} (misses : Misses cache opening)
    (passes : surroundings.Pass world (opening ++ rest) after)
    (holds : cache = some token) :
    token.expiresAt ≤ (surroundings.clock world).1 := by
  cases misses with
  | empty => cases holds
  | expired invalid =>
      cases holds
      cases passes with
      | locked passes =>
          cases passes with
          | clock passes => exact Nat.le_of_not_lt invalid

/-- Whoever asks for a token makes a request if and only if the cache holds no
token that is valid at the first reading of the clock. -/
theorem Provides.requests_iff
    (provides : provider.Provides cache events conclusion later)
    (passes : surroundings.Pass world events after) :
    exchanges events ≠ [] ↔
      ∀ token, cache = some token →
        token.expiresAt ≤ (surroundings.clock world).1 := by
  rcases provides.shape with ⟨token, now, valid, rfl, rfl⟩ |
    ⟨opening, fetchedAt, delivery, closing, misses, -, rfl⟩
  · cases passes with
    | locked passes =>
        cases passes with
        | clock passes =>
            constructor
            · intro requests
              exact absurd rfl requests
            · intro expired
              exact absurd valid (Nat.not_lt_of_le (expired token rfl))
  · constructor
    · intro _ token holds
      rw [List.append_assoc] at passes
      exact misses.expiresAt_le_clock passes holds
    · intro _
      simp

theorem Provides.later_of_ok {token : AccessToken}
    (provides :
      provider.Provides cache events (.finished (.ok token)) later) :
    later = some token := by
  cases provides with
  | reused valid => rfl
  | refreshed misses granted issued => rfl

/-- Whoever asks for a token makes one request at most, to the issuer. -/
theorem Provides.sends_once
    (provides : provider.Provides cache events conclusion later) :
    (∀ exchanged ∈ exchanges events,
        exchanged.1 = .token provider.client.tokenRequest) ∧
      (exchanges events).length ≤ 1 := by
  rcases ProbeClient.exchanges_provides provides with none | ⟨delivery, one⟩
  · rw [none]
    exact ⟨by simp, Nat.zero_le 1⟩
  · rw [one]
    exact ⟨by simp, Nat.le_refl 1⟩

end Asking

section Uses

variable {ω : Type} (surroundings : Surroundings ω)

theorem custody_use {use : CacheUse} (notDropped : use ≠ .invalidate)
    (cache : Option AccessToken) (world : ω) :
    let run := (provider.usePlan use).run surroundings cache world
    provider.Custody cache run.events run.cache := by
  cases use with
  | invalidate => exact absurd rfl notDropped
  | token =>
      simp only [usePlan, surroundings.run_map]
      exact .asked (provider.provides_token surroundings cache world)
  | call collection call =>
      simp only [usePlan, surroundings.run_map]
      exact (ProbeClient.makes_execute _ surroundings call cache world).custody rfl

/-- A use leaves in the cache what its changes leave. -/
theorem cache_use (use : CacheUse) (cache : Option AccessToken) (world : ω) :
    let run := (provider.usePlan use).run surroundings cache world
    run.cache = provider.held cache (provider.useChanges (use, run.events)) := by
  cases use with
  | invalidate => rfl
  | token =>
      exact (provider.custody_use surroundings (by simp) cache world).later_eq _
  | call collection call =>
      exact (provider.custody_use surroundings (by simp) cache world).later_eq _

/-- While the clock does not go back, a use replaces no token before it has
expired. -/
theorem spaced_use (use : CacheUse) (cache : Option AccessToken) (world : ω) :
    let run := (provider.usePlan use).run surroundings cache world
    (clockReadings run.events).Pairwise (· ≤ ·) →
      provider.Spaced cache (provider.useChanges (use, run.events)) := by
  intro run steady
  cases use with
  | invalidate => exact spaced_invalidated
  | token =>
      exact (provider.custody_use surroundings (by simp) cache world).spaced steady
  | call collection call =>
      exact (provider.custody_use surroundings (by simp) cache world).spaced steady

theorem cache_usage (uses : List CacheUse) (cache : Option AccessToken)
    (world : ω) :
    let usage := provider.usage surroundings uses cache world
    usage.cache = provider.held cache (provider.history usage.record) := by
  induction uses generalizing cache world with
  | nil => rfl
  | cons use uses ih =>
      simp only [usage, history, List.flatMap_cons, held_append]
      rw [← cache_use]
      exact ih _ _

theorem spaced_usage (uses : List CacheUse) (cache : Option AccessToken)
    (world : ω) :
    let usage := provider.usage surroundings uses cache world
    (clockReadings (usage.record.flatMap (·.2))).Pairwise (· ≤ ·) →
      provider.Spaced cache (provider.history usage.record) := by
  induction uses generalizing cache world with
  | nil =>
      intro usage steady
      trivial
  | cons use uses ih =>
      intro usage steady
      simp only [usage, TokenProvider.usage, List.flatMap_cons,
        clockReadings_append, List.pairwise_append] at steady
      simp only [usage, TokenProvider.usage, history, List.flatMap_cons,
        spaced_append]
      rw [← cache_use]
      exact ⟨provider.spaced_use surroundings use cache world steady.1,
        ih _ _ steady.2.1⟩

/-- The refreshes in a history are granted and can be used. -/
theorem mem_history {uses : List CacheUse} {cache : Option AccessToken}
    {world : ω} {fetchedAt : Instant} {response : TokenResponse}
    (member : .refreshed fetchedAt response ∈
      provider.history (provider.usage surroundings uses cache world).record) :
    response.accessToken ≠ "" ∧
      ∃ token, provider.accessToken? fetchedAt response = some token := by
  obtain ⟨⟨use, events⟩, -, changed⟩ := List.mem_flatMap.mp member
  have of_changes :
      .refreshed fetchedAt response ∈ provider.changes ⟨0⟩ events →
      response.accessToken ≠ "" ∧
        ∃ token, provider.accessToken? fetchedAt response = some token := by
    intro member
    obtain ⟨usable, _, _, -, granted⟩ := provider.mem_changes member
    exact ⟨accessToken_ne_of_grant granted, usable⟩
  cases use with
  | invalidate => simp [useChanges] at changed
  | token => exact of_changes changed
  | call collection call => exact of_changes changed

/-- A cache that was empty before its uses holds the token of the last
refresh. -/
theorem isCurrent_usage (world : ω) (uses : List CacheUse) :
    let usage := provider.usage surroundings uses none world
    provider.IsCurrent usage.cache (provider.history usage.record) := by
  intro usage
  have holds := provider.cache_usage surroundings uses none world
  change usage.cache = provider.held none (provider.history usage.record) at holds
  cases last : (provider.history usage.record).getLast? with
  | none =>
      simp only [IsCurrent, last]
      rw [List.getLast?_eq_none_iff.mp last] at holds
      exact holds
  | some change =>
      obtain ⟨earlier, split⟩ := List.getLast?_eq_some_iff.mp last
      have member : change ∈ provider.history usage.record := by
        rw [split]
        simp
      rw [split, held_append] at holds
      cases change with
      | invalidated =>
          simp only [IsCurrent, last]
          exact holds
      | refreshed fetchedAt response =>
          simp only [IsCurrent, last]
          obtain ⟨notEmpty, token, issued⟩ :=
            provider.mem_history surroundings member
          rw [← eq_of_accessToken? issued, ← issued]
          exact ⟨notEmpty, holds⟩

/-- While the clock does not go back, refreshes with nothing between them begin at
least the lifetime of the first token apart. -/
theorem apart_usage (world : ω) (uses : List CacheUse)
    (steady : (clockReadings ((provider.usage surroundings uses none
      world).record.flatMap (·.2))).Pairwise (· ≤ ·))
    {earlier later : List TokenChange} {first second : Instant}
    {granted grantedNext : TokenResponse}
    (split : provider.history (provider.usage surroundings uses none world).record =
      earlier ++ .refreshed first granted ::
        .refreshed second grantedNext :: later) :
    first.nanoseconds + (granted.expiresIn - provider.leeway) *
      nanosecondsPerSecond ≤ second.nanoseconds := by
  have spaced := provider.spaced_usage surroundings uses none world steady
  have member : .refreshed first granted ∈
      provider.history (provider.usage surroundings uses none world).record := by
    rw [split]
    simp
  obtain ⟨-, token, issued⟩ := provider.mem_history surroundings member
  rw [split, spaced_append] at spaced
  -- What the first refresh has left is what the second one replaces.
  obtain ⟨-, -, replaced, -⟩ := spaced
  have expired := replaced _ _ token rfl issued
  rw [eq_of_accessToken? issued] at expired
  exact expired

/-- Over every run of uses, beginning with an empty cache:

* the cache holds the token of the last refresh, with its lifetime counted from
  the reading of the clock before the request, and nothing if the token was
  invalidated since or none was ever obtained;
* asking for a token sends one token request if no token is held or the clock has
  reached the end of its lifetime, and none otherwise, and what is handed out is
  what is left in the cache;
* while the clock does not go back, refreshes with nothing between them begin at
  least the lifetime of the first token apart. -/
theorem cache_over_time (world : ω) (uses : List CacheUse) :
    let usage := provider.usage surroundings uses none world
    let history := provider.history usage.record
    provider.IsCurrent usage.cache history ∧
      (∀ cache world,
        let asked := provider.token.run surroundings cache world
        let now := (surroundings.clock world).1
        (exchanges asked.events ≠ [] ↔
            ∀ token, cache = some token → token.expiresAt ≤ now) ∧
          (∀ exchanged ∈ exchanges asked.events,
            exchanged.1 = .token provider.client.tokenRequest) ∧
          (exchanges asked.events).length ≤ 1 ∧
          ∀ token, asked.conclusion = .finished (.ok token) →
            asked.cache = some token) ∧
      ((clockReadings (usage.record.flatMap (·.2))).Pairwise (· ≤ ·) →
        ∀ earlier first granted second grantedNext later,
          history = earlier ++ .refreshed first granted ::
            .refreshed second grantedNext :: later →
          first.nanoseconds + (granted.expiresIn - provider.leeway) *
            nanosecondsPerSecond ≤ second.nanoseconds) := by
  intro usage history
  refine ⟨?_, ?_, ?_⟩
  · exact provider.isCurrent_usage surroundings world uses
  · intro cache world asked now
    have provides := provider.provides_token surroundings cache world
    change provider.Provides cache asked.events asked.conclusion asked.cache
      at provides
    have passes := surroundings.pass_run provider.token cache world
    obtain ⟨asksIssuer, once⟩ := provides.sends_once
    refine ⟨provides.requests_iff passes, asksIssuer, once, ?_⟩
    intro token finished
    rw [finished] at provides
    exact provides.later_of_ok
  · intro steady earlier first granted second grantedNext later split
    exact provider.apart_usage surroundings world uses steady split

end Uses

/-- On a clock that moves ten seconds between readings, a token of sixty seconds
with a leeway of forty is reused once and then replaced; the service refuses the
second token in a reply that breaks off, so that a third is requested. -/
theorem cache_over_time_ticking :
    let tick := 10 * nanosecondsPerSecond
    let surroundings : Surroundings (Nat × List ScriptedReply) := {
      clock := fun world => (⟨world.1⟩, (world.1 + tick, world.2))
      deliver := fun _ world =>
        match world.2 with
        | [] => (.hungUp, world)
        | reply :: replies => (reply.delivery, (world.1, replies)) }
    let provider : TokenProvider := ⟨⟨"hcp", "secret", "http://issuer", none⟩, 40⟩
    let granting : ScriptedReply := ⟨some 200, .complete (Text.utf8Bytes
      "\x7b\"access_token\":\"t\",\"expires_in\":60\x7d".toList)⟩
    let granted : TokenResponse := ⟨"t", none, 60⟩
    let collection : Collection := ⟨{ scheme := .http, host := "probes" }, "hcp"⟩
    let world := (0, [granting, granting, ⟨some 401, .truncated⟩, granting])
    let usage := provider.usage surroundings
      [.token, .token, .call collection (.lookup "c1"), .token] none world
    let history := provider.history usage.record
    (clockReadings (usage.record.flatMap (·.2))).Pairwise (· ≤ ·) ∧
      history = [.refreshed ⟨0⟩ granted, .refreshed ⟨3 * tick⟩ granted,
        .invalidated, .refreshed ⟨4 * tick⟩ granted] ∧
      usage.cache = some ⟨"t", ⟨6 * tick⟩⟩ ∧
      0 + (60 - 40) * nanosecondsPerSecond ≤ 3 * tick := by
  intro tick surroundings provider granting granted collection world usage history
  have steady : (clockReadings (usage.record.flatMap (·.2))).Pairwise (· ≤ ·) := by
    decide +kernel
  have shown : history = [.refreshed ⟨0⟩ granted, .refreshed ⟨3 * tick⟩ granted,
      .invalidated, .refreshed ⟨4 * tick⟩ granted] := by
    decide +kernel
  have apart := (provider.cache_over_time surroundings world
    [.token, .token, .call collection (.lookup "c1"), .token]).2.2
  have spacing := apart steady [] ⟨0⟩ granted ⟨3 * tick⟩ granted _ shown
  exact ⟨steady, shown, by decide +kernel, spacing⟩

end TokenProvider

end ProbeLifecycle
