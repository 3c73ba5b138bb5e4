import ProbeLifecycle.Proofs.LockDiscipline
import ProbeLifecycle.Proofs.Tallies
import ProbeLifecycle.Proofs.TokenCache

/-!
# Failed refreshes

A refresh fails if the request brings no whole reply, if the issuer refuses it, if its
reply holds no token, or if the clock cannot represent the end of the token's lifetime.
Each of these is listed with what the caller gets.  Nothing else is left of a failed
refresh than a measurement: the cache is as it was, the lock is free, and the next
caller sends a request again.
-/

namespace ProbeLifecycle

/-- What is measured of a refresh that brings no token; a panic comes before the
measurement. -/
def Conclusion.failureMeasured {α : Type} : Conclusion α → List Measurement
  | finished _ => [.tokenRefresh false]
  | halted _ => []

namespace TokenProvider

variable (provider : TokenProvider)

/-- The ways in which a refresh fails, and what the caller gets. -/
inductive RefreshFails (fetchedAt : Instant) : Delivery →
    Conclusion (Except TokenError AccessToken) → Prop where
  | unsent : RefreshFails fetchedAt .unsent (.finished (.error (.transport .unsent)))
  | unreached :
      RefreshFails fetchedAt .unreached (.finished (.error (.transport .unreached)))
  | hungUp : RefreshFails fetchedAt .hungUp (.finished (.error (.transport .hungUp)))
  | truncated {status : Nat} :
      RefreshFails fetchedAt (.reply status .truncated)
        (.finished (.error (.transport .truncated)))
  | refused {status : Nat} {bytes : List UInt8} (failure : isSuccess status = false) :
      RefreshFails fetchedAt (.reply status (.complete bytes))
        (.finished (.error (.refused status (bodyText bytes))))
  | undecodable {status : Nat} {bytes : List UInt8} {problem : Json.Problem}
      (success : isSuccess status = true)
      (unread : Json.decode TokenResponse.reader (bodyText bytes) = .error problem) :
      RefreshFails fetchedAt (.reply status (.complete bytes))
        (.finished (.error (.parse problem)))
  | emptyToken {status : Nat} {bytes : List UInt8} {response : TokenResponse}
      (success : isSuccess status = true)
      (read : Json.decode TokenResponse.reader (bodyText bytes) = .ok response)
      (empty : response.accessToken = "") :
      RefreshFails fetchedAt (.reply status (.complete bytes))
        (.finished (.error .emptyToken))
  | overflow {status : Nat} {bytes : List UInt8} {response : TokenResponse}
      (success : isSuccess status = true)
      (read : Json.decode TokenResponse.reader (bodyText bytes) = .ok response)
      (named : response.accessToken ≠ "")
      (tooLate : fetchedAt.after? (response.expiresIn - provider.leeway) = none) :
      RefreshFails fetchedAt (.reply status (.complete bytes))
        (.halted .clockOverflow)

variable {provider} {fetchedAt : Instant} {delivery : Delivery}
  {conclusion : Conclusion (Except TokenError AccessToken)}

theorem RefreshFails.obtained_eq
    (fails : provider.RefreshFails fetchedAt delivery conclusion) :
    provider.obtained fetchedAt delivery = conclusion := by
  cases fails with
  | unsent => rfl
  | unreached => rfl
  | hungUp => rfl
  | truncated => rfl
  | refused failure =>
      simp [obtained, Delivery.grant, Delivery.receive, failure]
  | undecodable success unread =>
      simp [obtained, Delivery.grant, Delivery.receive, success, unread]
  | emptyToken success read empty =>
      simp [obtained, Delivery.grant, Delivery.receive, success, read, empty]
  | overflow success read named tooLate =>
      simp [obtained, Delivery.grant, Delivery.receive, success, read, named,
        accessToken?, lifetime, tooLate]

theorem RefreshFails.ne_ok
    (fails : provider.RefreshFails fetchedAt delivery conclusion)
    (token : AccessToken) : conclusion ≠ .finished (.ok token) := by
  cases fails <;> simp

variable (provider) in
/-- There is no other way in which a refresh brings no token. -/
theorem refreshFails_or (fetchedAt : Instant) (delivery : Delivery) :
    (∃ conclusion, provider.RefreshFails fetchedAt delivery conclusion) ∨
      ∃ token, provider.obtained fetchedAt delivery = .finished (.ok token) := by
  cases delivery with
  | unsent => exact .inl ⟨_, .unsent⟩
  | unreached => exact .inl ⟨_, .unreached⟩
  | hungUp => exact .inl ⟨_, .hungUp⟩
  | reply status body =>
      cases body with
      | truncated => exact .inl ⟨_, .truncated⟩
      | complete bytes =>
          cases success : isSuccess status with
          | false => exact .inl ⟨_, .refused success⟩
          | true =>
              cases read : Json.decode TokenResponse.reader (bodyText bytes) with
              | error problem => exact .inl ⟨_, .undecodable success read⟩
              | ok response =>
                  by_cases empty : response.accessToken = ""
                  · exact .inl ⟨_, .emptyToken success read empty⟩
                  · cases expiry : fetchedAt.after?
                        (response.expiresIn - provider.leeway) with
                    | none => exact .inl ⟨_, .overflow success read empty expiry⟩
                    | some expiresAt =>
                        refine .inr ⟨⟨response.accessToken, expiresAt⟩, ?_⟩
                        simp [obtained, Delivery.grant, Delivery.receive, success,
                          read, empty, accessToken?, lifetime, expiry]

section Runs

variable {ω : Type} {surroundings : Surroundings ω} {cache : Option AccessToken}
  {world asked later : ω}

def looked (surroundings : Surroundings ω) (cache : Option AccessToken) (world : ω) :
    ω :=
  match cache with
  | none => world
  | some _ => (surroundings.clock world).2

/-- Asking for a token with a cache that holds none that is valid is refreshing, after
a look at the cache. -/
theorem run_token_of_missed (provider : TokenProvider)
    (missed : ∀ token, cache = some token →
      ¬ token.IsValidAt (surroundings.clock world).1) :
    ∃ opening, Misses cache opening ∧ ∀ refreshed,
      (provider.refresh cache).run surroundings cache
          (looked surroundings cache world) = refreshed →
        provider.token.run surroundings cache world =
          ⟨refreshed.conclusion, refreshed.cache, refreshed.world,
            opening ++ refreshed.events⟩ := by
  rw [token_steps]
  cases cache with
  | none =>
      refine ⟨_, .empty, ?_⟩
      rintro _ rfl
      rfl
  | some token =>
      have invalid := missed token rfl
      refine ⟨_, .expired invalid, ?_⟩
      rintro _ rfl
      simp only [Plan.run, invalid, if_false, Run.after, looked, List.cons_append,
        List.nil_append]

section Refreshing

variable (asks : surroundings.clock world = (fetchedAt, asked))
  (delivers : surroundings.exchange (.token provider.client.tokenRequest) asked =
    (delivery, later))

include asks delivers

theorem conclusion_run_refresh :
    ((provider.refresh cache).run surroundings cache world).conclusion =
      provider.obtained fetchedAt delivery := by
  simp only [refresh_steps, Plan.run, Run.after, asks, delivers, obtained]
  cases granted : delivery.grant with
  | error error => rfl
  | ok response =>
      cases issued : provider.accessToken? fetchedAt response with
      | none => simp only [issued, Plan.run, Run.after]
      | some token => simp only [issued, Plan.run, Run.after]

theorem run_refresh_of_fails
    (fails : provider.RefreshFails fetchedAt delivery conclusion) :
    (provider.refresh cache).run surroundings cache world =
      ⟨conclusion, cache, later,
        .clockRead fetchedAt ::
          .exchanged (.token provider.client.tokenRequest) delivery ::
          (conclusion.failureMeasured.map .measured ++ [.unlocked cache])⟩ := by
  have brings := fails.obtained_eq
  unfold obtained at brings
  simp only [refresh_steps, Plan.run, Run.after, asks, delivers]
  cases granted : delivery.grant with
  | error error =>
      rw [granted] at brings
      subst brings
      rfl
  | ok response =>
      rw [granted] at brings
      cases issued : provider.accessToken? fetchedAt response with
      | none =>
          simp only [issued] at brings
          subst brings
          simp only [issued]
          rfl
      | some token =>
          simp only [issued] at brings
          exact absurd brings.symm (fails.ne_ok token)

end Refreshing

variable (provider) in
/-- Asking for a token with a cache that holds none that is valid ends as the refresh
does. -/
theorem conclusion_run_token (surroundings : Surroundings ω) (world : ω)
    (missed : ∀ token, cache = some token →
      ¬ token.IsValidAt (surroundings.clock world).1) :
    let asked := surroundings.clock (looked surroundings cache world)
    let delivered :=
      surroundings.exchange (.token provider.client.tokenRequest) asked.2
    (provider.token.run surroundings cache world).conclusion =
      provider.obtained asked.1 delivered.1 := by
  intro asked delivered
  obtain ⟨opening, -, leaves⟩ := provider.run_token_of_missed missed
  have refreshes : ((provider.refresh cache).run surroundings cache
      (looked surroundings cache world)).conclusion =
        provider.obtained asked.1 delivered.1 := by
    rw [conclusion_run_refresh (Prod.eta asked).symm (Prod.eta delivered).symm]
  rw [← refreshes]
  simp only [leaves _ rfl]

/-- Whoever asks for a token with a cache that holds none that is valid sends one
request to the issuer. -/
theorem exchanges_token_of_expired (surroundings : Surroundings ω) (world : ω)
    (expired : ∀ token, cache = some token →
      token.expiresAt ≤ (surroundings.clock world).1) :
    ∃ delivery,
      exchanges (provider.token.run surroundings cache world).events =
        [(.token provider.client.tokenRequest, delivery)] := by
  have provides := provider.provides_token surroundings cache world
  have passes := surroundings.pass_run provider.token cache world
  rcases ProbeClient.exchanges_provides provides with none | one
  · exact absurd none ((provides.requests_iff passes).mpr expired)
  · exact one

section Left

variable {opening : List Event} (misses : Misses cache opening)

include misses

/-- Between taking the lock and leaving it, a failed refresh leaves it alone. -/
theorem Misses.exists_between :
    ∃ between,
      opening ++ .clockRead fetchedAt ::
        .exchanged (.token provider.client.tokenRequest) delivery ::
        (conclusion.failureMeasured.map .measured ++ [.unlocked cache]) =
          .locked :: (between ++ [.unlocked cache]) ∧
      ∀ event ∈ between, event ≠ .locked ∧ ∀ left, event ≠ .unlocked left := by
  refine ⟨opening.tail ++ .clockRead fetchedAt ::
    .exchanged (.token provider.client.tokenRequest) delivery ::
      conclusion.failureMeasured.map .measured, ?_, ?_⟩
  · cases misses <;> simp
  · cases misses <;> cases conclusion <;> simp [Conclusion.failureMeasured]

theorem Misses.exchanges_failed :
    exchanges (opening ++ .clockRead fetchedAt ::
      .exchanged (.token provider.client.tokenRequest) delivery ::
      (conclusion.failureMeasured.map .measured ++ [.unlocked cache])) =
        [(.token provider.client.tokenRequest, delivery)] := by
  cases conclusion <;>
    simp [ProbeClient.exchanges_misses misses, Conclusion.failureMeasured]

theorem Misses.measurements_failed :
    measurements (opening ++ .clockRead fetchedAt ::
      .exchanged (.token provider.client.tokenRequest) delivery ::
      (conclusion.failureMeasured.map .measured ++ [.unlocked cache])) =
        conclusion.failureMeasured := by
  have quiet : measurements opening = [] := by
    cases misses <;> rfl
  cases conclusion <;> simp [quiet, Conclusion.failureMeasured]

end Left

theorem recorded_failureMeasured
    (conclusion : Conclusion (Except TokenError AccessToken)) (earlier : List Measurement) :
    let tally := Tally.ofMeasurements (earlier ++ conclusion.failureMeasured)
    let before := Tally.ofMeasurements earlier
    tally.recorded (refreshTotalSeries false) =
        before.recorded (refreshTotalSeries false) + conclusion.failureMeasured.length ∧
      tally.recorded (refreshTotalSeries true) =
        before.recorded (refreshTotalSeries true) := by
  intro tally before
  simp only [tally, before,
    Tally.recorded_append (Measurement.counts_refreshTotal _)]
  cases conclusion <;> exact ⟨rfl, rfl⟩

/-- What a failed refresh leaves of a run that began with a reading of the clock. -/
structure LeftByFailure (provider : TokenProvider) (began : Instant)
    (cache : Option AccessToken) (delivery : Delivery)
    (conclusion : Conclusion (Except TokenError AccessToken))
    (run : Run ω (Except TokenError AccessToken)) : Prop where
  /-- The caller gets what belongs to the failure. -/
  concludes : run.conclusion = conclusion
  /-- That is no token, in particular not the one that has expired. -/
  noToken : ∀ token, conclusion ≠ .finished (.ok token)
  /-- The cache is as it was. -/
  unchanged : run.cache = cache
  /-- The lock is taken first and left last, and not touched between. -/
  givesBack : ∃ between, run.events = .locked :: (between ++ [.unlocked cache]) ∧
    ∀ event ∈ between, event ≠ .locked ∧ ∀ left, event ≠ .unlocked left
  /-- Among others who rest, the caller leaves the cache as it was and the lock free. -/
  free : ∀ {ι : Type} [DecidableEq ι]
    (scene : Scene ι (Except TokenError AccessToken)) (task : ι),
    scene.progress task = .ready provider.token → scene.holder = none →
    scene.cache = cache →
    ∃ acts : List Act, ∃ after, scene.Runs (acts.map (task, ·)) after ∧
      acts.filterMap Act.event? = run.events ∧ after.holder = none ∧
      after.cache = cache ∧ after.conclusion? task = some conclusion
  /-- One request has been sent. -/
  asksOnce : exchanges run.events = [(.token provider.client.tokenRequest, delivery)]
  /-- One failed refresh is measured, and none after a panic. -/
  measured : measurements run.events = conclusion.failureMeasured
  /-- The series of failed refreshes grows by that, the one of successes does not. -/
  counted : ∀ earlier,
    let tally := Tally.ofMeasurements (earlier ++ measurements run.events)
    let before := Tally.ofMeasurements earlier
    tally.recorded (refreshTotalSeries false) =
        before.recorded (refreshTotalSeries false) + conclusion.failureMeasured.length ∧
      tally.recorded (refreshTotalSeries true) =
        before.recorded (refreshTotalSeries true)
  /-- Whoever asks next, no earlier, sends a request again. -/
  asksAgain : ∀ {ω' : Type} (surroundings : Surroundings ω') (world : ω'),
    began ≤ (surroundings.clock world).1 →
    ∃ delivery', exchanges (provider.token.run surroundings run.cache world).events =
      [(.token provider.client.tokenRequest, delivery')]

/-- Somebody asks for a token while the cache holds none that is valid.  If the refresh
fails, in any of the ways in which it can, the caller gets what belongs to that failure,
and nothing else is left of it.  If it does not fail, the caller gets a token. -/
theorem token_afterFailure
    (missed : ∀ token, cache = some token →
      ¬ token.IsValidAt (surroundings.clock world).1)
    (asks : surroundings.clock (looked surroundings cache world) = (fetchedAt, asked))
    (delivers : surroundings.exchange (.token provider.client.tokenRequest) asked =
      (delivery, later)) :
    let run := provider.token.run surroundings cache world
    (∀ conclusion, provider.RefreshFails fetchedAt delivery conclusion →
      provider.LeftByFailure (surroundings.clock world).1 cache delivery conclusion
        run) ∧
    ((∀ conclusion, ¬ provider.RefreshFails fetchedAt delivery conclusion) →
      ∃ token, run.conclusion = .finished (.ok token)) := by
  intro run
  obtain ⟨opening, misses, leaves⟩ := provider.run_token_of_missed missed
  constructor
  · intro conclusion fails
    have isRun : run = ⟨conclusion, cache, later, opening ++ .clockRead fetchedAt ::
        .exchanged (.token provider.client.tokenRequest) delivery ::
          (conclusion.failureMeasured.map .measured ++ [.unlocked cache])⟩ :=
      leaves _ (run_refresh_of_fails asks delivers fails)
    have measured : measurements run.events = conclusion.failureMeasured := by
      rw [isRun]
      exact misses.measurements_failed
    constructor
    case concludes => rw [isRun]
    case noToken => exact fails.ne_ok
    case unchanged => rw [isRun]
    case givesBack =>
      rw [isRun]
      exact misses.exists_between
    case free =>
      intro ι _ scene task stands free holds
      obtain ⟨acts, after, runs, happened, freeAfter, cacheAfter, ended⟩ :=
        provider.givesBack_token.exists_runs surroundings world stands free
      rw [holds] at happened cacheAfter ended
      refine ⟨acts, after, runs, happened, freeAfter, ?_, ?_⟩
      · exact cacheAfter.trans (congrArg Run.cache isRun)
      · exact ended.trans (congrArg (fun run => some run.conclusion) isRun)
    case asksOnce =>
      rw [isRun]
      exact misses.exchanges_failed
    case measured => exact measured
    case counted =>
      rw [measured]
      exact recorded_failureMeasured conclusion
    case asksAgain =>
      intro ω' surroundings' world' notEarlier
      rw [isRun]
      refine provider.exchanges_token_of_expired surroundings' world' ?_
      intro token cached
      exact Nat.le_trans (Nat.le_of_not_lt (missed token cached)) notEarlier
  · intro never
    rcases provider.refreshFails_or fetchedAt delivery with ⟨conclusion, fails⟩ |
      ⟨token, brings⟩
    · exact absurd fails (never conclusion)
    · refine ⟨token, ?_⟩
      have ends := provider.conclusion_run_token surroundings world missed
      simp only [asks, delivers] at ends
      exact ends.trans brings

end Runs

/-- The cached token has just expired, and the issuer answers 503, with a token in the
body. -/
theorem token_afterFailure_unavailable :
    let provider : TokenProvider := ⟨⟨"hcp", "secret", "http://issuer", none⟩, 30⟩
    let request : Request := .token provider.client.tokenRequest
    let old : AccessToken := ⟨"old", ⟨10⟩⟩
    let surroundings := Surroundings.scripted ⟨10⟩
    let text := "\x7b\"access_token\":\"t\",\"expires_in\":60\x7d"
    let body := Text.utf8Bytes text.toList
    let world : List ScriptedReply := [⟨some 503, .complete body⟩]
    let run := provider.token.run surroundings (some old) world
    (∀ token, some old = some token → ¬ token.IsValidAt (surroundings.clock world).1) ∧
      surroundings.clock (looked surroundings (some old) world) = (⟨10⟩, world) ∧
      surroundings.exchange request world = (.reply 503 (.complete body), []) ∧
      run.conclusion = .finished (.error (.refused 503 text)) ∧
      run.cache = some old ∧ measurements run.events = [.tokenRefresh false] ∧
      ∃ delivery, exchanges
        (provider.token.run surroundings run.cache run.world).events =
          [(request, delivery)] := by
  intro provider request old surroundings text body world run
  have missed : ∀ token, some old = some token →
      ¬ token.IsValidAt (surroundings.clock world).1 := by
    rintro _ ⟨⟩
    decide
  have delivers : surroundings.exchange request world =
      (.reply 503 (.complete body), []) := by
    decide +kernel
  have sameText : bodyText body = text := by
    decide +kernel
  have afterFailure := (provider.token_afterFailure missed rfl delivers).1
  have fails : provider.RefreshFails ⟨10⟩ (.reply 503 (.complete body))
      (.finished (.error (.refused 503 text))) := by
    rw [← sameText]
    exact .refused rfl
  have left := afterFailure _ fails
  exact ⟨missed, rfl, delivers, left.concludes, left.unchanged, left.measured,
    left.asksAgain surroundings run.world (Nat.le_refl 10)⟩

section Lifetimes

/-- A refresh ends with a token or a failure, unless the clock cannot represent the end
of the lifetime of a token that was granted. -/
theorem obtained_finished_iff (provider : TokenProvider) (fetchedAt : Instant)
    (delivery : Delivery) :
    (∃ result, provider.obtained fetchedAt delivery = .finished result) ↔
      ∀ status bytes response, delivery = .reply status (.complete bytes) →
        isSuccess status = true →
        Json.decode TokenResponse.reader (bodyText bytes) = .ok response →
        response.accessToken ≠ "" →
        fetchedAt.nanoseconds / nanosecondsPerSecond +
          (response.expiresIn - provider.leeway) ≤ Nat.pow 2 63 - 1 := by
  constructor
  · rintro ⟨result, finished⟩ status bytes response rfl success read named
    by_contra tooLong
    have tooLate : fetchedAt.after? (response.expiresIn - provider.leeway) = none :=
      if_neg tooLong
    have fails : provider.RefreshFails fetchedAt _ _ :=
      .overflow success read named tooLate
    cases fails.obtained_eq.symm.trans finished
  · intro inRange
    rcases provider.refreshFails_or fetchedAt delivery with ⟨conclusion, fails⟩ |
      ⟨token, brings⟩
    · rw [fails.obtained_eq]
      cases fails with
      | overflow success read named tooLate =>
          have inTime := inRange _ _ _ rfl success read named
          have represented : fetchedAt.after? _ = some _ := if_pos inTime
          cases tooLate.symm.trans represented
      | _ => exact ⟨_, rfl⟩
    · exact ⟨_, brings⟩

/-- Whatever is cached and whatever the issuer does, asking for a token ends with a
token or a failure exactly if no token is cached that is valid, or the issuer grants
none, or the clock can represent the end of the lifetime of the granted token: the
seconds of the clock and those of the lifetime, less the leeway, are together at most
the largest signed 64-bit number. -/
theorem token_finishes_iff {ω : Type} (provider : TokenProvider)
    (surroundings : Surroundings ω) (cache : Option AccessToken) (world : ω) :
    let asked := surroundings.clock (looked surroundings cache world)
    let delivered :=
      surroundings.exchange (.token provider.client.tokenRequest) asked.2
    (∃ result,
        (provider.token.run surroundings cache world).conclusion = .finished result) ↔
      ((∀ token, cache = some token →
          ¬ token.IsValidAt (surroundings.clock world).1) →
        ∀ status bytes response, delivered.1 = .reply status (.complete bytes) →
          isSuccess status = true →
          Json.decode TokenResponse.reader (bodyText bytes) = .ok response →
          response.accessToken ≠ "" →
          asked.1.nanoseconds / nanosecondsPerSecond +
            (response.expiresIn - provider.leeway) ≤ Nat.pow 2 63 - 1) := by
  intro asked delivered
  rw [← provider.obtained_finished_iff]
  by_cases missed : ∀ token, cache = some token →
      ¬ token.IsValidAt (surroundings.clock world).1
  · rw [provider.conclusion_run_token surroundings world missed]
    exact ⟨fun finished _ => finished, fun finished => finished missed⟩
  · push Not at missed
    obtain ⟨token, rfl, valid⟩ := missed
    refine iff_of_true ⟨.ok token, ?_⟩ fun missed => absurd valid (missed token rfl)
    simp only [token_steps, Plan.run, Run.after, valid, if_true]

/-- The issuer grants a token for the longest lifetime that a response can name. -/
theorem token_breaks_off :
    let provider : TokenProvider := ⟨⟨"hcp", "secret", "http://issuer", none⟩, 30⟩
    let bytes := Text.utf8Bytes
      "\x7b\"access_token\":\"t\",\"expires_in\":18446744073709551615\x7d".toList
    let surroundings := Surroundings.scripted ⟨0⟩
    let world : List ScriptedReply := [⟨some 200, .complete bytes⟩]
    isSuccess 200 = true ∧
      Json.decode TokenResponse.reader (bodyText bytes) =
        .ok ⟨"t", none, Nat.pow 2 64 - 1⟩ ∧
      surroundings.exchange (.token provider.client.tokenRequest) world =
        (.reply 200 (.complete bytes), []) ∧
      (provider.token.run surroundings none world).conclusion =
        .halted .clockOverflow := by
  decide +kernel

end Lifetimes

end TokenProvider

end ProbeLifecycle
