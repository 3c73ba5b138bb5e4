import ProbeLifecycle.Plan.Surroundings
import ProbeLifecycle.Proofs.Operations
import ProbeLifecycle.Proofs.TokenLedger
import ProbeLifecycle.Proofs.WebOperations

/-!
# Rejected tokens

All parts of a service share one client and so one token cache.  Whichever of
them is told that a token is not accepted, the next request to the probe service
carries a token that was obtained after that; and nothing else that the probe
service may answer leads to a token request before the token has expired.
-/

namespace ProbeLifecycle

namespace Service

variable {ω : Type} (surroundings : Surroundings ω) {client : ProbeClient}
  {provider : TokenProvider} (onlyPublicClusters : Bool) (deletionTimeout : Nat)

theorem makesAll_session (metricsKept : Bool) (state : SessionState ω)
    (steps : List Step) :
    let service := ofClient client onlyPublicClusters deletionTimeout
    let taken := service.session metricsKept surroundings state steps
    client.MakesAll state.cache (taken.1.flatMap StepReport.events)
      taken.2.cache := by
  induction steps generalizing state with
  | nil => exact .idle
  | cons next steps ih =>
      obtain ⟨procedure, isPlan⟩ :=
        exists_procedure onlyPublicClusters deletionTimeout
          (if metricsKept then some (Tally.ofMeasurements state.measured) else none)
          next
      obtain ⟨attempts, conducts⟩ :=
        procedure.conducts_run surroundings client state.cache state.world
      simp only [session, List.flatMap_cons]
      refine .append ?_ (ih _)
      simp only [step, ← isPlan client]
      exact conducts.makesAll

/-- The events of a session go with the one cache. -/
theorem custody_session (authenticated : client.provider = some provider)
    (metricsKept : Bool) (state : SessionState ω) (steps : List Step) :
    let service := ofClient client onlyPublicClusters deletionTimeout
    let taken := service.session metricsKept surroundings state steps
    provider.Custody state.cache (taken.1.flatMap StepReport.events)
      taken.2.cache :=
  (makesAll_session surroundings onlyPublicClusters deletionTimeout metricsKept
    state steps).custody authenticated

/-- In every session of a service whose client has a provider:

* between a reply by which the service refuses a token, whatever its body, and any
  later request to the service a token request is granted, and the later request
  carries a token that was granted there;
* a token request is made only when the cache holds no token that is valid at the
  reading of the clock just before, where nothing but granted token requests and
  replies that refuse a token have changed what it holds. -/
theorem session_tokens (authenticated : client.provider = some provider)
    (metricsKept : Bool) (state : SessionState ω) (steps : List Step) :
    let service := ofClient client onlyPublicClusters deletionTimeout
    let log := (service.session metricsKept surroundings state steps).1.flatMap
      StepReport.events
    (∀ before refused rejected between request delivery after,
      log = before ++ .exchanged (.api refused) rejected ::
        (between ++ .exchanged (.api request) delivery :: after) →
      rejected.status? = some unauthorizedStatus →
      ∃ asked granting response,
        .exchanged (.token asked) granting ∈ between ∧
          granting.grant = .ok response ∧
          request.bearer =
            some ⟨response.accessToken, provider.client.clientId⟩) ∧
      ∀ before asked delivery after,
        log = before ++ .exchanged (.token asked) delivery :: after →
        ∃ earlier opening fetchedAt,
          before = earlier ++ opening ++ [.clockRead fetchedAt] ∧
            TokenProvider.Misses (provider.heldAfter ⟨0⟩ state.cache before)
              opening := by
  intro service log
  have custody := custody_session surroundings onlyPublicClusters
    deletionTimeout authenticated metricsKept state steps
  constructor
  · intro before refused rejected between request delivery after cut refusal
    have cutAtRequest : log = (before ++ .exchanged (.api refused) rejected ::
        between) ++ .exchanged (.api request) delivery :: after := by
      rw [cut, List.append_assoc, List.cons_append]
    -- The refusal empties the cache, so what the request carries was granted after
    -- it.
    obtain ⟨token, holds, carries⟩ :=
      custody.grounded ⟨0⟩ cutAtRequest
    rw [provider.heldAfter_append,
      provider.heldAfter_refused _ refusal] at holds
    obtain ⟨fetchedAt, response, member, issued⟩ :=
      provider.exists_refreshed_of_held holds
    obtain ⟨-, asked, granting, made, granted⟩ := provider.mem_changes member
    refine ⟨asked, granting, response, made, granted, ?_⟩
    rw [carries, TokenProvider.eq_of_accessToken? issued]
  · intro before asked delivery after cut
    exact custody.grounded ⟨0⟩ cut

/-- A lookup is refused in a reply that breaks off; the deletion after it obtains
another token. -/
theorem session_tokens_refused :
    let provider : TokenProvider := ⟨⟨"hcp", "secret", "http://issuer", none⟩, 0⟩
    let client : ProbeClient :=
      ⟨⟨{ scheme := .http, host := "probes" }, "hcp"⟩, some provider⟩
    let grant (token : String) : ScriptedReply :=
      ⟨some 200, .complete (Text.utf8Bytes ("\x7b\"access_token\":\"" ++ token ++
        "\",\"expires_in\":60\x7d").toList)⟩
    let state : SessionState (List ScriptedReply) :=
      { world := [grant "t1", ⟨some 401, .truncated⟩, grant "t2", ⟨some 404,
        .complete []⟩] }
    let steps := [Step.get "c1", .delete "c2"]
    let log := ((ofClient client false 900).session false (.scripted ⟨0⟩) state
      steps).1.flatMap StepReport.events
    let refused := client.apiRequest (.lookup "c1") (some ⟨"t1", "hcp"⟩)
    let request := client.apiRequest (.lookup "c2") (some ⟨"t2", "hcp"⟩)
    let between := (log.drop 6).take 8
    client.provider = some provider ∧
      log = log.take 5 ++ .exchanged (.api refused) (.reply 401 .truncated) ::
        (between ++ .exchanged (.api request) (.reply 404 (.complete [])) ::
          log.drop 15) ∧
      ∃ asked granting response,
        .exchanged (.token asked) granting ∈ between ∧
          granting.grant = .ok response ∧
          request.bearer = some ⟨response.accessToken, "hcp"⟩ := by
  intro provider client grant state steps log refused request between
  have cut : log = log.take 5 ++
      .exchanged (.api refused) (.reply 401 .truncated) ::
        (between ++ .exchanged (.api request) (.reply 404 (.complete [])) ::
          log.drop 15) := by
    decide +kernel
  have renewed := (session_tokens (.scripted ⟨0⟩) false 900
    (show client.provider = some provider from rfl) false state steps).1
  exact ⟨rfl, cut, renewed _ _ _ _ _ _ _ cut rfl⟩

end Service

end ProbeLifecycle
