import ProbeLifecycle.Proofs.LookupSelection

/-!
# Probes of other clusters

A lookup makes no difference between listings that differ in probes of other clusters
only, wherever these stand.  Two runs in surroundings that are alike up to such
probes therefore ask the same, measure the same and come to the same result.
-/

namespace ProbeLifecycle

open ProbeClient

/-- A listing becomes another by inserting, removing and moving probes of other
clusters. -/
inductive Rearranged (clusterId : String) : List Probe → List Probe → Prop where
  | same {probes : List Probe} : Rearranged clusterId probes probes
  | inserted {first before after : List Probe} {probe : Probe}
      (foreign : probe.cluster? ≠ some clusterId)
      (earlier : Rearranged clusterId first (before ++ after)) :
      Rearranged clusterId first (before ++ probe :: after)
  | removed {first before after : List Probe} {probe : Probe}
      (foreign : probe.cluster? ≠ some clusterId)
      (earlier : Rearranged clusterId first (before ++ probe :: after)) :
      Rearranged clusterId first (before ++ after)
  | moved {first before between after : List Probe} {probe : Probe}
      (foreign : probe.cluster? ≠ some clusterId)
      (earlier : Rearranged clusterId first (before ++ probe :: between ++ after)) :
      Rearranged clusterId first (before ++ between ++ probe :: after)
  | movedBack {first before between after : List Probe} {probe : Probe}
      (foreign : probe.cluster? ≠ some clusterId)
      (earlier : Rearranged clusterId first (before ++ between ++ probe :: after)) :
      Rearranged clusterId first (before ++ probe :: between ++ after)

section Listings

variable {clusterId : String} {first second : List Probe}

theorem matching_cons_of_foreign {probe : Probe} {probes : List Probe}
    (foreign : probe.cluster? ≠ some clusterId) :
    matching clusterId (probe :: probes) = matching clusterId probes := by
  unfold matching
  rw [List.filter_cons_of_neg (by simpa using foreign)]

@[simp]
theorem matching_append (probes others : List Probe) :
    matching clusterId (probes ++ others) =
      matching clusterId probes ++ matching clusterId others :=
  List.filter_append probes others

theorem Rearranged.matching_eq (rearranged : Rearranged clusterId first second) :
    matching clusterId first = matching clusterId second := by
  induction rearranged with
  | same => rfl
  | inserted foreign earlier ih => simp [ih, matching_cons_of_foreign foreign]
  | removed foreign earlier ih => simp [ih, matching_cons_of_foreign foreign]
  | moved foreign earlier ih => simp [ih, matching_cons_of_foreign foreign]
  | movedBack foreign earlier ih => simp [ih, matching_cons_of_foreign foreign]

theorem Rearranged.trans {third : List Probe}
    (rearranged : Rearranged clusterId first second)
    (later : Rearranged clusterId second third) :
    Rearranged clusterId first third := by
  induction later with
  | same => exact rearranged
  | inserted foreign earlier ih => exact .inserted foreign ih
  | removed foreign earlier ih => exact .removed foreign ih
  | moved foreign earlier ih => exact .moved foreign ih
  | movedBack foreign earlier ih => exact .movedBack foreign ih

/-- Every listing can be rearranged to just the probes of the cluster, after what
is kept before it. -/
theorem rearranged_matching (before probes : List Probe) :
    Rearranged clusterId (before ++ probes)
      (before ++ matching clusterId probes) := by
  induction probes generalizing before with
  | nil => exact .same
  | cons probe probes ih =>
      by_cases foreign : probe.cluster? = some clusterId
      · have kept : matching clusterId (probe :: probes) =
            probe :: matching clusterId probes := by
          simp [matching, foreign]
        have rest := ih (before ++ [probe])
        rwa [List.append_assoc, List.append_assoc, List.singleton_append,
          List.singleton_append, ← kept] at rest
      · rw [matching_cons_of_foreign foreign]
        exact (Rearranged.removed foreign .same).trans (ih before)

theorem matching_rearranged (before probes : List Probe) :
    Rearranged clusterId (before ++ matching clusterId probes)
      (before ++ probes) := by
  induction probes generalizing before with
  | nil => exact .same
  | cons probe probes ih =>
      by_cases foreign : probe.cluster? = some clusterId
      · have kept : matching clusterId (probe :: probes) =
            probe :: matching clusterId probes := by
          simp [matching, foreign]
        have rest := ih (before ++ [probe])
        rwa [List.append_assoc, List.append_assoc, List.singleton_append,
          List.singleton_append, ← kept] at rest
      · rw [matching_cons_of_foreign foreign]
        exact .inserted foreign (ih before)

/-- Listings can be rearranged into each other exactly if they have the same probes
of the cluster in the same order. -/
theorem rearranged_iff :
    Rearranged clusterId first second ↔
      matching clusterId first = matching clusterId second := by
  constructor
  · exact Rearranged.matching_eq
  · intro equal
    have down : Rearranged clusterId first (matching clusterId first) :=
      rearranged_matching [] first
    have up : Rearranged clusterId (matching clusterId second) second :=
      matching_rearranged [] second
    exact down.trans (equal ▸ up)

end Listings

/-- Two deliveries between which a lookup makes no difference: they are the same, or
they bring listings that can be rearranged into each other. -/
inductive Delivery.ListsAlike (clusterId : String) : Delivery → Delivery → Prop where
  | same (delivery : Delivery) : ListsAlike clusterId delivery delivery
  | rearranged {status : Nat} {bytes others : List UInt8} {first second : List Probe}
      (success : isSuccess status = true)
      (read : Json.decode readListing (bodyText bytes) = .ok first)
      (readToo : Json.decode readListing (bodyText others) = .ok second)
      (rearranged : Rearranged clusterId first second) :
      ListsAlike clusterId (.reply status (.complete bytes))
        (.reply status (.complete others))

/-- Two surroundings that tell the same time, grant the same tokens and answer alike
as long as their worlds are alike. -/
structure Surroundings.ListsAlike {ω ω' : Type} (clusterId : String)
    (alike : ω → ω' → Prop) (surroundings : Surroundings ω)
    (others : Surroundings ω') : Prop where
  clock : ∀ world other, alike world other →
    (surroundings.clock world).1 = (others.clock other).1 ∧
      alike (surroundings.clock world).2 (others.clock other).2
  token : ∀ request world other, alike world other →
    (surroundings.deliver (.token request) world).1 =
        (others.deliver (.token request) other).1 ∧
      alike (surroundings.deliver (.token request) world).2
        (others.deliver (.token request) other).2
  service : ∀ request world other, alike world other →
    (surroundings.deliver (.api request) world).1.ListsAlike clusterId
        (others.deliver (.api request) other).1 ∧
      alike (surroundings.deliver (.api request) world).2
        (others.deliver (.api request) other).2

/-- Two runs that come to the same, ask the same and measure the same. -/
structure Run.Alike {ω ω' α : Type} (alike : ω → ω' → Prop) (run : Run ω α)
    (other : Run ω' α) : Prop where
  conclusion : run.conclusion = other.conclusion
  cache : run.cache = other.cache
  world : alike run.world other.world
  requests : (exchanges run.events).map Prod.fst = (exchanges other.events).map Prod.fst
  measured : measurements run.events = measurements other.events

/-- A plan goes on in the same way after replies of the service that list alike. -/
def Plan.Overlooks {α : Type} (clusterId : String) : Plan α → Prop
  | .done _ => True
  | .halt _ => True
  | .lock next => ∀ cached, (next cached).Overlooks clusterId
  | .unlock _ next => next.Overlooks clusterId
  | .clock next => ∀ now, (next now).Overlooks clusterId
  | .exchange (.token _) next => ∀ delivery, (next delivery).Overlooks clusterId
  | .exchange (.api _) next =>
      (∀ delivery, (next delivery).Overlooks clusterId) ∧
        ∀ delivery other, delivery.ListsAlike clusterId other →
          next delivery = next other
  | .measure _ next => next.Overlooks clusterId

section Runs

variable {ω ω' α β : Type} {clusterId : String} {alike : ω → ω' → Prop}
  {surroundings : Surroundings ω} {others : Surroundings ω'}

theorem Run.Alike.after {run : Run ω α} {other : Run ω' α}
    (runs : run.Alike alike other) {event otherEvent : Event}
    (requests : (exchanges [event]).map Prod.fst =
      (exchanges [otherEvent]).map Prod.fst)
    (measured : measurements [event] = measurements [otherEvent]) :
    (run.after event).Alike alike (other.after otherEvent) := by
  have split : ∀ (event : Event) (events : List Event),
      event :: events = [event] ++ events := fun _ _ => rfl
  constructor
  · exact runs.conclusion
  · exact runs.cache
  · exact runs.world
  · rw [Run.after, Run.after, split event, split otherEvent, exchanges_append,
      exchanges_append, List.map_append, List.map_append, requests, runs.requests]
  · rw [Run.after, Run.after, split event, split otherEvent, measurements_append,
      measurements_append, measured, runs.measured]

theorem Surroundings.ListsAlike.exchange_token
    (listsAlike : surroundings.ListsAlike clusterId alike others)
    (request : TokenRequest) {world : ω} {other : ω'} (worlds : alike world other) :
    (surroundings.exchange (.token request) world).1 =
        (others.exchange (.token request) other).1 ∧
      alike (surroundings.exchange (.token request) world).2
        (others.exchange (.token request) other).2 := by
  unfold exchange
  split
  · exact listsAlike.token request world other worlds
  · exact ⟨rfl, worlds⟩

theorem Surroundings.ListsAlike.exchange_api
    (listsAlike : surroundings.ListsAlike clusterId alike others)
    (request : ApiRequest) {world : ω} {other : ω'} (worlds : alike world other) :
    (surroundings.exchange (.api request) world).1.ListsAlike clusterId
        (others.exchange (.api request) other).1 ∧
      alike (surroundings.exchange (.api request) world).2
        (others.exchange (.api request) other).2 := by
  unfold exchange
  split
  · exact listsAlike.service request world other worlds
  · exact ⟨.same _, worlds⟩

/-- Surroundings that list alike are met alike by every plan that overlooks the
difference. -/
theorem Surroundings.ListsAlike.run
    (listsAlike : surroundings.ListsAlike clusterId alike others) {plan : Plan α}
    (overlooks : plan.Overlooks clusterId) (cache : Option AccessToken)
    {world : ω} {other : ω'} (worlds : alike world other) :
    (plan.run surroundings cache world).Alike alike
      (plan.run others cache other) := by
  induction plan generalizing cache world other with
  | done value => exact ⟨rfl, rfl, worlds, rfl, rfl⟩
  | halt cause => exact ⟨rfl, rfl, worlds, rfl, rfl⟩
  | lock next ih => exact (ih cache (overlooks cache) cache worlds).after rfl rfl
  | unlock cached next ih => exact (ih overlooks cached worlds).after rfl rfl
  | clock next ih =>
      obtain ⟨sameTime, later⟩ := listsAlike.clock world other worlds
      simp only [Plan.run, ← sameTime]
      exact (ih _ (overlooks _) cache later).after rfl rfl
  | measure measurement next ih => exact (ih overlooks cache worlds).after rfl rfl
  | exchange request next ih =>
      cases request with
      | token request =>
          obtain ⟨sameGrant, later⟩ := listsAlike.exchange_token request worlds
          simp only [Plan.run, ← sameGrant]
          exact (ih _ (overlooks _) cache later).after rfl rfl
      | api request =>
          obtain ⟨overlooksNext, sameNext⟩ := overlooks
          obtain ⟨answers, later⟩ := listsAlike.exchange_api request worlds
          simp only [Plan.run, ← sameNext _ _ answers]
          exact (ih _ (overlooksNext _) cache later).after rfl rfl

end Runs

section Lookups

variable {α β : Type} {clusterId : String}

theorem Plan.overlooks_bind {plan : Plan α} {next : α → Plan β}
    (overlooks : plan.Overlooks clusterId)
    (overlooksNext : ∀ value, (next value).Overlooks clusterId) :
    (plan.bind next).Overlooks clusterId := by
  induction plan with
  | done value => exact overlooksNext value
  | halt cause => trivial
  | lock rest ih => exact fun cached => ih cached (overlooks cached)
  | unlock cached rest ih => exact ih overlooks
  | clock rest ih => exact fun now => ih now (overlooks now)
  | measure measurement rest ih => exact ih overlooks
  | exchange request rest ih =>
      cases request with
      | token request => exact fun delivery => ih delivery (overlooks delivery)
      | api request =>
          obtain ⟨overlooksRest, sameRest⟩ := overlooks
          refine ⟨fun delivery => ih delivery (overlooksRest delivery), ?_⟩
          intro delivery other answers
          change (rest delivery).bind next = (rest other).bind next
          rw [sameRest delivery other answers]

theorem overlooks_token (provider : TokenProvider) :
    provider.token.Overlooks clusterId := by
  have overlooks_refresh : ∀ cached, (provider.refresh cached).Overlooks clusterId := by
    intro cached
    rw [TokenProvider.refresh_steps]
    intro fetchedAt delivery
    dsimp only
    cases delivery.grant with
    | error error => trivial
    | ok response =>
        dsimp only
        cases provider.accessToken? fetchedAt response with
        | none => trivial
        | some token => trivial
  rw [TokenProvider.token_steps]
  intro cached
  cases cached with
  | none => exact overlooks_refresh none
  | some token =>
      intro now
      dsimp only
      split
      · trivial
      · exact overlooks_refresh (some token)

theorem overlooks_bearer (client : ProbeClient) :
    client.bearer.run.Overlooks clusterId := by
  rw [bearer_steps]
  cases client.provider with
  | none => trivial
  | some provider =>
      refine Plan.overlooks_bind (overlooks_token provider) ?_
      intro provided
      cases provided with
      | ok token => trivial
      | error error => trivial

theorem overlooks_dropRefusedToken (client : ProbeClient) (delivery : Delivery) :
    (client.dropRefusedToken delivery).Overlooks clusterId := by
  unfold dropRefusedToken
  split
  · exact fun cached => trivial
  · trivial

theorem Delivery.ListsAlike.status?_eq {delivery other : Delivery}
    (answers : delivery.ListsAlike clusterId other) :
    delivery.status? = other.status? := by
  cases answers with
  | same => rfl
  | rearranged success read readToo rearranged => rfl

/-- From listings that can be rearranged into each other a lookup learns the same. -/
theorem Delivery.ListsAlike.found_eq {delivery other : Delivery}
    (answers : delivery.ListsAlike clusterId other) :
    delivery.answer.bind (foundProbes clusterId) =
      other.answer.bind (foundProbes clusterId) := by
  cases answers with
  | same => rfl
  | @rearranged status bytes others first second success read readToo rearranged =>
      have known : status ≠ notFoundStatus :=
        @status_ne_notFound ⟨status, bodyText bytes⟩ success
      have found : ∀ {bytes listed},
          Json.decode readListing (bodyText bytes) = .ok listed →
            foundProbes clusterId ⟨status, bodyText bytes⟩ =
              .ok (matching clusterId listed) := by
        intro bytes listed read
        simp [foundProbes, known, success, decodeReply, read, Except.map]
      change foundProbes clusterId ⟨status, bodyText bytes⟩ =
        foundProbes clusterId ⟨status, bodyText others⟩
      rw [found read, found readToo, rearranged.matching_eq]

theorem overlooks_settleFound (client : ProbeClient)
    (found : Except ProbeError (List Probe)) :
    ((Procedure.settleFound found).plan client).Overlooks clusterId := by
  unfold Procedure.settleFound
  split
  · trivial
  · trivial

/-- A lookup overlooks probes of other clusters. -/
theorem overlooks_getProbe (client : ProbeClient) :
    (client.getProbe clusterId).run.Overlooks clusterId := by
  rw [← Procedure.plan_lookup, Procedure.lookup, Procedure.plan, execute_steps,
    Plan.bind_assoc]
  refine Plan.overlooks_bind (overlooks_bearer client) ?_
  intro obtained
  cases obtained with
  | error error => exact overlooks_settleFound client _
  | ok bearer =>
      constructor
      · intro delivery
        exact Plan.overlooks_bind
          (Plan.overlooks_bind (overlooks_dropRefusedToken client delivery)
            fun _ => trivial)
          fun _ => overlooks_settleFound client _
      · intro delivery other answers
        simp only [Plan.bind_assoc, Plan.bind]
        rw [answers.found_eq, dropRefusedToken, dropRefusedToken, answers.status?_eq]

end Lookups

/-- A lookup selects the first probe of the cluster, counts once if there are several,
and takes no notice of others. -/
theorem getProbe_selectsFirst (client : ProbeClient) (clusterId : String)
    (cache : Option AccessToken) :
    (∀ (ω : Type) (surroundings : Surroundings ω) (world : ω),
      SelectsFirst client clusterId
        ((client.getProbe clusterId).run.run surroundings cache world)) ∧
    ∀ (ω ω' : Type) (alike : ω → ω' → Prop) (surroundings : Surroundings ω)
      (others : Surroundings ω') (world : ω) (other : ω'),
      surroundings.ListsAlike clusterId alike others → alike world other →
        ((client.getProbe clusterId).run.run surroundings cache world).Alike alike
          ((client.getProbe clusterId).run.run others cache other) := by
  constructor
  · intro ω surroundings world
    exact selectsFirst_run surroundings client clusterId cache world
  · intro ω ω' alike surroundings others world other listsAlike worlds
    exact listsAlike.run (overlooks_getProbe client) cache worlds

/-- The issuer grants a token for longer than the clock can count, and the lookup ends
neither with what the service would have said nor with an error. -/
theorem lookup_breaks_off :
    let provider : TokenProvider := ⟨⟨"hcp", "secret", "http://issuer", none⟩, 30⟩
    let client : ProbeClient :=
      ⟨⟨{ scheme := .http, host := "probes" }, "hcp"⟩, some provider⟩
    let grant := Text.utf8Bytes
      "\x7b\"access_token\":\"t\",\"expires_in\":18446744073709551615\x7d".toList
    let replies : List ScriptedReply :=
      [⟨some 200, .complete grant⟩, ⟨some 404, .complete []⟩]
    let run := (client.getProbe "c1").run.run (.scripted ⟨0⟩) none replies
    exchanges run.events =
        [(.token provider.client.tokenRequest, .reply 200 (.complete grant))] ∧
      (∀ reply, ¬ RepliesOnce (exchanges run.events) reply) ∧
      ∀ result, run.conclusion ≠ .finished result := by
  intro provider client grant replies run
  have exchanged : exchanges run.events =
      [(.token provider.client.tokenRequest, .reply 200 (.complete grant))] := by
    decide +kernel
  have broken : run.conclusion = .halted .clockOverflow := by decide +kernel
  refine ⟨exchanged, fun reply => ?_, fun result finished => ?_⟩
  · rw [exchanged]
    simp [RepliesOnce, serviceReplies]
  · cases broken.symm.trans finished

/-- Surroundings in which the issuer grants a token and the service always answers with
the same text. -/
def Surroundings.answering (text : List Char) : Surroundings Unit where
  clock world := (⟨0⟩, world)
  deliver request world :=
    match request with
    | .token _ =>
        (.reply 200 (.complete (Text.utf8Bytes
          "\x7b\"access_token\":\"t\",\"expires_in\":60\x7d".toList)), world)
    | .api _ => (.reply 200 (.complete (Text.utf8Bytes text)), world)

/-- Of two probes of a cluster the first is found among probes of others too. -/
theorem getProbe_selectsFirst_amongOthers :
    let client : ProbeClient :=
      ⟨⟨{ scheme := .http, host := "probes" }, "hcp"⟩,
        some ⟨⟨"hcp", "secret", "http://issuer", none⟩, 30⟩⟩
    let first := "\x7b\"id\":\"p\",\"cluster_id\":\"c1\"\x7d".toList
    let second := "\x7b\"cluster_id\":\"c1\"\x7d".toList
    let foreign := "\x7b\"id\":\"q\"\x7d".toList
    let listing := fun (probes : List (List Char)) =>
      "\x7b\"probes\":[".toList ++ [','].intercalate probes ++ "]\x7d".toList
    let quiet := Surroundings.answering (listing [first, second])
    let crowded := Surroundings.answering (listing [foreign, first, foreign, second])
    let lookup {ω : Type} (surroundings : Surroundings ω) (world : ω) :=
      (client.getProbe "c1").run.run surroundings none world
    quiet.ListsAlike "c1" (fun _ _ => True) crowded ∧
      (lookup quiet ()).Alike (fun _ _ => True) (lookup crowded ()) ∧
      SelectsFirst client "c1" (lookup crowded ()) ∧
      (lookup crowded ()).conclusion =
        .finished (.ok (some { id := "p", clusterId := "c1" })) ∧
      (measurements (lookup crowded ()).events).count .duplicateProbes = 1 := by
  intro client first second foreign listing quiet crowded lookup
  have rearranged : Rearranged "c1" [{ id := "p", clusterId := "c1" }, { clusterId := "c1" }]
      [{ id := "q" }, { id := "p", clusterId := "c1" }, { id := "q" },
        { clusterId := "c1" }] :=
    rearranged_iff.mpr (by decide)
  have listsAlike : quiet.ListsAlike "c1" (fun _ _ => True) crowded := {
    clock := fun _ _ _ => ⟨rfl, trivial⟩
    token := fun _ _ _ _ => ⟨rfl, trivial⟩
    service := fun _ _ _ _ =>
      ⟨.rearranged rfl (by decide +kernel) (by decide +kernel) rearranged, trivial⟩ }
  obtain ⟨selects, alike⟩ := getProbe_selectsFirst client "c1" none
  exact ⟨listsAlike, alike _ _ _ _ _ _ _ listsAlike trivial, selects _ _ _,
    by decide +kernel, by decide +kernel⟩

end ProbeLifecycle
