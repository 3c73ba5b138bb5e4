import ProbeLifecycle.Proofs.TokenCache
import ProbeLifecycle.Proofs.TokenVisits

/-!
# One refresh for all who wait

Any number of callers ask one provider for a token, side by side.  They get the cache
in turns.  As long as no turn has brought a token, each caller makes a request of its
own and gets what becomes of it.  A token that is obtained is stored, and whoever gets
the cache before it expires is handed that token and sends nothing.
-/

namespace ProbeLifecycle

/-- A caller's turn at the cache: what happens in it, and what the caller gets. -/
structure TokenTurn (ι : Type) where
  caller : ι
  events : List Event
  conclusion : Conclusion (Except TokenError AccessToken)
  deriving DecidableEq

namespace TokenTurn

variable {ι : Type}

def happenings (turn : TokenTurn ι) : List (ι × Event) :=
  turn.events.map (turn.caller, ·)

def Obtains (turn : TokenTurn ι) (token : AccessToken) : Prop :=
  turn.conclusion = .finished (.ok token)

/-- The turn ends by leaving this in the cache. -/
def Leaves (turn : TokenTurn ι) (cached : Option AccessToken) : Prop :=
  turn.events.getLast? = some (.unlocked cached)

/-- The clock shows an earlier time when it is first read with the lock taken. -/
def BeginsBefore (turn : TokenTurn ι) (expiry : Instant) : Prop :=
  ∃ now, (clockReadings turn.events).head? = some now ∧ now < expiry

def MakesRequest (provider : TokenProvider) (turn : TokenTurn ι) : Prop :=
  ∃ before fetchedAt delivery after,
    turn.events = before ++ .clockRead fetchedAt ::
      .exchanged (.token provider.client.tokenRequest) delivery :: after ∧
    exchanges before = [] ∧ exchanges after = [] ∧
    turn.conclusion = provider.obtained fetchedAt delivery

theorem map_happenings (turns : List (TokenTurn ι)) :
    (turns.flatMap happenings).map (·.2) = turns.flatMap events := by
  simp [happenings, List.map_flatMap, Function.comp_def]

theorem exchanges_of_makesRequest {provider : TokenProvider} {turn : TokenTurn ι}
    (makes : turn.MakesRequest provider) :
    ∃ delivery, exchanges turn.events =
      [(.token provider.client.tokenRequest, delivery)] := by
  obtain ⟨before, fetchedAt, delivery, after, happened, quiet, quietAfter, -⟩ := makes
  refine ⟨delivery, ?_⟩
  simp [happened, quiet, quietAfter]

end TokenTurn

namespace TokenProvider

variable (provider : TokenProvider) {ι : Type}

inductive TakesTurns : Option AccessToken → List (TokenTurn ι) → Option AccessToken →
    Prop where
  | nobody {cache : Option AccessToken} : TakesTurns cache [] cache
  | turn {cache middle later : Option AccessToken} {turn : TokenTurn ι}
      {turns : List (TokenTurn ι)}
      (provides : provider.Provides cache turn.events turn.conclusion middle)
      (rest : TakesTurns middle turns later) : TakesTurns cache (turn :: turns) later

section Turns

variable {provider} {cache middle later : Option AccessToken}
  {turn : TokenTurn ι} {turns : List (TokenTurn ι)}

theorem TakesTurns.concat (before : provider.TakesTurns cache turns middle)
    (provides : provider.Provides middle turn.events turn.conclusion later) :
    provider.TakesTurns cache (turns ++ [turn]) later := by
  induction before with
  | nobody => exact .turn provides .nobody
  | turn first rest ih => exact .turn first (ih provides)

theorem TakesTurns.split {earlier others : List (TokenTurn ι)}
    (takesTurns : provider.TakesTurns cache (earlier ++ turn :: others) later) :
    ∃ before after, provider.TakesTurns cache earlier before ∧
      provider.Provides before turn.events turn.conclusion after ∧
      provider.TakesTurns after others later := by
  induction earlier generalizing cache with
  | nil =>
      cases takesTurns with
      | turn provides rest => exact ⟨cache, _, .nobody, provides, rest⟩
  | cons first earlier ih =>
      cases takesTurns with
      | turn provides rest =>
          obtain ⟨before, after, takesTurns, asked, rest⟩ := ih rest
          exact ⟨before, after, .turn provides takesTurns, asked, rest⟩

/-- Whoever gets no token leaves the cache as it was. -/
theorem Provides.eq_of_not_obtains
    (provides : provider.Provides cache turn.events turn.conclusion later)
    (fails : ∀ token, ¬ turn.Obtains token) : later = cache := by
  unfold TokenTurn.Obtains at fails
  generalize turn.events = events at provides
  generalize turn.conclusion = conclusion at provides fails
  cases provides with
  | reused valid => exact absurd rfl (fails _)
  | refused misses refusal => rfl
  | overflowed misses granted overflow => rfl
  | refreshed misses granted issued => exact absurd rfl (fails _)

theorem TakesTurns.eq_of_not_obtains
    (takesTurns : provider.TakesTurns cache turns later)
    (fail : ∀ turn ∈ turns, ∀ token, ¬ turn.Obtains token) : later = cache := by
  induction takesTurns with
  | nobody => rfl
  | turn provides rest ih =>
      rw [ih fun turn member => fail turn (List.mem_cons_of_mem _ member)]
      exact provides.eq_of_not_obtains (fail _ List.mem_cons_self)

/-- The token that a caller gets is in the cache when the caller leaves it. -/
theorem Provides.leaves {token : AccessToken}
    (provides : provider.Provides cache turn.events turn.conclusion later)
    (obtains : turn.Obtains token) : later = some token ∧ turn.Leaves (some token) := by
  unfold TokenTurn.Obtains at obtains
  unfold TokenTurn.Leaves
  rw [obtains] at provides
  generalize turn.events = events at provides
  cases provides with
  | reused valid => exact ⟨rfl, rfl⟩
  | refreshed misses granted issued => exact ⟨rfl, by simp⟩

theorem Provides.makesRequest
    (provides : provider.Provides cache turn.events turn.conclusion later)
    (stale : ∀ token, cache = some token →
      ∀ now ∈ clockReadings turn.events, token.expiresAt ≤ now) :
    turn.MakesRequest provider := by
  rcases provides.outcome with ⟨token, now, valid, rfl, -, -, happened⟩ |
    ⟨opening, fetchedAt, delivery, closing, misses, happened, quiet, brings⟩
  · rw [happened] at stale
    exact absurd valid (Nat.not_lt_of_le (stale token rfl now List.mem_cons_self))
  · exact ⟨opening, fetchedAt, delivery, closing, happened,
      ProbeClient.exchanges_misses misses, quiet, brings⟩

/-- Whoever finds a token reuses it, or has looked at the clock no earlier than it
expired. -/
theorem Provides.reuses_or {token : AccessToken} {events : List Event}
    {conclusion : Conclusion (Except TokenError AccessToken)}
    (provides : provider.Provides (some token) events conclusion later) :
    (conclusion = .finished (.ok token) ∧ exchanges events = [] ∧
        later = some token) ∨
      ∃ now, (clockReadings events).head? = some now ∧ token.expiresAt ≤ now := by
  rcases provides.outcome with ⟨_, now, -, ⟨⟩, reused, brings, happened⟩ |
    ⟨opening, fetchedAt, delivery, closing, misses, happened, -, -⟩
  · rw [happened]
    exact .inl ⟨brings, rfl, reused⟩
  · rw [happened]
    cases misses with
    | expired invalid => exact .inr ⟨_, rfl, Nat.le_of_not_lt invalid⟩

theorem mem_clockReadings {now : Instant} (member : turn ∈ turns)
    (reads : now ∈ clockReadings turn.events) :
    now ∈ clockReadings (turns.flatMap TokenTurn.events) := by
  obtain ⟨event, inTurn, isReading⟩ := List.mem_filterMap.mp reads
  exact List.mem_filterMap.mpr
    ⟨event, List.mem_flatMap.mpr ⟨turn, member, inTurn⟩, isReading⟩

/-- While the clock does not go back, whoever gets the cache before the token in it
expires is handed that token and sends nothing. -/
theorem TakesTurns.reuses {token : AccessToken}
    (takesTurns : provider.TakesTurns (some token) turns later)
    (steady : (clockReadings (turns.flatMap TokenTurn.events)).Pairwise (· ≤ ·))
    (member : turn ∈ turns) (inTime : turn.BeginsBefore token.expiresAt) :
    turn.Obtains token ∧ exchanges turn.events = [] := by
  obtain ⟨begins, isFirst, early⟩ := inTime
  induction turns with
  | nil => cases member
  | cons first turns ih =>
      rw [List.flatMap_cons, clockReadings_append, List.pairwise_append] at steady
      obtain ⟨-, steadyRest, steadyPair⟩ := steady
      cases takesTurns with
      | turn provides rest =>
          rcases provides.reuses_or with ⟨obtains, quiet, rfl⟩ |
            ⟨now, isFirstNow, expired⟩
          · rcases List.mem_cons.mp member with rfl | inRest
            · exact ⟨obtains, quiet⟩
            · exact ih rest steadyRest inRest
          · -- The clock has passed the expiry, so nobody begins in time any more.
            exfalso
            have notLater : now ≤ begins := by
              rcases List.mem_cons.mp member with rfl | inRest
              · cases isFirstNow.symm.trans isFirst
                exact Nat.le_refl _
              · refine steadyPair now (List.mem_of_mem_head? isFirstNow) begins ?_
                exact mem_clockReadings inRest (List.mem_of_mem_head? isFirst)
            exact absurd early
              (Nat.not_lt_of_le (Nat.le_trans expired notLater))

section Steady

variable {began : Instant}
  (takesTurns : provider.TakesTurns cache turns later)
  (steady : (began :: clockReadings (turns.flatMap TokenTurn.events)).Pairwise (· ≤ ·))

include takesTurns steady

/-- As long as nobody has got a token, everybody makes a request. -/
theorem TakesTurns.makesRequest {earlier others : List (TokenTurn ι)}
    (stale : ∀ token, cache = some token → token.expiresAt ≤ began)
    (isSplit : turns = earlier ++ turn :: others)
    (fail : ∀ other ∈ earlier, ∀ token, ¬ other.Obtains token) :
    turn.MakesRequest provider := by
  subst isSplit
  obtain ⟨before, after, takesBefore, provides, -⟩ := takesTurns.split
  rw [takesBefore.eq_of_not_obtains fail] at provides
  refine provides.makesRequest ?_
  intro token holds now reads
  have member : turn ∈ earlier ++ turn :: others := by simp
  have reading := mem_clockReadings member reads
  exact Nat.le_trans (stale token holds) (List.rel_of_pairwise_cons steady reading)

/-- A token that somebody has got is left in the cache, and handed out as long as it
has not expired. -/
theorem TakesTurns.handsOut {earlier others : List (TokenTurn ι)} {token : AccessToken}
    (isSplit : turns = earlier ++ turn :: others) (obtains : turn.Obtains token) :
    turn.Leaves (some token) ∧
      ∀ other ∈ others, other.BeginsBefore token.expiresAt →
        other.Obtains token ∧ exchanges other.events = [] := by
  subst isSplit
  obtain ⟨before, after, -, provides, takesAfter⟩ := takesTurns.split
  obtain ⟨rfl, leaves⟩ := provides.leaves obtains
  refine ⟨leaves, fun other member inTime => takesAfter.reuses ?_ member inTime⟩
  rw [List.flatMap_append, List.flatMap_cons, clockReadings_append,
    clockReadings_append] at steady
  exact (List.pairwise_append.mp
    (List.pairwise_append.mp (List.pairwise_cons.mp steady).2).2.1).2.1

/-- If the first token outlasts all turns, one request is made. -/
theorem TakesTurns.requestsOnce {first : TokenTurn ι} {others : List (TokenTurn ι)}
    {token : AccessToken}
    (stale : ∀ token, cache = some token → token.expiresAt ≤ began)
    (isSplit : turns = first :: others) (obtains : first.Obtains token)
    (inTime : ∀ other ∈ others, other.BeginsBefore token.expiresAt) :
    ∃ delivery, exchanges (turns.flatMap TokenTurn.events) =
      [(.token provider.client.tokenRequest, delivery)] := by
  have isFirst : turns = [] ++ first :: others := isSplit
  obtain ⟨-, reuse⟩ := takesTurns.handsOut steady isFirst obtains
  obtain ⟨delivery, one⟩ := TokenTurn.exchanges_of_makesRequest
    (takesTurns.makesRequest steady stale isFirst (by simp))
  have quiet : exchanges (others.flatMap TokenTurn.events) = [] := by
    rw [exchanges, List.filterMap_flatMap, List.flatMap_eq_nil_iff]
    exact fun other member => (reuse other member (inTime other member)).2
  refine ⟨delivery, ?_⟩
  rw [isSplit, List.flatMap_cons, exchanges_append, one, quiet]
  rfl

end Steady

end Turns

section Scenes

variable [DecidableEq ι]

/-- Callers have taken turns, everybody one at most, and the others wait. -/
structure Serves (cache : Option AccessToken) (turns : List (TokenTurn ι))
    (scene : Scene ι (Except TokenError AccessToken)) : Prop where
  takesTurns : provider.TakesTurns cache turns scene.cache
  nodup : (turns.map TokenTurn.caller).Nodup
  ended : ∀ turn ∈ turns, scene.progress turn.caller = .ready turn.conclusion.plan
  waiting : ∀ caller ∉ turns.map TokenTurn.caller,
    scene.progress caller = .ready provider.token

section

variable {provider} {cache left : Option AccessToken} {turns : List (TokenTurn ι)}
  {scene : Scene ι (Except TokenError AccessToken)} {caller : ι}
  {inside : List Act}

omit [DecidableEq ι] in
theorem Serves.not_does (serves : provider.Serves cache turns scene) {act : Act}
    {later : Progress (Except TokenError AccessToken)} :
    ¬ (scene.progress caller).Does act later := by
  intro does
  by_cases served : caller ∈ turns.map TokenTurn.caller
  · obtain ⟨turn, member, rfl⟩ := List.mem_map.mp served
    rw [serves.ended turn member] at does
    exact turn.conclusion.not_does does
  · rw [serves.waiting caller served, token_steps] at does
    cases does

/-- Another visit is the turn of somebody who has waited. -/
theorem Serves.concat (serves : provider.Serves cache turns scene)
    {later : Progress (Except TokenError AccessToken)}
    (visits : (scene.progress caller).Visits scene.cache inside left later) :
    ∃ conclusion,
      provider.Serves cache
        (turns ++ [⟨caller, (Move.visit scene.cache inside left).events, conclusion⟩])
        (scene.unlocked caller left later) := by
  have unserved : caller ∉ turns.map TokenTurn.caller := by
    intro served
    obtain ⟨turn, member, rfl⟩ := List.mem_map.mp served
    rw [serves.ended turn member] at visits
    exact turn.conclusion.not_visits visits
  rw [serves.waiting caller unserved, ← Plan.bind_done provider.token] at visits
  obtain ⟨conclusion, provides, rfl⟩ := provides_visits visits
  rw [Plan.bind_done]
  refine ⟨conclusion, ?_, ?_, ?_, ?_⟩
  · exact serves.takesTurns.concat provides
  · rw [List.map_append, List.nodup_append]
    refine ⟨serves.nodup, by simp, ?_⟩
    rintro _ served _ isLast rfl
    rw [List.mem_singleton.mp isLast] at served
    exact unserved served
  · intro turn member
    rcases List.mem_append.mp member with before | isLast
    · have different : turn.caller ≠ caller := by
        rintro rfl
        exact unserved (List.mem_map_of_mem before)
      simpa [Scene.unlocked, Scene.advance, Function.update_of_ne different]
        using serves.ended turn before
    · rw [List.mem_singleton.mp isLast]
      exact Function.update_self ..
  · intro other waits
    rw [List.map_append, List.mem_append, not_or] at waits
    have different : other ≠ caller := fun same =>
      waits.2 (List.mem_singleton.mpr same)
    simpa [Scene.unlocked, Scene.advance, Function.update_of_ne different]
      using serves.waiting other waits.1

end

/-- Callers who do nothing else get the cache in turns, and do nothing outside of
them. -/
theorem serves_of_moves {cache : Option AccessToken} {moves : List (ι × Move)}
    {scene : Scene ι (Except TokenError AccessToken)}
    (made : (Scene.start cache fun _ => provider.token).Moves moves scene) :
    ∃ turns, provider.Serves cache turns scene ∧
      (∀ move ∈ moves, ∀ act, move.2 ≠ .alone act) ∧
      happenings (moves.flatMap fun move => move.2.acts.map (move.1, ·)) =
        turns.flatMap TokenTurn.happenings := by
  induction made with
  | idle =>
      refine ⟨[], ⟨.nobody, .nil, ?_, ?_⟩, by simp, rfl⟩
      · simp
      · intro caller waits
        rfl
  | @move moves scene later caller move before makes ih =>
      obtain ⟨turns, serves, onlyVisits, happened⟩ := ih
      cases makes with
      | alone does => exact absurd does serves.not_does
      | @visit inside left _ visits =>
          obtain ⟨conclusion, servesNext⟩ := serves.concat visits
          refine ⟨_, servesNext, ?_, ?_⟩
          · intro made member act
            rcases List.mem_append.mp member with earlier | isLast
            · exact onlyVisits made earlier act
            · rw [List.mem_singleton.mp isLast]
              simp
          · rw [List.flatMap_append, happenings_append, happened, List.flatMap_append,
              List.flatMap_singleton, happenings_map]
            simp [TokenTurn.happenings, Move.events]

section

variable {provider} {cache : Option AccessToken} {turns : List (TokenTurn ι)}
  {scene : Scene ι (Except TokenError AccessToken)} {caller : ι}
  {trace : List (ι × Act)}

omit [DecidableEq ι] in
/-- Whoever has come to an end has had a turn. -/
theorem Serves.conclusion?_iff (serves : provider.Serves cache turns scene)
    (conclusion : Conclusion (Except TokenError AccessToken)) :
    scene.conclusion? caller = some conclusion ↔
      ∃ turn ∈ turns, turn.caller = caller ∧ turn.conclusion = conclusion := by
  unfold Scene.conclusion?
  constructor
  · intro ended
    by_cases served : caller ∈ turns.map TokenTurn.caller
    · obtain ⟨turn, member, rfl⟩ := List.mem_map.mp served
      rw [serves.ended turn member, Conclusion.conclusion?_plan] at ended
      exact ⟨turn, member, rfl, Option.some.inj ended⟩
    · rw [serves.waiting caller served, token_steps] at ended
      cases ended
  · rintro ⟨turn, member, rfl, rfl⟩
    rw [serves.ended turn member, Conclusion.conclusion?_plan]

omit [DecidableEq ι] in
theorem unfinished_eq_nil {unfinished : List (ι × Event)}
    (byHolder : ∀ made ∈ unfinished, scene.holder = some made.1)
    (free : scene.holder = none) : unfinished = [] := by
  rw [List.eq_nil_iff_forall_not_mem]
  intro made member
  have holds := byHolder made member
  rw [free] at holds
  cases holds

/-- However callers ask for tokens side by side, they get the cache in turns. -/
theorem takesTurns_of_runs
    (runs : (Scene.start cache fun _ => provider.token).Runs trace scene) :
    ∃ turns unfinished,
      provider.TakesTurns cache turns scene.cache ∧
      happenings trace = turns.flatMap TokenTurn.happenings ++ unfinished ∧
      (∀ made ∈ unfinished, scene.holder = some made.1) ∧
      (turns.map TokenTurn.caller).Nodup ∧
      ∀ caller conclusion, scene.conclusion? caller = some conclusion ↔
        ∃ turn ∈ turns, turn.caller = caller ∧ turn.conclusion = conclusion := by
  have spelled := runs.eq_acts rfl
  cases runs.settles rfl with
  | free noVisitor noHolder moves =>
      obtain ⟨turns, serves, onlyVisits, happened⟩ := provider.serves_of_moves moves
      refine ⟨turns, [], serves.takesTurns, ?_, by simp, serves.nodup,
        fun caller => serves.conclusion?_iff⟩
      rw [spelled onlyVisits, Journal.acts, happenings_append, happened, noVisitor]
      rfl
  | @held inside visitor next visits holds goesOn moves =>
      -- Until its visit ends, the visitor has had no turn.
      obtain ⟨turns, serves, onlyVisits, happened⟩ := provider.serves_of_moves moves
      refine ⟨turns, happenings ((.lock scene.cache :: inside).map (visitor, ·)),
        serves.takesTurns, ?_, ?_, serves.nodup, ?_⟩
      · rw [spelled onlyVisits, Journal.acts, happenings_append, happened, visits]
      · rw [happenings_map]
        intro made member
        obtain ⟨event, -, rfl⟩ := List.mem_map.mp member
        exact holds
      · intro caller conclusion
        rw [← serves.conclusion?_iff]
        by_cases same : caller = visitor
        · subst same
          have disciplined := runs.isDisciplined
            (Scene.isDisciplined_start fun _ => provider.givesBack_token)
          have notEnded : scene.conclusion? caller ≠ some conclusion :=
            fun ended => disciplined.holder_ne ended holds
          have notEndedBefore :
              (scene.unvisited caller next).conclusion? caller ≠ some conclusion := by
            unfold Scene.conclusion?
            rw [scene.unvisited_progress_self]
            intro ended
            cases ended
          exact iff_of_false notEnded notEndedBefore
        · unfold Scene.conclusion?
          rw [scene.unvisited_progress_ne visitor next same]

end

/-- Any number of callers ask one provider for a token, side by side and in any order,
while the clock does not go back and the cache holds no token that is valid when they
begin.

* As long as somebody has not come to an end, somebody can act.
* The callers get the cache in turns, and everybody who has come to an end has had one
  turn.
* As long as no turn has brought a token, each caller makes one request and gets what
  becomes of it: its own failure, or the token.
* Whoever gets a token leaves that token in the cache, and everybody who gets the cache
  before it expires gets the same token and sends nothing.
* If the first turn brings a token that outlasts the turns of the others, one request
  is made in all. -/
theorem token_singleFlight {cache : Option AccessToken} {began : Instant}
    {trace : List (ι × Act)} {scene : Scene ι (Except TokenError AccessToken)}
    (stale : ∀ token, cache = some token → token.expiresAt ≤ began)
    (runs : (Scene.start cache fun _ => provider.token).Runs trace scene)
    (steady : (began :: clockReadings ((happenings trace).map (·.2))).Pairwise
      (· ≤ ·)) :
    (∀ caller, scene.conclusion? caller = none →
      ∃ other act later, scene.Acts other act later) ∧
    ∃ turns unfinished,
      happenings trace = turns.flatMap TokenTurn.happenings ++ unfinished ∧
      (∀ made ∈ unfinished, scene.holder = some made.1) ∧
      (turns.map TokenTurn.caller).Nodup ∧
      (∀ caller conclusion, scene.conclusion? caller = some conclusion ↔
        ∃ turn ∈ turns, turn.caller = caller ∧ turn.conclusion = conclusion) ∧
      (∀ earlier turn later, turns = earlier ++ turn :: later →
        ((∀ other ∈ earlier, ∀ token, ¬ other.Obtains token) →
          turn.MakesRequest provider) ∧
        ∀ token, turn.Obtains token →
          turn.Leaves (some token) ∧
          ∀ other ∈ later, other.BeginsBefore token.expiresAt →
            other.Obtains token ∧ exchanges other.events = []) ∧
      ∀ first later token, turns = first :: later → first.Obtains token →
        (∀ other ∈ later, other.BeginsBefore token.expiresAt) →
        scene.holder = none →
        ∃ delivery, exchanges ((happenings trace).map (·.2)) =
          [(.token provider.client.tokenRequest, delivery)] := by
  have disciplined := runs.isDisciplined
    (Scene.isDisciplined_start fun _ => provider.givesBack_token)
  refine ⟨fun caller => disciplined.exists_acts, ?_⟩
  obtain ⟨turns, unfinished, takesTurns, happened, byHolder, nodup, ended⟩ :=
    takesTurns_of_runs runs
  rw [happened, List.map_append, TokenTurn.map_happenings, clockReadings_append,
    ← List.cons_append, List.pairwise_append] at steady
  refine ⟨turns, unfinished, happened, byHolder, nodup, ended, ?_, ?_⟩
  · intro earlier turn later isSplit
    refine ⟨takesTurns.makesRequest steady.1 stale isSplit, ?_⟩
    exact fun token => takesTurns.handsOut steady.1 isSplit
  · intro first later token isSplit obtains inTime free
    rw [happened, unfinished_eq_nil byHolder free, List.append_nil, TokenTurn.map_happenings]
    exact takesTurns.requestsOnce steady.1 stale isSplit obtains inTime

end Scenes

/-- Four callers find an expired token.  The first to get the cache is not answered, the
second gets a token, the third is handed it, and the fourth still waits. -/
theorem token_singleFlight_failing_first :
    let provider : TokenProvider := ⟨⟨"hcp", "secret", "http://issuer", none⟩, 30⟩
    let old : AccessToken := ⟨"old", ⟨10⟩⟩
    let fresh : AccessToken := ⟨"t", ⟨13 + 30 * nanosecondsPerSecond⟩⟩
    let request : Request := .token provider.client.tokenRequest
    let granting : Delivery := .reply 200 (.complete (Text.utf8Bytes
      "\x7b\"access_token\":\"t\",\"expires_in\":60\x7d".toList))
    let trace : List (Fin 4 × Act) :=
      [.lock (some old), .readClock ⟨10⟩, .readClock ⟨11⟩, .send request,
        .receive request .hungUp, .measure (.tokenRefresh false),
        .unlock (some old)].map (1, ·) ++
      [.lock (some old), .readClock ⟨12⟩, .readClock ⟨13⟩, .send request,
        .receive request granting, .measure (.tokenRefresh true),
        .unlock (some fresh)].map (0, ·) ++
      [.lock (some fresh), .readClock ⟨14⟩, .unlock (some fresh)].map (2, ·)
    let start : Scene (Fin 4) (Except TokenError AccessToken) :=
      .start (some old) fun _ => provider.token
    (∀ token, some old = some token → token.expiresAt ≤ ⟨10⟩) ∧
      (⟨10⟩ :: clockReadings ((happenings trace).map (·.2))).Pairwise (· ≤ ·) ∧
      ∃ scene, ∃ turns : List (TokenTurn (Fin 4)), start.Runs trace scene ∧
        happenings trace = turns.flatMap TokenTurn.happenings ∧
        (∃ turn ∈ turns, turn.caller = 1 ∧
          turn.conclusion = .finished (.error (.transport .hungUp))) ∧
        (∃ turn ∈ turns, turn.caller = 2 ∧ turn.Obtains fresh) := by
  intro provider old fresh request granting trace start
  have stale : ∀ token, some old = some token → token.expiresAt ≤ ⟨10⟩ := by
    rintro _ ⟨⟩
    decide
  have steady :
      (⟨10⟩ :: clockReadings ((happenings trace).map (·.2))).Pairwise (· ≤ ·) := by
    decide +kernel
  obtain ⟨scene, played⟩ : ∃ scene, start.play trace = some scene :=
    Option.isSome_iff_exists.mp (by decide +kernel)
  have holder : (start.play trace).map Scene.holder = some none := by
    decide +kernel
  have first : (start.play trace).bind (·.conclusion? 1) =
      some (.finished (.error (.transport .hungUp))) := by
    decide +kernel
  have third : (start.play trace).bind (·.conclusion? 2) =
      some (.finished (.ok fresh)) := by
    decide +kernel
  rw [played] at holder first third
  have runs := Scene.runs_of_play played
  obtain ⟨-, turns, unfinished, happened, byHolder, -, ended, -⟩ :=
    provider.token_singleFlight stale runs steady
  rw [unfinished_eq_nil byHolder (Option.some.inj holder), List.append_nil] at happened
  exact ⟨stale, steady, scene, turns, runs, happened, (ended 1 _).mp first,
    (ended 2 _).mp third⟩

end TokenProvider

end ProbeLifecycle
