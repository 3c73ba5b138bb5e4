import ProbeLifecycle.Proofs.TokenCache
import ProbeLifecycle.Proofs.TokenVisits

/-!
# Late refusals

Requests to the service share a token.  When the service refuses it in several of them,
each of the refused tasks empties the cache, whatever it holds by then: the token that
was refused, or a token that was obtained since, which is lost.  What a refusal takes
out of the cache is told here for every order in which tasks can act, and with it how
many refreshes it takes until a token stays.
-/

namespace ProbeLifecycle

namespace Move

def stored? (move : Move) : Option AccessToken :=
  match move with
  | visit _ _ left =>
      if .measured (.tokenRefresh true) ∈ move.events then left else none
  | alone _ => none

/-- A token that is found is valid whenever the visitor looks at the clock. -/
def FindsValid : Move → Prop
  | visit (some found) inside left =>
      ∀ now ∈ clockReadings (visit (some found) inside left).events, found.IsValidAt now
  | visit none _ _ => True
  | alone _ => True

instance (move : Move) : Decidable move.FindsValid :=
  match move with
  | visit (some found) inside left =>
      inferInstanceAs (Decidable (∀ now ∈ clockReadings
        (visit (some found) inside left).events, found.IsValidAt now))
  | visit none _ _ => .isTrue trivial
  | alone _ => .isTrue trivial

/-- The token that a visit takes out of the cache without storing another. -/
def taken? : Move → Option AccessToken
  | visit found _ none => found
  | visit _ _ (some _) => none
  | alone _ => none

theorem eq_visit_of_taken {move : Move} {token : AccessToken}
    (takes : move.taken? = some token) :
    ∃ inside, move = .visit (some token) inside none := by
  unfold taken? at takes
  split at takes
  · subst takes
    exact ⟨_, rfl⟩
  · cases takes
  · cases takes

inductive Affects (move : Move) : Option AccessToken → Option AccessToken → Prop where
  | keeps {cache : Option AccessToken} (storesNothing : move.stored? = none)
      (takesNothing : move.taken? = none) : Affects move cache cache
  | takes {cache : Option AccessToken} (storesNothing : move.stored? = none)
      (takes : move.taken? = cache) : Affects move cache none
  | stores {cache : Option AccessToken} {token : AccessToken}
      (stores : move.stored? = some token) (takesNothing : move.taken? = none)
      (expired : cache ≠ none → ¬ move.FindsValid) : Affects move cache (some token)

theorem affects_alone (act : Act) (cache : Option AccessToken) :
    (alone act).Affects cache cache :=
  .keeps rfl rfl

/-- A visit of somebody who asks for a token keeps what is found, unless it stores a
token. -/
theorem affects_of_provides {provider : TokenProvider}
    {found left : Option AccessToken} {inside : List Act}
    {conclusion : Conclusion (Except TokenError AccessToken)}
    (provides :
      provider.Provides found (visit found inside left).events conclusion left) :
    (visit found inside left).Affects found left := by
  generalize happened : (visit found inside left).events = events at provides
  -- Only the last way to end measures a refresh.
  have keeps_of_quiet : .measured (.tokenRefresh true) ∉ events → left = found →
      (visit found inside left).Affects found left := by
    rintro quiet rfl
    refine .keeps ?_ ?_
    · simp [stored?, happened, quiet]
    · cases left <;> rfl
  cases provides with
  | reused valid => exact keeps_of_quiet (by simp) rfl
  | refused misses refusal => exact keeps_of_quiet (by cases misses <;> simp) rfl
  | overflowed misses granted overflow =>
      exact keeps_of_quiet (by cases misses <;> simp) rfl
  | @refreshed _ opening _ _ _ token misses granted issued =>
      refine .stores ?_ rfl ?_
      · simp [stored?, happened]
      · intro full findsValid
        cases misses with
        | empty => exact full rfl
        | @expired _ now invalid =>
            simp only [FindsValid, happened] at findsValid
            exact invalid (findsValid now List.mem_cons_self)

end Move

section Counts

variable {ι : Type}

def stored (moves : List (ι × Move)) : List AccessToken :=
  moves.filterMap (·.2.stored?)

def taken (moves : List (ι × Move)) : List AccessToken :=
  moves.filterMap (·.2.taken?)

/-- A token is taken out of the cache after one has been stored. -/
def LosesStored (moves : List (ι × Move)) : Prop :=
  ∃ earlier made later, moves = earlier ++ made :: later ∧ made.2.taken? ≠ none ∧
    stored earlier ≠ []

/-- Whoever finds a token finds it valid. -/
def Unexpired (moves : List (ι × Move)) : Prop :=
  ∀ made ∈ moves, made.2.FindsValid

instance (moves : List (ι × Move)) : Decidable (Unexpired moves) :=
  inferInstanceAs (Decidable (∀ made ∈ moves, made.2.FindsValid))

theorem stored_append (first second : List (ι × Move)) :
    stored (first ++ second) = stored first ++ stored second :=
  List.filterMap_append

theorem taken_append (first second : List (ι × Move)) :
    taken (first ++ second) = taken first ++ taken second :=
  List.filterMap_append

theorem stored_concat (moves : List (ι × Move)) (made : ι × Move) :
    stored (moves ++ [made]) = stored moves ++ made.2.stored?.toList := by
  rw [stored_append]
  cases stores : made.2.stored? <;> simp [stored, stores]

theorem taken_concat (moves : List (ι × Move)) (made : ι × Move) :
    taken (moves ++ [made]) = taken moves ++ made.2.taken?.toList := by
  rw [taken_append]
  cases takes : made.2.taken? <;> simp [taken, takes]

theorem exists_last_taken {moves : List (ι × Move)} {first : List AccessToken}
    {token : AccessToken} (takes : taken moves = first ++ [token]) :
    ∃ earlier made later, moves = earlier ++ made :: later ∧
      made.2.taken? = some token ∧ taken earlier = first := by
  obtain ⟨opening, closing, rfl, takesFirst, takesLast⟩ :=
    List.filterMap_eq_append_iff.mp takes
  obtain ⟨between, made, rest, rfl, quiet, takesLast, -⟩ :=
    List.filterMap_eq_cons_iff.mp takesLast
  refine ⟨opening ++ between, made, rest, by simp, takesLast, ?_⟩
  rw [taken_append, taken, taken, takesFirst, List.filterMap_eq_nil_iff.mpr quiet,
    List.append_nil]

theorem Move.Affects.count {move : Move} {cache later : Option AccessToken}
    (affects : move.Affects cache later) (task : ι)
    (unexpired : Unexpired [(task, move)]) :
    cache.toList.length + move.stored?.toList.length =
      move.taken?.toList.length + later.toList.length := by
  cases affects with
  | keeps storesNothing takesNothing => simp [storesNothing, takesNothing]
  | takes storesNothing takes => simp [storesNothing, takes]
  | stores stores takesNothing expired =>
      cases cache with
      | none => simp [stores, takesNothing]
      | some old =>
          exact absurd (unexpired _ List.mem_cons_self) (expired (by simp))

end Counts

theorem TokenProvider.Provides.later_ne_none {provider : TokenProvider}
    {token : AccessToken} {events : List Event} {later : Option AccessToken}
    {conclusion : Conclusion (Except TokenError AccessToken)}
    (provides : provider.Provides (some token) events conclusion later) :
    later ≠ none := by
  cases provides <;> simp

section Requests

variable (client : ProbeClient) (provider : TokenProvider) (call : Call)

def ProbeClient.carrying (token : AccessToken) : Request :=
  .api (client.apiRequest call (some ⟨token.value, provider.client.clientId⟩))

/-- The rest of a call once it is known what has become of the request. -/
def ProbeClient.finish (delivery : Delivery) : Plan (Except ProbeError Reply) :=
  (client.dropRefusedToken delivery).bind fun _ => .done delivery.answer

variable {client provider}

theorem ProbeClient.execute_authenticated
    (authenticated : client.provider = some provider) :
    (client.execute call).run =
      provider.token.bind fun
        | .error error => .done (.error (.auth error))
        | .ok token =>
            .exchange (client.carrying provider call token) client.finish := by
  rw [execute_steps, bearer_steps, authenticated]
  simp only [Plan.bind_assoc]
  congr 1
  funext result
  cases result with
  | error error => rfl
  | ok token => rfl

theorem ProbeClient.finish_refused (authenticated : client.provider = some provider)
    {delivery : Delivery} (refused : delivery.status? = some unauthorizedStatus) :
    client.finish delivery =
      .lock fun _ => .unlock none (.done delivery.answer) := by
  unfold finish dropRefusedToken isAuthenticated
  rw [authenticated, if_pos ⟨refused, rfl⟩]
  rfl

theorem ProbeClient.finish_accepted {delivery : Delivery}
    (accepted : delivery.status? ≠ some unauthorizedStatus) :
    client.finish delivery = .done delivery.answer := by
  unfold finish dropRefusedToken
  rw [if_neg fun both => accepted both.1]
  rfl

end Requests

section Stages

variable {ι : Type}

/-- A task has obtained a token and has made these moves since; what the cache holds, if
anything, is that token or the one that was stored last since. -/
def Carries (task : ι) (carried : AccessToken) (own moves : List (ι × Move))
    (cache : Option AccessToken) : Prop :=
  ∃ before found inside between,
    moves = before ++ (task, .visit found inside (some carried)) :: between ∧
    own ⊆ between ∧
    ∀ held, cache = some held → held = (stored between).getLastD carried

variable (client : ProbeClient) (provider : TokenProvider) (call : Call)

/-- How far a task with one request has come. -/
inductive CallStage (task : ι) (moves : List (ι × Move)) (cache : Option AccessToken) :
    Progress (Except ProbeError Reply) → Prop where
  | asking : CallStage task moves cache (.ready (client.execute call).run)
  | equipped {carried : AccessToken} (carries : Carries task carried [] moves cache) :
      CallStage task moves cache
        (.ready (.exchange (client.carrying provider call carried) client.finish))
  | awaiting {carried : AccessToken} (carries : Carries task carried [] moves cache) :
      CallStage task moves cache
        (.awaiting (client.carrying provider call carried) client.finish)
  | refused {carried : AccessToken} {delivery : Delivery}
      (refusal : delivery.status? = some unauthorizedStatus)
      (carries : Carries task carried
        [(task, .alone (.receive (client.carrying provider call carried) delivery))]
        moves cache) :
      CallStage task moves cache (.ready (client.finish delivery))
  | ended (conclusion : Conclusion (Except ProbeError Reply)) :
      CallStage task moves cache (.ready conclusion.plan)

section Steps

variable {client provider call} {task other : ι} {moves own : List (ι × Move)}
  {cache later : Option AccessToken} {move : Move}
  {progress next : Progress (Except ProbeError Reply)}

theorem Carries.mono {carried : AccessToken} {fewer : List (ι × Move)}
    (carries : Carries task carried own moves cache) (subset : fewer ⊆ own) :
    Carries task carried fewer moves cache := by
  obtain ⟨before, found, inside, between, split, ownMoves, since⟩ := carries
  exact ⟨before, found, inside, between, split,
    fun made member => ownMoves (subset member), since⟩

/-- Whatever anybody does next, what the cache holds is what was stored last. -/
theorem Carries.concat {carried : AccessToken}
    (carries : Carries task carried own moves cache)
    (affects : move.Affects cache later) :
    Carries task carried (own ++ [(other, move)]) (moves ++ [(other, move)]) later := by
  obtain ⟨before, found, inside, between, rfl, ownMoves, since⟩ := carries
  refine ⟨before, found, inside, between ++ [(other, move)], by simp,
    List.append_subset.mpr ⟨fun made member => List.mem_append_left _ (ownMoves member),
      List.subset_append_right ..⟩, ?_⟩
  intro held holds
  rw [stored_append]
  cases affects with
  | keeps storesNothing takesNothing =>
      simpa [stored, storesNothing] using since held holds
  | takes storesNothing takes => cases holds
  | stores stores takesNothing expired =>
      cases holds
      simp [stored, stores]

theorem CallStage.concat
    (stage : CallStage client provider call task moves cache progress)
    (affects : move.Affects cache later) :
    CallStage client provider call task (moves ++ [(other, move)]) later progress := by
  cases stage with
  | asking => exact .asking
  | equipped carries => exact .equipped ((carries.concat affects).mono (by simp))
  | awaiting carries => exact .awaiting ((carries.concat affects).mono (by simp))
  | refused refusal carries =>
      exact .refused refusal ((carries.concat affects).mono (by simp))
  | ended conclusion => exact .ended conclusion

/-- A move without the cache takes a task to its next stage. -/
theorem CallStage.does (authenticated : client.provider = some provider) {act : Act}
    (stage : CallStage client provider call task moves cache progress)
    (does : progress.Does act next) :
    CallStage client provider call task (moves ++ [(task, .alone act)]) cache next := by
  have keeps : (Move.alone act).Affects cache cache := Move.affects_alone act cache
  cases stage with
  | asking =>
      rw [ProbeClient.execute_authenticated call authenticated,
        TokenProvider.token_steps] at does
      cases does
  | equipped carries =>
      cases does with
      | send => exact .awaiting ((carries.concat keeps).mono (by simp))
  | awaiting carries =>
      cases does with
      | receive delivery possible =>
          by_cases refusal : delivery.status? = some unauthorizedStatus
          · exact .refused refusal (carries.concat keeps)
          · rw [ProbeClient.finish_accepted refusal]
            exact .ended (.finished delivery.answer)
  | refused refusal carries =>
      rw [ProbeClient.finish_refused authenticated refusal] at does
      cases does
  | ended conclusion => exact absurd does conclusion.not_does

/-- A visit takes a task to its next stage.  It empties a full cache only after a
refusal. -/
theorem CallStage.visits (authenticated : client.provider = some provider)
    {inside : List Act} {left : Option AccessToken}
    (stage : CallStage client provider call task moves cache progress)
    (visits : progress.Visits cache inside left next) :
    (Move.visit cache inside left).Affects cache left ∧
      CallStage client provider call task
        (moves ++ [(task, .visit cache inside left)]) left next ∧
      (∀ held, cache = some held → left = none →
        ∃ carried delivery, delivery.status? = some unauthorizedStatus ∧
          Carries task carried
            [(task, .alone
              (.receive (client.carrying provider call carried) delivery))]
            moves cache) := by
  cases stage with
  | asking =>
      rw [ProbeClient.execute_authenticated call authenticated] at visits
      obtain ⟨conclusion, provides, rfl⟩ := TokenProvider.provides_visits visits
      have affects := Move.affects_of_provides provides
      refine ⟨affects, ?_, ?_⟩
      · cases conclusion with
        | halted cause => exact .ended (.halted cause)
        | finished result =>
            cases result with
            | error error =>
                exact .ended (.finished (.error (.auth error)))
            | ok token =>
                obtain rfl := provides.later_of_ok
                refine .equipped ⟨moves, cache, inside, [], rfl, List.nil_subset _, ?_⟩
                rintro held ⟨⟩
                rfl
      · rintro held rfl rfl
        exact absurd rfl provides.later_ne_none
  | equipped carries => cases visits
  | awaiting carries => cases visits
  | refused refusal carries =>
      rw [ProbeClient.finish_refused authenticated refusal] at visits
      cases visits with
      | visit goesOn =>
          obtain ⟨rfl, rfl, rfl⟩ := goesOn.of_unlock
          refine ⟨.takes (by simp [Move.stored?]) rfl, ?_, ?_⟩
          · exact .ended (.finished _)
          · exact fun _ _ _ => ⟨_, _, refusal, carries⟩
  | ended conclusion => exact absurd visits conclusion.not_visits

end Steps

end Stages

section Crew

variable {ι : Type} [DecidableEq ι] (provider : TokenProvider)
  (collections : ι → Collection) (calls : ι → Call)

def crewClient (task : ι) : ProbeClient :=
  ⟨collections task, some provider⟩

def crewRequest (task : ι) (token : AccessToken) : Request :=
  (crewClient provider collections task).carrying provider (calls task) token

/-- Tasks that make a call each with tokens of one provider. -/
def crew (cache : Option AccessToken) : Scene ι (Except ProbeError Reply) :=
  .start cache fun task =>
    ((crewClient provider collections task).execute (calls task)).run

/-- Every task is at one of the stages of a call. -/
def Scene.IsStaged (scene : Scene ι (Except ProbeError Reply))
    (moves : List (ι × Move)) : Prop :=
  ∀ task, CallStage (crewClient provider collections task) provider (calls task) task
    moves scene.cache (scene.progress task)

section Runs

variable {provider collections calls} {scene later : Scene ι (Except ProbeError Reply)}
  {moves : List (ι × Move)} {task : ι} {move : Move} {cache : Option AccessToken}

theorem Scene.Makes.staged (makes : scene.Makes task move later)
    (staged : scene.IsStaged provider collections calls moves) :
    move.Affects scene.cache later.cache ∧
      later.IsStaged provider collections calls (moves ++ [(task, move)]) := by
  cases makes with
  | @alone act next does =>
      have affects := Move.affects_alone act scene.cache
      refine ⟨affects, fun other => ?_⟩
      by_cases same : other = task
      · subst same
        rw [advance_progress_self]
        exact (staged other).does rfl does
      · simp only [advance, Function.update_of_ne same]
        exact (staged other).concat affects
  | @visit inside left next visits =>
      obtain ⟨affects, stage, -⟩ := (staged task).visits rfl visits
      refine ⟨affects, fun other => ?_⟩
      by_cases same : other = task
      · subst same
        simp only [unlocked, advance, Function.update_self]
        exact stage
      · simp only [unlocked, advance, Function.update_of_ne same]
        exact (staged other).concat affects

theorem Scene.Moves.isStaged
    (made : (crew provider collections calls cache).Moves moves scene) :
    scene.IsStaged provider collections calls moves := by
  induction made with
  | idle => exact fun task => .asking
  | move before makes ih => exact (makes.staged ih).2

/-- What is taken out of the cache is the token that a refused task has carried, or the
one that was stored last since the task obtained it. -/
theorem Scene.Moves.taken_by_refused {earlier later : List (ι × Move)}
    {held : AccessToken} {inside : List Act}
    (made : (crew provider collections calls cache).Moves
      (earlier ++ (task, .visit (some held) inside none) :: later) scene) :
    ∃ carried delivery, delivery.status? = some unauthorizedStatus ∧
      ∃ before found inside between,
        earlier = before ++ (task, .visit found inside (some carried)) :: between ∧
        (task, .alone (.receive (crewRequest provider collections calls task carried)
          delivery)) ∈ between ∧
        held = (stored between).getLastD carried := by
  obtain ⟨before, after, madeBefore, makes⟩ := made.split
  obtain ⟨holds, next, visits⟩ := makes.of_visit
  obtain ⟨-, -, afterRefusal⟩ := (madeBefore.isStaged task).visits rfl visits
  obtain ⟨carried, delivery, refusal, opening, found, obtaining, between, split, own,
    since⟩ := afterRefusal held holds rfl
  exact ⟨carried, delivery, refusal, opening, found, obtaining, between, split,
    own List.mem_cons_self, since held holds⟩

/-- As long as no token expires, every token that is stored or was there before is
taken out or still there. -/
theorem Scene.Moves.count
    (made : (crew provider collections calls cache).Moves moves scene)
    (unexpired : Unexpired moves) :
    cache.toList.length + (stored moves).length =
      (taken moves).length + scene.cache.toList.length := by
  induction made with
  | idle => simp [stored, taken, crew, start]
  | @move moves scene later task move before makes ih =>
      have sofar := ih fun made member =>
        unexpired made (List.mem_append_left _ member)
      have step := (makes.staged before.isStaged).1.count task
        fun made member => unexpired made (List.mem_append_right _ member)
      rw [stored_concat, taken_concat, List.length_append, List.length_append]
      dsimp only
      omega

/-- If the cache was full at first and a token is taken out, as many tokens have been
stored before as were taken out. -/
theorem Scene.Moves.count_before {earlier later : List (ι × Move)} {made : ι × Move}
    {token shared : AccessToken}
    (moves : (crew provider collections calls (some shared)).Moves
      (earlier ++ made :: later) scene)
    (unexpired : Unexpired (earlier ++ made :: later))
    (takes : made.2.taken? = some token) :
    (stored earlier).length = (taken earlier).length := by
  obtain ⟨task, move⟩ := made
  obtain ⟨inside, rfl⟩ := Move.eq_visit_of_taken takes
  obtain ⟨before, after, movesBefore, makes⟩ := moves.split
  have counted := movesBefore.count fun made member =>
    unexpired made (List.mem_append_left _ member)
  rw [makes.of_visit.1] at counted
  simp only [Option.toList_some, List.length_singleton] at counted
  omega

/-- If the cache was full at first and is full in the end, and no token expires, then
more than one refresh stores a token exactly if a token is taken out that was stored by
another. -/
theorem Scene.Moves.stored_le_one_iff {shared : AccessToken}
    (made : (crew provider collections calls (some shared)).Moves moves scene)
    (unexpired : Unexpired moves) (full : scene.cache ≠ none) :
    (stored moves).length = (taken moves).length ∧
      ((stored moves).length ≤ 1 ↔ ¬ LosesStored moves) := by
  obtain ⟨last, holds⟩ := Option.ne_none_iff_exists'.mp full
  have counted := made.count unexpired
  rw [holds] at counted
  simp only [Option.toList_some, List.length_singleton] at counted
  have equal : (stored moves).length = (taken moves).length := by
    omega
  refine ⟨equal, ?_, ?_⟩
  · -- As many were taken before the loss as were stored, so the loss is the second.
    rintro one ⟨earlier, lost, later, rfl, takes, stores⟩
    obtain ⟨token, takes⟩ := Option.ne_none_iff_exists'.mp takes
    have before := made.count_before unexpired takes
    have positive := List.length_pos_iff.mpr stores
    have takenSplit : (taken (earlier ++ lost :: later)).length =
        (taken earlier).length + (1 + (taken later).length) := by
      simp [taken, takes, Nat.add_comm]
    omega
  · -- The last token that is taken out is the second at least: one was stored before.
    intro keeps
    by_contra many
    rcases List.eq_nil_or_concat (taken moves) with none | ⟨first, token, takes⟩
    · rw [none, List.length_nil] at equal
      omega
    · rw [List.concat_eq_append] at takes
      obtain ⟨earlier, lost, later, rfl, takesLast, rfl⟩ := exists_last_taken takes
      have before := made.count_before unexpired takesLast
      rw [takes, List.length_append, List.length_singleton] at equal
      refine keeps ⟨earlier, lost, later, rfl, by simp [takesLast], ?_⟩
      rw [← List.length_pos_iff]
      omega

/-- However tasks make their calls side by side with the tokens of one provider:

* A token that is taken out of the cache is taken out by a task that was refused.  It is
  the token that the task has carried if no refresh has stored a token since the task
  obtained its own; otherwise it is the token that was stored last.
* If the cache was full at first and is full in the end, and no token has expired, as
  many tokens were stored as were taken out, and no more than one exactly if none was
  taken out that a refresh had stored. -/
theorem refusal_takes_latest {trace : List (ι × Act)}
    (runs : (crew provider collections calls cache).Runs trace scene) :
    (∀ earlier task held inside later,
      movesOf trace = earlier ++ (task, .visit (some held) inside none) :: later →
      ∃ carried delivery before found obtaining between,
        delivery.status? = some unauthorizedStatus ∧
        earlier = before ++ (task, .visit found obtaining (some carried)) :: between ∧
        (task, .alone (.receive (crewRequest provider collections calls task carried)
          delivery)) ∈ between ∧
        (stored between = [] → held = carried) ∧
        ∀ last, (stored between).getLast? = some last → held = last) ∧
    (∀ shared, cache = some shared → scene.cache ≠ none →
      Unexpired (movesOf trace) →
      (stored (movesOf trace)).length = (taken (movesOf trace)).length ∧
        ((stored (movesOf trace)).length ≤ 1 ↔ ¬ LosesStored (movesOf trace))) := by
  obtain ⟨settled, moves, sameCache⟩ := runs.exists_moves rfl
  constructor
  · intro earlier task held inside later split
    rw [split] at moves
    obtain ⟨carried, delivery, refusal, before, found, obtaining, between, obtains, own,
      since⟩ := moves.taken_by_refused
    refine ⟨carried, delivery, before, found, obtaining, between, refusal, obtains,
      own, ?_, ?_⟩
    · intro nothing
      rw [since, nothing, List.getLastD_nil]
    · intro last isLast
      rw [since, List.getLastD_eq_getLast?, isLast, Option.getD_some]
  · rintro shared rfl full unexpired
    rw [← sameCache] at full
    exact moves.stored_le_one_iff unexpired full

end Runs

end Crew

/-- Two tasks are refused with the token that they share, and both have emptied the
cache before a third task obtains another token.  Nobody loses it. -/
theorem refusal_takes_latest_early :
    let provider : TokenProvider := ⟨⟨"hcp", "secret", "http://issuer", none⟩, 30⟩
    let collection : Collection := ⟨{ scheme := .http, host := "probes" }, "hcp"⟩
    let carrying := (⟨collection, some provider⟩ : ProbeClient).carrying provider
      (.lookup "c1")
    let asking : Request := .token provider.client.tokenRequest
    let granting : Delivery := .reply 200 (.complete (Text.utf8Bytes
      "\x7b\"access_token\":\"t2\",\"expires_in\":60\x7d".toList))
    let refused : Delivery := .reply 401 (.complete [])
    let shared : AccessToken := ⟨"t1", ⟨1000⟩⟩
    let fresh : AccessToken := ⟨"t2", ⟨20 + 30 * nanosecondsPerSecond⟩⟩
    let reuse : List Act :=
      [.lock (some shared), .readClock ⟨10⟩, .unlock (some shared),
        .send (carrying shared), .receive (carrying shared) refused]
    let trace : List (Fin 3 × Act) :=
      reuse.map (0, ·) ++ reuse.map (1, ·) ++
      [.lock (some shared), .unlock none].map (0, ·) ++
      [.lock none, .unlock none].map (1, ·) ++
      [.lock none, .readClock ⟨20⟩, .send asking, .receive asking granting,
        .measure (.tokenRefresh true), .unlock (some fresh),
        .send (carrying fresh)].map (2, ·)
    ∃ scene : Scene (Fin 3) (Except ProbeError Reply),
      (crew provider (fun _ => collection) (fun _ => .lookup "c1") (some shared)).Runs
        trace scene ∧
      scene.cache = some fresh ∧ Unexpired (movesOf trace) ∧
      (stored (movesOf trace)).length = 1 ∧ ¬ LosesStored (movesOf trace) := by
  intro provider collection carrying asking granting refused shared fresh reuse trace
  obtain ⟨scene, played⟩ : ∃ scene,
      (crew provider (fun _ => collection) (fun _ => .lookup "c1") (some shared)).play
        trace = some scene :=
    Option.isSome_iff_exists.mp (by decide +kernel)
  have holds : ((crew provider (fun _ => collection) (fun _ => .lookup "c1")
      (some shared)).play trace).bind Scene.cache = some fresh := by
    decide +kernel
  rw [played] at holds
  have full : scene.cache ≠ none := fun none => by simp [none] at holds
  have unexpired : Unexpired (movesOf trace) := by
    decide +kernel
  have one : (stored (movesOf trace)).length = 1 := by
    decide +kernel
  have runs := Scene.runs_of_play played
  obtain ⟨-, counts⟩ := refusal_takes_latest runs
  exact ⟨scene, runs, holds, unexpired, one,
    (counts shared rfl full unexpired).2.mp (Nat.le_of_eq one)⟩

/-- Two tasks are refused with the token that they share.  The first empties the cache,
and a third task obtains another token, which the service accepts.  The second empties
the cache of that token, so that a fourth task has to obtain one again. -/
theorem late_refusal_takes_fresh :
    let provider : TokenProvider := ⟨⟨"hcp", "secret", "http://issuer", none⟩, 30⟩
    let collection : Collection := ⟨{ scheme := .http, host := "probes" }, "hcp"⟩
    let carrying := (⟨collection, some provider⟩ : ProbeClient).carrying provider
      (.lookup "c1")
    let asking : Request := .token provider.client.tokenRequest
    let granting (value : String) : Delivery := .reply 200 (.complete (Text.utf8Bytes
      ("\x7b\"access_token\":\"" ++ value ++ "\",\"expires_in\":60\x7d").toList))
    let refused : Delivery := .reply 401 (.complete [])
    let accepted : Delivery := .reply 404 (.complete [])
    let shared : AccessToken := ⟨"t1", ⟨1000⟩⟩
    let fresh : AccessToken := ⟨"t2", ⟨20 + 30 * nanosecondsPerSecond⟩⟩
    let last : AccessToken := ⟨"t3", ⟨40 + 30 * nanosecondsPerSecond⟩⟩
    let start : Scene (Fin 4) (Except ProbeError Reply) :=
      crew provider (fun _ => collection) (fun _ => .lookup "c1") (some shared)
    let reuse : List Act :=
      [.lock (some shared), .readClock ⟨10⟩, .unlock (some shared),
        .send (carrying shared)]
    let trace : List (Fin 4 × Act) :=
      reuse.map (0, ·) ++ reuse.map (1, ·) ++
      [.receive (carrying shared) refused, .lock (some shared),
        .unlock none].map (0, ·) ++
      [.lock none, .readClock ⟨20⟩, .send asking, .receive asking (granting "t2"),
        .measure (.tokenRefresh true), .unlock (some fresh),
        .send (carrying fresh)].map (2, ·) ++
      [.receive (carrying shared) refused, .lock (some fresh),
        .unlock none].map (1, ·) ++
      [.lock none, .readClock ⟨40⟩, .send asking, .receive asking (granting "t3"),
        .measure (.tokenRefresh true), .unlock (some last),
        .send (carrying last)].map (3, ·) ++
      [(2, .receive (carrying fresh) accepted), (3, .receive (carrying last) accepted)]
    (start.play trace).isSome = true ∧ Unexpired (movesOf trace) ∧
      (exchanges ((happenings trace).map (·.2))).filter (·.1 = carrying fresh) =
        [(carrying fresh, accepted)] ∧
      (movesOf trace).filter (·.1 = 1) =
        [(1, .visit (some shared) [.readClock ⟨10⟩] (some shared)),
          (1, .alone (.send (carrying shared))),
          (1, .alone (.receive (carrying shared) refused)),
          (1, .visit (some fresh) [] none)] ∧
      stored (movesOf trace) = [fresh, last] := by
  decide +kernel

end ProbeLifecycle
