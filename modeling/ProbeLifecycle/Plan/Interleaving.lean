import Mathlib.Logic.Function.Basic
import ProbeLifecycle.Plan.Run

/-!
# Plans side by side

Tasks carry out a plan each, act by act and in any order.  They share the token
cache and its lock: whoever wants the cache waits until nobody has the lock, and
whoever waits may be next.  What comes from outside, a reading of the clock or what
becomes of a request, may be anything, but a request that has no message is not
sent.
-/

namespace ProbeLifecycle

/-- How far a plan has been carried out: what is left of it, or the request that it
waits for. -/
inductive Progress (α : Type) where
  | ready (plan : Plan α)
  | awaiting (request : Request) (next : Delivery → Plan α)

inductive Act where
  | lock (found : Option AccessToken)
  | unlock (left : Option AccessToken)
  | readClock (now : Instant)
  | send (request : Request)
  | receive (request : Request) (delivery : Delivery)
  | measure (measurement : Measurement)
  deriving DecidableEq, Repr

/-- What happens by an act.  A request counts when it is known what has become of
it. -/
def Act.event? : Act → Option Event
  | lock _ => some .locked
  | unlock left => some (.unlocked left)
  | readClock now => some (.clockRead now)
  | send _ => none
  | receive request delivery => some (.exchanged request delivery)
  | measure measurement => some (.measured measurement)

namespace Progress

variable {α : Type}

inductive Does : Progress α → Act → Progress α → Prop where
  | readClock {next : Instant → Plan α} (now : Instant) :
      Does (.ready (.clock next)) (.readClock now) (.ready (next now))
  | send {request : Request} {next : Delivery → Plan α} :
      Does (.ready (.exchange request next)) (.send request)
        (.awaiting request next)
  | receive {request : Request} {next : Delivery → Plan α} (delivery : Delivery)
      (possible : request.message? = none → delivery = .unsent) :
      Does (.awaiting request next) (.receive request delivery)
        (.ready (next delivery))
  | measure {measurement : Measurement} {next : Plan α} :
      Does (.ready (.measure measurement next)) (.measure measurement)
        (.ready next)

def conclusion? : Progress α → Option (Conclusion α)
  | ready (.done value) => some (.finished value)
  | ready (.halt cause) => some (.halted cause)
  | _ => none

def after? : Progress α → Act → Option (Progress α)
  | ready (.clock next), .readClock now => some (.ready (next now))
  | ready (.exchange request next), .send sent =>
      if sent = request then some (.awaiting request next) else none
  | awaiting request next, .receive received delivery =>
      if received = request ∧ (request.message? = none → delivery = .unsent) then
        some (.ready (next delivery))
      else none
  | ready (.measure measurement next), .measure measured =>
      if measured = measurement then some (.ready next) else none
  | _, _ => none

theorem does_of_after? {progress later : Progress α} {act : Act}
    (can : progress.after? act = some later) : progress.Does act later := by
  unfold after? at can
  split at can
  · cases can
    exact .readClock _
  · split at can
    · rename_i same
      cases can
      exact same ▸ .send
    · cases can
  · split at can
    · rename_i fits
      obtain ⟨rfl, possible⟩ := fits
      cases can
      exact .receive _ possible
    · cases can
  · split at can
    · rename_i same
      cases can
      exact same ▸ .measure
    · cases can
  · cases can

end Progress

/-- Tasks with what they share: the token cache, and who has its lock. -/
structure Scene (ι α : Type) where
  cache : Option AccessToken
  holder : Option ι := none
  progress : ι → Progress α

namespace Scene

variable {ι α : Type}

def start (cache : Option AccessToken) (plans : ι → Plan α) : Scene ι α where
  cache := cache
  progress task := .ready (plans task)

def conclusion? (scene : Scene ι α) (task : ι) : Option (Conclusion α) :=
  (scene.progress task).conclusion?

variable [DecidableEq ι]

/-- The scene in which one task has come to another point. -/
def advance (scene : Scene ι α) (task : ι) (progress : Progress α) : Scene ι α :=
  { scene with progress := Function.update scene.progress task progress }

@[simp]
theorem advance_progress_self (scene : Scene ι α) (task : ι)
    (progress : Progress α) : (scene.advance task progress).progress task = progress :=
  Function.update_self ..

def locked (scene : Scene ι α) (task : ι) (progress : Progress α) : Scene ι α :=
  { scene.advance task progress with holder := some task }

/-- The scene in which a task has left the cache as given and has come to another
point. -/
def unlocked (scene : Scene ι α) (task : ι) (left : Option AccessToken)
    (progress : Progress α) : Scene ι α :=
  { scene.advance task progress with cache := left, holder := none }

inductive Acts (scene : Scene ι α) (task : ι) : Act → Scene ι α → Prop where
  | lock {next : Option AccessToken → Plan α} (free : scene.holder = none)
      (waits : scene.progress task = .ready (.lock next)) :
      Acts scene task (.lock scene.cache)
        (scene.locked task (.ready (next scene.cache)))
  | unlock {left : Option AccessToken} {next : Plan α}
      (holds : scene.holder = some task)
      (leaves : scene.progress task = .ready (.unlock left next)) :
      Acts scene task (.unlock left) (scene.unlocked task left (.ready next))
  | alone {act : Act} {later : Progress α}
      (does : (scene.progress task).Does act later) :
      Acts scene task act (scene.advance task later)

inductive Runs (start : Scene ι α) : List (ι × Act) → Scene ι α → Prop where
  | idle : Runs start [] start
  | act {trace : List (ι × Act)} {scene later : Scene ι α} {task : ι} {act : Act}
      (before : Runs start trace scene) (acts : scene.Acts task act later) :
      Runs start (trace ++ [(task, act)]) later

def after? (scene : Scene ι α) (task : ι) (act : Act) : Option (Scene ι α) :=
  match act, scene.progress task with
  | .lock found, .ready (.lock next) =>
      if scene.holder = none ∧ found = scene.cache then
        some (scene.locked task (.ready (next scene.cache)))
      else none
  | .unlock left, .ready (.unlock leaving next) =>
      if scene.holder = some task ∧ left = leaving then
        some (scene.unlocked task leaving (.ready next))
      else none
  | act, progress => (progress.after? act).map (scene.advance task)

/-- Lets tasks act one after the other, if they can act so. -/
def play (scene : Scene ι α) : List (ι × Act) → Option (Scene ι α)
  | [] => some scene
  | (task, act) :: trace => (scene.after? task act).bind fun later => later.play trace

theorem Runs.cons {scene middle later : Scene ι α} {task : ι} {act : Act}
    {trace : List (ι × Act)} (acts : scene.Acts task act middle)
    (runs : middle.Runs trace later) : scene.Runs ((task, act) :: trace) later := by
  induction runs with
  | idle => exact .act .idle acts
  | act before last ih => exact .act ih last

theorem acts_of_after? {scene later : Scene ι α} {task : ι} {act : Act}
    (can : scene.after? task act = some later) : scene.Acts task act later := by
  unfold after? at can
  split at can
  · rename_i waits
    split at can
    · rename_i fits
      obtain ⟨free, rfl⟩ := fits
      cases can
      exact .lock free waits
    · cases can
  · rename_i leaves
    split at can
    · rename_i fits
      obtain ⟨holds, rfl⟩ := fits
      cases can
      exact .unlock holds leaves
    · cases can
  · obtain ⟨progress, does, rfl⟩ := Option.map_eq_some_iff.mp can
    exact .alone (Progress.does_of_after? does)

theorem runs_of_play {scene later : Scene ι α} {trace : List (ι × Act)}
    (played : scene.play trace = some later) : scene.Runs trace later := by
  induction trace generalizing scene with
  | nil =>
      cases played
      exact .idle
  | cons made trace ih =>
      obtain ⟨middle, can, rest⟩ := Option.bind_eq_some_iff.mp played
      exact .cons (acts_of_after? can) (ih rest)

end Scene

section Happenings

variable {ι : Type}

def happenings (trace : List (ι × Act)) : List (ι × Event) :=
  trace.filterMap fun made => made.2.event?.map (made.1, ·)

theorem happenings_append (first second : List (ι × Act)) :
    happenings (first ++ second) = happenings first ++ happenings second :=
  List.filterMap_append

theorem happenings_map (task : ι) (acts : List Act) :
    happenings (acts.map (task, ·)) =
      (acts.filterMap Act.event?).map (task, ·) := by
  rw [happenings, List.filterMap_map, List.map_filterMap]
  rfl

end Happenings

end ProbeLifecycle
