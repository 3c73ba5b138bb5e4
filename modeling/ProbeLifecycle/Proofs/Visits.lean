import ProbeLifecycle.Plan.Interleaving
import ProbeLifecycle.Proofs.History

/-!
# Visits to the cache

With the lock taken, nobody else gets at the cache.  What a task does between taking
the lock and giving it back is therefore a single visit for all others: whatever
tasks do side by side, they could do so that no visit is interrupted, each with the
same acts in the same order, and the visits in the order of their ends.
-/

namespace ProbeLifecycle

/-- What others notice of a task: a whole visit to the cache with the acts inside
it, or an act that goes without the cache. -/
inductive Move where
  | visit (found : Option AccessToken) (inside : List Act)
      (left : Option AccessToken)
  | alone (act : Act)
  deriving DecidableEq, Repr

def Move.acts : Move → List Act
  | visit found inside left => .lock found :: (inside ++ [.unlock left])
  | alone act => [act]

def Move.events (move : Move) : List Event :=
  move.acts.filterMap Act.event?

@[simp]
theorem Move.events_visit (found : Option AccessToken) (inside : List Act)
    (left : Option AccessToken) :
    (visit found inside left).events =
      .locked :: (inside.filterMap Act.event? ++ [.unlocked left]) := by
  simp [events, acts, Act.event?]

/-- The moves so far, and the visit that has not ended. -/
structure Journal (ι : Type) where
  moves : List (ι × Move) := []
  visitor : Option (ι × Option AccessToken × List Act) := none

section Journals

variable {ι : Type} [DecidableEq ι]

def Journal.enter (journal : Journal ι) : ι × Act → Journal ι
  | (task, .lock found) => { journal with visitor := some (task, found, []) }
  | (_, .unlock left) =>
      match journal.visitor with
      | some (visitor, found, inside) =>
          { moves := journal.moves ++ [(visitor, .visit found inside left)] }
      | none => journal
  | (task, act) =>
      match journal.visitor with
      | some (visitor, found, inside) =>
          if task = visitor then
            { journal with visitor := some (visitor, found, inside ++ [act]) }
          else { journal with moves := journal.moves ++ [(task, .alone act)] }
      | none => { journal with moves := journal.moves ++ [(task, .alone act)] }

def journal (trace : List (ι × Act)) : Journal ι :=
  trace.foldl Journal.enter {}

theorem journal_concat (trace : List (ι × Act)) (made : ι × Act) :
    journal (trace ++ [made]) = (journal trace).enter made := by
  simp [journal]

/-- The acts in a journal, visit by visit, with those of an unfinished visit last. -/
def Journal.acts (journal : Journal ι) : List (ι × Act) :=
  journal.moves.flatMap (fun made => made.2.acts.map (made.1, ·)) ++
    match journal.visitor with
    | some (visitor, found, inside) => (.lock found :: inside).map (visitor, ·)
    | none => []

def movesOf (trace : List (ι × Act)) : List (ι × Move) :=
  (journal trace).moves

end Journals

namespace Progress

variable {α : Type}

inductive GoesOn : Progress α → List Act → Progress α → Prop where
  | stay {progress : Progress α} : GoesOn progress [] progress
  | act {progress next later : Progress α} {act : Act} {acts : List Act}
      (does : progress.Does act next) (rest : GoesOn next acts later) :
      GoesOn progress (act :: acts) later

theorem GoesOn.concat {progress next later : Progress α} {acts : List Act}
    {act : Act} (before : progress.GoesOn acts next) (does : next.Does act later) :
    progress.GoesOn (acts ++ [act]) later := by
  induction before with
  | stay => exact .act does .stay
  | act first rest ih => exact .act first (ih does)

inductive Visits : Progress α → Option AccessToken → List Act →
    Option AccessToken → Progress α → Prop where
  | visit {next : Option AccessToken → Plan α} {found left : Option AccessToken}
      {acts : List Act} {rest : Plan α}
      (inside : (ready (next found)).GoesOn acts (.ready (.unlock left rest))) :
      Visits (.ready (.lock next)) found acts left (.ready rest)

section Entries

variable {ι : Type} [DecidableEq ι] {progress later : Progress α} {act : Act}
  {journal : Journal ι} {task visitor : ι} {found : Option AccessToken}
  {inside : List Act}

theorem Does.enter_free (does : progress.Does act later)
    (noVisitor : journal.visitor = none) :
    journal.enter (task, act) =
      { moves := journal.moves ++ [(task, .alone act)] } := by
  cases does <;> simp [Journal.enter, noVisitor]

theorem Does.enter_inside (does : progress.Does act later)
    (visits : journal.visitor = some (visitor, found, inside)) :
    journal.enter (visitor, act) =
      { journal with visitor := some (visitor, found, inside ++ [act]) } := by
  cases does <;> simp [Journal.enter, visits]

theorem Does.enter_outside (does : progress.Does act later)
    (visits : journal.visitor = some (visitor, found, inside))
    (different : task ≠ visitor) :
    journal.enter (task, act) =
      { journal with moves := journal.moves ++ [(task, .alone act)] } := by
  cases does <;> simp [Journal.enter, visits, different]

end Entries

end Progress

namespace Scene

variable {ι α : Type} [DecidableEq ι]

def unvisited (scene : Scene ι α) (visitor : ι)
    (next : Option AccessToken → Plan α) : Scene ι α :=
  { scene.advance visitor (.ready (.lock next)) with holder := none }

section Unvisited

variable (scene : Scene ι α) (visitor : ι) (next : Option AccessToken → Plan α)

@[simp]
theorem unvisited_progress_self :
    (scene.unvisited visitor next).progress visitor = .ready (.lock next) :=
  Function.update_self ..

theorem unvisited_progress_ne {task : ι} (different : task ≠ visitor) :
    (scene.unvisited visitor next).progress task = scene.progress task :=
  Function.update_of_ne different ..

theorem unvisited_locked (free : scene.holder = none)
    (waits : scene.progress visitor = .ready (.lock next))
    (progress : Progress α) :
    (scene.locked visitor progress).unvisited visitor next = scene := by
  simp only [unvisited, locked, advance, Function.update_idem, ← waits, ← free,
    Function.update_eq_self]

theorem unvisited_unlocked (progress : Progress α) (left : Option AccessToken) :
    (scene.unvisited visitor next).unlocked visitor left progress =
      scene.unlocked visitor left progress := by
  simp only [unvisited, unlocked, advance, Function.update_idem]

theorem unvisited_advance_self (progress : Progress α) :
    (scene.advance visitor progress).unvisited visitor next =
      scene.unvisited visitor next := by
  simp only [unvisited, advance, Function.update_idem]

theorem unvisited_advance_ne {task : ι} (different : task ≠ visitor)
    (progress : Progress α) :
    (scene.advance task progress).unvisited visitor next =
      (scene.unvisited visitor next).advance task progress := by
  simp only [unvisited, advance, Function.update_comm different]

end Unvisited

/-- One move of one task.  The lock is not taken before it, nor after it. -/
inductive Makes (scene : Scene ι α) (task : ι) : Move → Scene ι α → Prop where
  | alone {act : Act} {later : Progress α}
      (does : (scene.progress task).Does act later) :
      Makes scene task (.alone act) (scene.advance task later)
  | visit {inside : List Act} {left : Option AccessToken} {later : Progress α}
      (visits : (scene.progress task).Visits scene.cache inside left later) :
      Makes scene task (.visit scene.cache inside left)
        (scene.unlocked task left later)

/-- Whoever visits the cache finds what it holds. -/
theorem Makes.of_visit {scene later : Scene ι α} {task : ι}
    {found left : Option AccessToken} {inside : List Act}
    (makes : scene.Makes task (.visit found inside left) later) :
    scene.cache = found ∧
      ∃ next, (scene.progress task).Visits scene.cache inside left next := by
  generalize isVisit : Move.visit found inside left = move at makes
  cases makes with
  | alone does => cases isVisit
  | visit visits =>
      cases isVisit
      exact ⟨rfl, _, visits⟩

inductive Moves (start : Scene ι α) : List (ι × Move) → Scene ι α → Prop where
  | idle : Moves start [] start
  | move {moves : List (ι × Move)} {scene later : Scene ι α} {task : ι} {move : Move}
      (before : Moves start moves scene) (makes : scene.Makes task move later) :
      Moves start (moves ++ [(task, move)]) later

/-- Every move among others is made in the scene that those before it have led to. -/
theorem Moves.split {start scene : Scene ι α} {first second : List (ι × Move)}
    {task : ι} {move : Move}
    (made : start.Moves (first ++ (task, move) :: second) scene) :
    ∃ before after, start.Moves first before ∧ before.Makes task move after := by
  generalize isWhole : first ++ (task, move) :: second = moves at made
  induction made generalizing second with
  | idle => simp at isWhole
  | @move moves middle later other last before makes ih =>
      rcases List.eq_nil_or_concat second with rfl | ⟨others, final, rfl⟩
      · obtain ⟨rfl, isLast⟩ := List.append_inj' isWhole rfl
        cases isLast
        exact ⟨_, _, before, makes⟩
      · rw [List.concat_eq_append, ← List.cons_append, ← List.append_assoc] at isWhole
        exact ih (List.append_inj' isWhole rfl).1

/-- What tasks have done so far, with a visit that has not ended taken back. -/
inductive Settles (start : Scene ι α) (journal : Journal ι) (scene : Scene ι α) :
    Prop where
  | free (noVisitor : journal.visitor = none) (noHolder : scene.holder = none)
      (moves : start.Moves journal.moves scene)
  | held {inside : List Act} (visitor : ι) (next : Option AccessToken → Plan α)
      (visits : journal.visitor = some (visitor, scene.cache, inside))
      (holds : scene.holder = some visitor)
      (goesOn : Progress.GoesOn (.ready (next scene.cache)) inside
        (scene.progress visitor))
      (moves : start.Moves journal.moves (scene.unvisited visitor next))

/-- Whatever tasks do side by side, they could do without interrupting a visit. -/
theorem Runs.settles {start scene : Scene ι α} {trace : List (ι × Act)}
    (free : start.holder = none) (runs : start.Runs trace scene) :
    start.Settles (journal trace) scene := by
  -- On the run.  Acts inside a visit go into the journal and are taken back from the
  -- scene, so that the moves made until then stay what they are; the end of the visit
  -- makes one move of them.
  induction runs with
  | idle => exact .free rfl free .idle
  | @act trace scene later task act before acts ih =>
      rw [journal_concat]
      cases acts with
      | @lock next noHolder waits =>
          cases ih with
          | held visitor next visits holds => simp [noHolder] at holds
          | free noVisitor _ moves =>
              refine .held task next rfl rfl ?_ ?_
              · simpa [locked, advance] using Progress.GoesOn.stay
              · rw [scene.unvisited_locked task next noHolder waits]
                exact moves
      | @unlock left rest holds leaves =>
          cases ih with
          | free _ noHolder => simp [noHolder] at holds
          | @held inside visitor next visits holdsToo goesOn moves =>
              cases holds.symm.trans holdsToo
              rw [leaves] at goesOn
              have visit : ((scene.unvisited task next).progress task).Visits
                  scene.cache inside left (.ready rest) := by
                rw [unvisited_progress_self]
                exact .visit goesOn
              have moves := moves.move (.visit visit)
              rw [scene.unvisited_unlocked] at moves
              rw [Journal.enter, visits]
              exact .free rfl rfl moves
      | @alone _ later does =>
          cases ih with
          | free noVisitor noHolder moves =>
              rw [does.enter_free noVisitor]
              exact .free rfl noHolder (.move moves (.alone does))
          | held visitor next visits holds goesOn moves =>
              by_cases same : task = visitor
              · subst same
                rw [does.enter_inside visits]
                refine .held task next rfl holds ?_ ?_
                · simpa [advance] using goesOn.concat does
                · rw [unvisited_advance_self]
                  exact moves
              · -- What somebody else does meanwhile comes before the visit.
                rw [does.enter_outside visits same]
                refine .held visitor next visits holds ?_ ?_
                · simpa [advance, Function.update_of_ne (Ne.symm same)] using goesOn
                · rw [scene.unvisited_advance_ne visitor next same]
                  refine .move moves (.alone ?_)
                  rw [scene.unvisited_progress_ne visitor next same]
                  exact does

/-- What tasks have done side by side are moves that lead to the same cache. -/
theorem Runs.exists_moves {start scene : Scene ι α} {trace : List (ι × Act)}
    (free : start.holder = none) (runs : start.Runs trace scene) :
    ∃ settled, start.Moves (movesOf trace) settled ∧ settled.cache = scene.cache := by
  cases runs.settles free with
  | free noVisitor noHolder moves => exact ⟨scene, moves, rfl⟩
  | held visitor next visits holds goesOn moves => exact ⟨_, moves, rfl⟩

/-- If all that tasks do is visiting the cache, they do it one after the other. -/
theorem Runs.eq_acts {start scene : Scene ι α} {trace : List (ι × Act)}
    (free : start.holder = none) (runs : start.Runs trace scene)
    (onlyVisits : ∀ made ∈ movesOf trace, ∀ act, made.2 ≠ .alone act) :
    trace = (journal trace).acts := by
  induction runs with
  | idle => rfl
  | @act trace scene later task act before acts ih =>
      rw [movesOf, journal_concat] at onlyVisits
      rw [journal_concat]
      have settles := before.settles free
      cases acts with
      | lock noHolder waits =>
          cases settles with
          | held visitor next visits holds => simp [noHolder] at holds
          | free noVisitor _ moves =>
              have spelled := ih onlyVisits
              simp only [Journal.acts, noVisitor, List.append_nil] at spelled
              conv => lhs; rw [spelled]
              rfl
      | @unlock left rest holds leaves =>
          cases settles with
          | free _ noHolder => simp [noHolder] at holds
          | held visitor next visits holdsToo goesOn moves =>
              cases holds.symm.trans holdsToo
              rw [Journal.enter, visits] at onlyVisits ⊢
              have spelled := ih fun made member =>
                onlyVisits made (List.mem_append_left _ member)
              simp only [Journal.acts, visits] at spelled
              conv => lhs; rw [spelled]
              simp [Journal.acts, Move.acts]
      | @alone _ later does =>
          have isLast : (task, Move.alone act) ∈
              (journal trace).moves ++ [(task, .alone act)] := by
            simp
          cases settles with
          | free noVisitor noHolder moves =>
              rw [does.enter_free noVisitor] at onlyVisits
              exact absurd rfl (onlyVisits _ isLast act)
          | held visitor next visits holds goesOn moves =>
              by_cases same : task = visitor
              · subst same
                rw [does.enter_inside visits] at onlyVisits ⊢
                have spelled := ih onlyVisits
                simp only [Journal.acts, visits] at spelled
                conv => lhs; rw [spelled]
                simp [Journal.acts]
              · rw [does.enter_outside visits same] at onlyVisits
                exact absurd rfl (onlyVisits _ isLast act)

end Scene

end ProbeLifecycle
