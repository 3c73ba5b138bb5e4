import ProbeLifecycle.Proofs.LockDiscipline
import ProbeLifecycle.Proofs.Visits

/-!
# Visits of those who ask for a token

Whoever asks for a token visits the cache once.  What the visit leaves, whatever
others do meanwhile, is what asking for a token leaves in a run of its own, and the
task is then where the conclusion takes it.
-/

namespace ProbeLifecycle

section Ended

variable {α : Type} (conclusion : Conclusion α)

theorem Conclusion.not_does {act : Act} {later : Progress α} :
    ¬ (Progress.ready conclusion.plan).Does act later := by
  intro does
  cases conclusion <;> cases does

theorem Conclusion.not_visits {found left : Option AccessToken} {inside : List Act}
    {later : Progress α} :
    ¬ (Progress.ready conclusion.plan).Visits found inside left later := by
  intro visits
  cases conclusion <;> cases visits

end Ended

section Inside

variable {α : Type} {acts : List Act} {left : Option AccessToken} {rest : Plan α}

namespace Progress

theorem GoesOn.of_clock {next : Instant → Plan α}
    (goesOn : (ready (.clock next)).GoesOn acts (.ready (.unlock left rest))) :
    ∃ now others, acts = .readClock now :: others ∧
      (ready (next now)).GoesOn others (.ready (.unlock left rest)) := by
  cases goesOn with
  | act does others =>
      cases does with
      | readClock now => exact ⟨now, _, rfl, others⟩

theorem GoesOn.of_exchange {request : Request} {next : Delivery → Plan α}
    (goesOn : (ready (.exchange request next)).GoesOn acts
      (.ready (.unlock left rest))) :
    ∃ delivery others, acts = .send request :: .receive request delivery :: others ∧
      (ready (next delivery)).GoesOn others (.ready (.unlock left rest)) := by
  cases goesOn with
  | act sends goesOn =>
      cases sends with
      | send =>
          cases goesOn with
          | act receives others =>
              cases receives with
              | receive delivery possible => exact ⟨delivery, _, rfl, others⟩

theorem GoesOn.of_measure {measurement : Measurement} {next : Plan α}
    (goesOn : (ready (.measure measurement next)).GoesOn acts
      (.ready (.unlock left rest))) :
    ∃ others, acts = .measure measurement :: others ∧
      (ready next).GoesOn others (.ready (.unlock left rest)) := by
  cases goesOn with
  | act does others =>
      cases does with
      | measure => exact ⟨_, rfl, others⟩

theorem GoesOn.of_unlock {leaving : Option AccessToken} {next : Plan α}
    (goesOn : (ready (.unlock leaving next)).GoesOn acts
      (.ready (.unlock left rest))) :
    acts = [] ∧ leaving = left ∧ next = rest := by
  cases goesOn with
  | stay => exact ⟨rfl, rfl, rfl⟩
  | act does others => cases does

end Progress

end Inside

namespace TokenProvider

variable {provider : TokenProvider} {α : Type}
  {next : Except TokenError AccessToken → Plan α} {left : Option AccessToken}

/-- The rest of a visit in which a refresh is made. -/
theorem provides_goesOn {found : Option AccessToken} {opening : List Event}
    {acts : List Act} {rest : Plan α} (misses : Misses found opening)
    (goesOn : Progress.GoesOn (.ready ((provider.refresh found).bind next)) acts
      (.ready (.unlock left rest))) :
    ∃ conclusion,
      provider.Provides found
        (opening ++ acts.filterMap Act.event? ++ [.unlocked left]) conclusion left ∧
      rest = conclusion.plan.bind next := by
  rw [refresh_steps] at goesOn
  simp only [Plan.bind] at goesOn
  obtain ⟨fetchedAt, _, rfl, asks⟩ := goesOn.of_clock
  obtain ⟨delivery, _, rfl, learns⟩ := asks.of_exchange
  cases granted : delivery.grant with
  | error error =>
      simp only [granted, Plan.bind] at learns
      obtain ⟨_, rfl, leaves⟩ := learns.of_measure
      obtain ⟨rfl, rfl, rfl⟩ := leaves.of_unlock
      refine ⟨.finished (.error error), ?_, rfl⟩
      rw [List.append_assoc]
      exact .refused misses granted
  | ok response =>
      cases issued : provider.accessToken? fetchedAt response with
      | none =>
          simp only [granted, issued, Plan.bind] at learns
          obtain ⟨rfl, rfl, rfl⟩ := learns.of_unlock
          refine ⟨.halted .clockOverflow, ?_, rfl⟩
          rw [List.append_assoc]
          exact .overflowed misses granted issued
      | some token =>
          simp only [granted, issued, Plan.bind] at learns
          obtain ⟨_, rfl, leaves⟩ := learns.of_measure
          obtain ⟨rfl, rfl, rfl⟩ := leaves.of_unlock
          refine ⟨.finished (.ok token), ?_, rfl⟩
          rw [List.append_assoc]
          exact .refreshed misses granted issued

theorem provides_visits {found : Option AccessToken} {inside : List Act}
    {later : Progress α}
    (visits : Progress.Visits (.ready (provider.token.bind next)) found inside left
      later) :
    ∃ conclusion,
      provider.Provides found (Move.visit found inside left).events conclusion left ∧
      later = .ready (conclusion.plan.bind next) := by
  rw [Move.events_visit]
  rw [token_steps] at visits
  simp only [Plan.bind] at visits
  obtain @⟨_, _, _, _, rest, goesOn⟩ := visits
  cases found with
  | none =>
      obtain ⟨conclusion, provides, rfl⟩ := provides_goesOn .empty goesOn
      exact ⟨conclusion, provides, rfl⟩
  | some token =>
      simp only [Plan.bind] at goesOn
      obtain ⟨now, _, rfl, looks⟩ := goesOn.of_clock
      by_cases valid : token.IsValidAt now
      · simp only [valid, if_true, Plan.bind] at looks
        obtain ⟨rfl, rfl, rfl⟩ := looks.of_unlock
        exact ⟨_, .reused valid, rfl⟩
      · simp only [valid, if_false] at looks
        obtain ⟨conclusion, provides, rfl⟩ :=
          provides_goesOn (.expired valid) looks
        exact ⟨conclusion, provides, rfl⟩

end TokenProvider

end ProbeLifecycle
