import ProbeLifecycle.Proofs.Calls

/-!
# Procedures

A procedure is what an operation does as far as its calls are concerned: which
call it makes next and what it measures, depending on what came of the calls
before.  How tokens are obtained and requests are sent is left to the client.
What a procedure does is a list of attempts, and what is proved about all
procedures holds of every operation that is one.
-/

namespace ProbeLifecycle

/-- A call that was attempted: the failure to make it, or the complete reply. -/
structure Attempt where
  call : Call
  outcome : Except ProbeError Reply

/-- What an operation does, call by call, on the way to its result. -/
inductive Procedure (α : Type) where
  | finish (value : α)
  | measure (measurement : Measurement) (next : Procedure α)
  | attempt (call : Call) (next : Except ProbeError Reply → Procedure α)

namespace Procedure

variable {α β : Type}

def bind (next : α → Procedure β) : Procedure α → Procedure β
  | finish value => next value
  | measure measurement rest => .measure measurement (rest.bind next)
  | attempt call rest => .attempt call fun outcome => (rest outcome).bind next

def plan (client : ProbeClient) : Procedure α → Plan α
  | finish value => .done value
  | measure measurement next => .measure measurement (next.plan client)
  | attempt call next =>
      (client.execute call).run.bind fun outcome => (next outcome).plan client

theorem plan_bind (client : ProbeClient) (procedure : Procedure α)
    (next : α → Procedure β) :
    (procedure.bind next).plan client =
      (procedure.plan client).bind fun value => (next value).plan client := by
  induction procedure with
  | finish value => rfl
  | measure measurement rest ih => simp only [bind, plan, Plan.bind, ih]
  | attempt call rest ih => simp only [bind, plan, Plan.bind_assoc, ih]

def map (change : α → β) (procedure : Procedure α) : Procedure β :=
  procedure.bind fun value => .finish (change value)

theorem plan_map (client : ProbeClient) (change : α → β)
    (procedure : Procedure α) :
    (procedure.map change).plan client = change <$> procedure.plan client := by
  unfold map
  rw [plan_bind]
  rfl

/-- The attempts after which a procedure ends, and its result. -/
inductive Ends : Procedure α → List Attempt → α → Prop where
  | finish {value} : Ends (.finish value) [] value
  | measure {measurement next attempts value}
      (rest : Ends next attempts value) :
      Ends (.measure measurement next) attempts value
  | attempt {call next outcome attempts value}
      (rest : Ends (next outcome) attempts value) :
      Ends (.attempt call next) (⟨call, outcome⟩ :: attempts) value

section Ends

variable {attempts : List Attempt}

@[simp]
theorem ends_finish {value result : α} :
    (finish value).Ends attempts result ↔ attempts = [] ∧ result = value := by
  constructor
  · rintro ⟨⟩
    exact ⟨rfl, rfl⟩
  · rintro ⟨rfl, rfl⟩
    exact .finish

@[simp]
theorem ends_measure {measurement : Measurement} {next : Procedure α}
    {result : α} :
    (measure measurement next).Ends attempts result ↔
      next.Ends attempts result := by
  constructor
  · intro ends
    cases ends with
    | measure ends => exact ends
  · exact .measure

theorem ends_attempt {call : Call} {next : Except ProbeError Reply → Procedure α}
    {result : α} :
    (attempt call next).Ends attempts result ↔
      ∃ outcome rest, attempts = ⟨call, outcome⟩ :: rest ∧
        (next outcome).Ends rest result := by
  constructor
  · intro ends
    cases ends with
    | attempt ends => exact ⟨_, _, rfl, ends⟩
  · rintro ⟨outcome, rest, rfl, ends⟩
    exact .attempt ends

theorem ends_bind {procedure : Procedure α} {next : α → Procedure β}
    {result : β} :
    (procedure.bind next).Ends attempts result ↔
      ∃ first second value, attempts = first ++ second ∧
        procedure.Ends first value ∧ (next value).Ends second result := by
  induction procedure generalizing attempts with
  | finish value =>
      simp only [bind, ends_finish]
      constructor
      · intro ends
        exact ⟨[], attempts, value, rfl, ⟨rfl, rfl⟩, ends⟩
      · rintro ⟨first, second, _, rfl, ⟨rfl, rfl⟩, ends⟩
        exact ends
  | measure measurement rest ih => simp [bind, ih]
  | attempt call rest ih =>
      simp only [bind, ends_attempt, ih]
      constructor
      · rintro ⟨outcome, _, rfl, first, second, value, rfl, ends, later⟩
        exact ⟨⟨call, outcome⟩ :: first, second, value, rfl,
          ⟨outcome, first, rfl, ends⟩, later⟩
      · rintro ⟨_, second, value, rfl, ⟨outcome, first, rfl, ends⟩, later⟩
        exact ⟨outcome, first ++ second, rfl, first, second, value, rfl, ends,
          later⟩

/-- The attempts determine the result. -/
theorem Ends.unique {procedure : Procedure α} {first second : α}
    (ends : procedure.Ends attempts first)
    (endsToo : procedure.Ends attempts second) : first = second := by
  induction ends with
  | finish => exact (ends_finish.mp endsToo).2.symm
  | measure rest ih => exact ih (ends_measure.mp endsToo)
  | attempt rest ih =>
      obtain ⟨outcome, later, equal, ends⟩ := ends_attempt.mp endsToo
      cases equal
      exact ih ends

end Ends

/-- What carrying a procedure out leaves: the attempts that were completed, the
events, how it ends, and the cache. -/
inductive Conducts (client : ProbeClient) : Procedure α → Option AccessToken →
    List Attempt → List Event → Conclusion α → Option AccessToken → Prop where
  | finish {value cache} :
      Conducts client (.finish value) cache [] [] (.finished value) cache
  | measure {measurement next cache attempts events conclusion later}
      (rest :
        Conducts client next cache attempts events conclusion later) :
      Conducts client (.measure measurement next) cache attempts
        (.measured measurement :: events) conclusion later
  | attempt {call next cache made outcome middle attempts events conclusion later}
      (makes : client.Makes call cache made (.finished outcome) middle)
      (rest :
        Conducts client (next outcome) middle attempts events conclusion
          later) :
      Conducts client (.attempt call next) cache (⟨call, outcome⟩ :: attempts)
        (made ++ events) conclusion later
  | broken {call next cache made cause later}
      (makes : client.Makes call cache made (.halted cause) later) :
      Conducts client (.attempt call next) cache [] made (.halted cause) later

section Runs

variable {ω : Type} (surroundings : Surroundings ω) (client : ProbeClient)

/-- Every run of a procedure is one of the listed ones. -/
theorem conducts_run (procedure : Procedure α) (cache : Option AccessToken)
    (world : ω) :
    let run := (procedure.plan client).run surroundings cache world
    ∃ attempts, procedure.Conducts client cache attempts run.events
      run.conclusion run.cache := by
  induction procedure generalizing cache world with
  | finish value => exact ⟨[], .finish⟩
  | measure measurement next ih =>
      obtain ⟨attempts, conducts⟩ := ih cache world
      exact ⟨attempts, .measure conducts⟩
  | attempt call next ih =>
      have makes := client.makes_execute surroundings call cache world
      simp only [plan, Plan.run_bind]
      generalize (client.execute call).run.run surroundings cache world = made
        at makes ⊢
      obtain ⟨conclusion, middle, world, events⟩ := made
      unfold Run.andThen
      cases conclusion with
      | halted cause => exact ⟨[], .broken makes⟩
      | finished outcome =>
          obtain ⟨attempts, conducts⟩ := ih outcome middle world
          exact ⟨⟨call, outcome⟩ :: attempts, .attempt makes conducts⟩

/-- A run that finishes has ended with its attempts. -/
theorem Conducts.ends {client : ProbeClient} {procedure : Procedure α}
    {cache later : Option AccessToken} {attempts : List Attempt}
    {events : List Event} {conclusion : Conclusion α} {value : α}
    (conducts :
      procedure.Conducts client cache attempts events conclusion later)
    (finished : conclusion = .finished value) :
    procedure.Ends attempts value := by
  induction conducts with
  | finish =>
      cases finished
      exact .finish
  | measure rest ih => exact .measure (ih finished)
  | attempt makes rest ih => exact .attempt (ih finished)
  | broken makes => cases finished

end Runs

end Procedure

/-- Calls that a client makes one after the other, and what is measured meanwhile. -/
inductive ProbeClient.MakesAll (client : ProbeClient) : Option AccessToken →
    List Event → Option AccessToken → Prop where
  | idle {cache} : MakesAll client cache [] cache
  | measured {cache measurement} :
      MakesAll client cache [.measured measurement] cache
  | made {call cache events conclusion later}
      (makes : client.Makes call cache events conclusion later) :
      MakesAll client cache events later
  | append {cache first middle second later}
      (before : MakesAll client cache first middle)
      (after : MakesAll client middle second later) :
      MakesAll client cache (first ++ second) later

theorem Procedure.Conducts.makesAll {α : Type} {client : ProbeClient}
    {procedure : Procedure α} {cache later : Option AccessToken}
    {attempts : List Attempt} {events : List Event} {conclusion : Conclusion α}
    (conducts :
      procedure.Conducts client cache attempts events conclusion later) :
    client.MakesAll cache events later := by
  induction conducts with
  | finish => exact .idle
  | measure rest ih => exact .append .measured ih
  | attempt makes rest ih => exact .append (.made makes) ih
  | broken makes => exact .made makes

end ProbeLifecycle
