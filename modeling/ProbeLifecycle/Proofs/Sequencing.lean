/-!
# Steps in sequence

A sequence of two steps that may fail returns what its second step returns for the result
of the first one.  It fails with the error of the step that is the first to fail.
-/

namespace ProbeLifecycle

variable {ε α β : Type} {first : Except ε α} {next : α → Except ε β} {result : β} {error : ε}

theorem bind_eq_ok :
    first.bind next = .ok result ↔ ∃ value, first = .ok value ∧ next value = .ok result := by
  cases first with
  | error found => simp [Except.bind]
  | ok value => simp [Except.bind]

theorem bind_eq_error :
    first.bind next = .error error ↔
      first = .error error ∨ ∃ value, first = .ok value ∧ next value = .error error := by
  cases first with
  | error found => simp [Except.bind]
  | ok value => simp [Except.bind]

end ProbeLifecycle
