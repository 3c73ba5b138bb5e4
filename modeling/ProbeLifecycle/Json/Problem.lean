/-!
# What can be wrong with JSON text

A text is read from left to right and the first problem decides.  There are
three kinds: the text ends too early, it is not JSON, or it is JSON of another
shape than the one wanted.

Numbers and strings are read under two sets of rules.  One that is kept has to
have a value; one that is only passed over has to be well formed.  A `Lexeme`
remembers the outcome of both.
-/

namespace ProbeLifecycle.Json

/-- The kinds of problem that reading JSON text can meet. -/
inductive Problem where
  | unfinished
  | malformed
  | unsuitable
  deriving DecidableEq, Repr

def Problem.message : Problem → String
  | .unfinished => "the text ends too early"
  | .malformed => "the text is not JSON"
  | .unsuitable => "the JSON has another shape than expected"

/-- A number or a string as it stands in the text: its value if it is kept, and
what is wrong with it even if it is only passed over. -/
structure Lexeme (α : Type) where
  kept : Except Problem α
  fault : Option Problem

def Lexeme.ofValue {α : Type} (value : α) : Lexeme α where
  kept := .ok value
  fault := none

def Lexeme.misfit {α : Type} (lexeme : Lexeme α) : Problem :=
  match lexeme.kept with
  | .error problem => problem
  | .ok _ => .unsuitable

end ProbeLifecycle.Json
