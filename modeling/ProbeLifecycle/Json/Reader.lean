import ProbeLifecycle.Json.Node

/-!
# Reading JSON values

Readers turn a tree into a value of a wanted type, or report the first problem
in the text.  A choice between names is written as a string, or as an object
with that one name as its key and null as its value.
-/

namespace ProbeLifecycle.Json

abbrev Reader (α : Type) := Node → Except Problem α

def readString : Reader String
  | .string lexeme => lexeme.kept
  | node => .error node.misfit

/-- Reads a natural number of at most 64 bits, written without sign, point and
exponent. -/
def readNatural : Reader Nat
  | .number lexeme =>
      match lexeme.kept with
      | .ok (.natural value) => .ok value
      | .ok .real => .error .unsuitable
      | .error problem => .error problem
  | node => .error node.misfit

/-- Reads null as absent and anything else with the reader. -/
def readOptional {α : Type} (read : Reader α) : Reader (Option α)
  | .null => .ok none
  | node => (read node).map some

/-- Reads items from left to right; those before are in reverse. -/
def readItems {α : Type} (read : Reader α) (before : List α) :
    List Node → Except Problem (List α)
  | [] => .ok before.reverse
  | node :: nodes =>
      match read node with
      | .ok item => readItems read (item :: before) nodes
      | .error problem => .error problem

def readArray {α : Type} (read : Reader α) : Reader (List α)
  | .array items ending => do
      let values ← readItems read [] items
      ending.pass
      return values
  | node => .error node.misfit

/-- Reads members from left to right, each key with its value. -/
def readEntries {α : Type} (read : Reader α) (before : List (String × α)) :
    Members → Except Problem (List (String × α))
  | [] => .ok before.reverse
  | (key, node) :: members => do
      let name ← key.kept
      let value ← read node
      readEntries read ((name, value) :: before) members

def readObject {α : Type} (read : Reader α) : Reader (List (String × α))
  | .object members ending => do
      let entries ← readEntries read [] members
      ending.pass
      return entries
  | node => .error node.misfit

def readNull : Reader Unit
  | .null => .ok ()
  | node => .error node.misfit

def Ending.passLast : Ending → Except Problem Unit
  | .closed => .ok ()
  | .broken problem afterComma =>
      .error (if afterComma then .malformed else problem)

def chosen {α : Type} (named : String → Option α) (name : String) :
    Except Problem α :=
  match named name with
  | some choice => .ok choice
  | none => .error .unsuitable

/-- Reads a choice between names: a name, or an object with the name as its only key.
What begins otherwise, or has anything but a string after its brace, is no choice of
the wrong kind but malformed text. -/
def readChoice {α : Type} (named : String → Option α) : Reader α
  | .string lexeme => do
      let name ← lexeme.kept
      chosen named name
  | .object [] .closed => .error .malformed
  | .object [] (.broken problem _) => .error problem
  | .object ((key, node) :: members) ending => do
      let name ← key.kept
      let choice ← chosen named name
      readNull node
      match members with
      | [] =>
          ending.passLast
          return choice
      | _ :: _ => throw .malformed
  | .missing problem => .error problem
  | _ => .error .malformed

end ProbeLifecycle.Json
