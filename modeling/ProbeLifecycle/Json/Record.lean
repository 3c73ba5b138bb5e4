import ProbeLifecycle.Json.Reader

/-!
# Reading records

A record is written as an object, or as an array of its fields in their order.
In an object unknown members are passed over, and a field that occurs twice is
an error, also when it occurs under two of its names.  Fields that are absent
are left to the record, which knows their defaults.
-/

namespace ProbeLifecycle.Json

/-- How a record is read: its fields in order, the names each goes by, how its
value is read, and what the record is, given the fields that are present. -/
structure Shape (α : Type) where
  Field : Type
  decEq : DecidableEq Field
  order : List Field
  named : String → Option Field
  Value : Field → Type
  read : (field : Field) → Reader (Value field)
  build : ((field : Field) → Option (Value field)) → Except Problem α

namespace Shape

variable {α : Type} (shape : Shape α)

abbrev Fields : Type := (field : shape.Field) → Option (shape.Value field)

def noFields : shape.Fields := fun _ => none

def setField (fields : shape.Fields) (field : shape.Field)
    (value : shape.Value field) : shape.Fields := fun other =>
  match shape.decEq other field with
  | isTrue equal => some (equal ▸ value)
  | isFalse _ => fields other

def readMember (fields : shape.Fields) (key : Lexeme String) (node : Node) :
    Except Problem shape.Fields := do
  let name ← key.kept
  match shape.named name with
  | none =>
      node.pass
      return fields
  | some field =>
      if (fields field).isSome then throw .unsuitable
      let value ← shape.read field node
      return shape.setField fields field value

def readMembers (fields : shape.Fields) : Members → Except Problem shape.Fields
  | [] => .ok fields
  | (key, node) :: members =>
      match shape.readMember fields key node with
      | .ok fields => readMembers fields members
      | .error problem => .error problem

def readItems (fields : shape.Fields) (ending : Ending) :
    List shape.Field → List Node → Except Problem shape.Fields
  | [], [] => do
      ending.passLast
      return fields
  | [], _ :: _ => .error .malformed
  | _ :: _, [] => do
      ending.pass
      return fields
  | field :: order, node :: nodes => do
      let value ← shape.read field node
      readItems (shape.setField fields field value) ending order nodes

def reader : Reader α
  | .object members ending => do
      let fields ← shape.readMembers shape.noFields members
      ending.pass
      shape.build fields
  | .array items ending => do
      let fields ← shape.readItems shape.noFields ending shape.order items
      shape.build fields
  | node => .error node.misfit

end Shape

def required {α : Type} : Option α → Except Problem α
  | some value => .ok value
  | none => .error .unsuitable

end ProbeLifecycle.Json
