/-!
# Writing JSON

Values are written without white space, the members of an object in their
order.  In strings only quotation marks, backslashes and control characters are
escaped, so all other text stands as it is.
-/

namespace ProbeLifecycle.Json

inductive Value where
  | null
  | bool (value : Bool)
  | string (value : String)
  | object (members : List (String × Value))

def controlDigits (char : Char) : List Char :=
  [Nat.digitChar (char.toNat / 16), Nat.digitChar (char.toNat % 16)]

def escapeChar (char : Char) : List Char :=
  if char = '"' then ['\\', '"']
  else if char = '\\' then ['\\', '\\']
  else if char = '\x08' then ['\\', 'b']
  else if char = '\x0c' then ['\\', 'f']
  else if char = '\n' then ['\\', 'n']
  else if char = '\r' then ['\\', 'r']
  else if char = '\t' then ['\\', 't']
  else if char.toNat < 0x20 then ['\\', 'u', '0', '0'] ++ controlDigits char
  else [char]

def writeString (value : String) : List Char :=
  '"' :: value.toList.flatMap escapeChar ++ ['"']

mutual

def Value.write : Value → List Char
  | .null => ['n', 'u', 'l', 'l']
  | .bool true => ['t', 'r', 'u', 'e']
  | .bool false => ['f', 'a', 'l', 's', 'e']
  | .string value => writeString value
  | .object members => '\x7b' :: writeMembers members

/-- The members of an object and its closing bracket. -/
def writeMembers : List (String × Value) → List Char
  | [] => ['\x7d']
  | [(name, value)] => writeString name ++ ':' :: value.write ++ ['\x7d']
  | (name, value) :: members =>
      writeString name ++ ':' :: value.write ++ ',' :: writeMembers members

end

def Value.text (value : Value) : String :=
  .ofList value.write

example : (Value.object [("a", .string "\"\n"), ("b", .bool true)]).text =
    "\x7b\"a\":\"\\\"\\n\",\"b\":true\x7d" := by
  decide

end ProbeLifecycle.Json
