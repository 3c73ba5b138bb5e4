import ProbeLifecycle.Json.Token

/-!
# JSON trees

Tokens are assembled into a tree that also records where the text went wrong.
A container that lacks its closing bracket has a broken ending, and so have all
containers around it, so passing over a value needs only a look at its root.
Readers of a wanted type walk the tree from left to right and stop at the first
problem, which is the first one in the text.

Containers under way are kept in a list of frames, innermost first, so neither
a long nor a deeply nested text needs more than a loop.
-/

namespace ProbeLifecycle.Json

/-- How a container ends: with its bracket, or with a problem.  A broken ending
tells whether a comma was the last thing read in the container. -/
inductive Ending where
  | closed
  | broken (problem : Problem) (afterComma : Bool)

/-- A JSON value as far as it could be read.  A value is `missing` when no
token begins it, and `misspelt` when the token that should does not. -/
inductive Node where
  | null
  | bool (value : Bool)
  | number (lexeme : Lexeme Number)
  | string (lexeme : Lexeme String)
  | array (items : List Node) (ending : Ending)
  | object (members : List (Lexeme String × Node)) (ending : Ending)
  | misspelt (problem : Problem)
  | missing (problem : Problem)

/-- The members of an object, each a key and its value. -/
abbrev Members := List (Lexeme String × Node)

/-- A container in which a value is awaited, with what it holds so far, the
latest first. -/
inductive Frame where
  | array (items : List Node)
  | member (members : Members) (key : Lexeme String)

/-- What the next token may be, with the contents so far of the container that
awaits it, the latest first. -/
inductive Awaiting where
  | value
  | firstItem
  | afterItem (items : List Node)
  | firstKey
  | nextKey (members : Members)
  | colon (members : Members) (key : Lexeme String)
  | afterMember (members : Members)

/-- How far a text has been read: a value under way, a complete value, or a
value that cannot be completed. -/
inductive Progress where
  | reading (frames : List Frame) (awaiting : Awaiting)
  | complete (root : Node)
  | stopped (root : Node)

/-- The value at the root when reading stops with a value inside the frames. -/
def Node.unwind (problem : Problem) (node : Node) : List Frame → Node
  | [] => node
  | .array items :: frames =>
      Node.unwind problem
        (.array (node :: items).reverse (.broken problem false)) frames
  | .member members key :: frames =>
      Node.unwind problem
        (.object ((key, node) :: members).reverse (.broken problem false))
        frames

/-- The value at the root when a value is awaited in the frames and none
begins. -/
def Node.withoutValue (problem : Problem) : List Frame → Node
  | [] => .missing problem
  | .array items :: frames =>
      Node.unwind problem
        (.array items.reverse (.broken problem (!items.isEmpty))) frames
  | .member members key :: frames =>
      Node.unwind problem
        (.object ((key, .missing problem) :: members).reverse
          (.broken problem false)) frames

/-- The value at the root when reading stops between two tokens. -/
def Awaiting.stop (awaiting : Awaiting) (frames : List Frame)
    (problem : Problem) : Node :=
  match awaiting with
  | .value => Node.withoutValue problem frames
  | .firstItem => Node.withoutValue problem (.array [] :: frames)
  | .afterItem items =>
      Node.unwind problem
        (.array items.reverse (.broken problem false)) frames
  | .firstKey =>
      Node.unwind problem (.object [] (.broken problem false)) frames
  | .nextKey members =>
      Node.unwind problem
        (.object members.reverse (.broken problem true)) frames
  | .colon members key =>
      Node.withoutValue problem (.member members key :: frames)
  | .afterMember members =>
      Node.unwind problem
        (.object members.reverse (.broken problem false)) frames

def Progress.settle (node : Node) : List Frame → Progress
  | [] => .complete node
  | .array items :: frames => .reading frames (.afterItem (node :: items))
  | .member members key :: frames =>
      .reading frames (.afterMember ((key, node) :: members))

def Progress.leaf (frames : List Frame) (node : Node) (fault : Option Problem) :
    Progress :=
  match fault with
  | none => settle node frames
  | some problem => .stopped (node.unwind problem frames)

def Progress.beginValue (frames : List Frame) (token : Token) : Progress :=
  match token with
  | .openArray => .reading frames .firstItem
  | .openObject => .reading frames .firstKey
  | .null => leaf frames .null none
  | .bool value => leaf frames (.bool value) none
  | .number lexeme => leaf frames (.number lexeme) lexeme.fault
  | .string lexeme => leaf frames (.string lexeme) lexeme.fault
  | .misspelt problem => leaf frames (.misspelt problem) (some problem)
  | _ => .stopped (Awaiting.stop .value frames .malformed)

def Progress.beginMember (frames : List Frame) (members : Members)
    (key : Lexeme String) : Progress :=
  match key.fault with
  | none => .reading frames (.colon members key)
  | some problem =>
      .stopped (Node.withoutValue problem (.member members key :: frames))

def Progress.step (frames : List Frame) (awaiting : Awaiting) (token : Token) :
    Progress :=
  match awaiting, token with
  | .value, token => beginValue frames token
  | .firstItem, .closeArray => settle (.array [] .closed) frames
  | .firstItem, token => beginValue (.array [] :: frames) token
  | .afterItem items, .comma => .reading (.array items :: frames) .value
  | .afterItem items, .closeArray => settle (.array items.reverse .closed) frames
  | .firstKey, .string key => beginMember frames [] key
  | .firstKey, .closeObject => settle (.object [] .closed) frames
  | .nextKey members, .string key => beginMember frames members key
  | .colon members key, .colon => .reading (.member members key :: frames) .value
  | .afterMember members, .comma => .reading frames (.nextKey members)
  | .afterMember members, .closeObject =>
      settle (.object members.reverse .closed) frames
  | awaiting, _ => .stopped (awaiting.stop frames .malformed)

/-- A whole text: the value at its root, and whether anything follows it. -/
structure Document where
  root : Node
  trailing : Bool

def Document.assemble : Progress → List Token → Document
  | .complete root, tokens => ⟨root, !tokens.isEmpty⟩
  | .stopped root, _ => ⟨root, false⟩
  | .reading frames awaiting, [] => ⟨awaiting.stop frames .unfinished, false⟩
  | .reading frames awaiting, token :: tokens =>
      assemble (.step frames awaiting token) tokens

def Document.ofText (text : String) : Document :=
  assemble (.reading [] .value) (tokens text.toList)

/-- The problem met when any value is passed over that ends this way. -/
def Ending.pass : Ending → Except Problem Unit
  | .closed => .ok ()
  | .broken problem _ => .error problem

def Node.pass : Node → Except Problem Unit
  | .null => .ok ()
  | .bool _ => .ok ()
  | .number lexeme =>
      match lexeme.fault with
      | none => .ok ()
      | some problem => .error problem
  | .string lexeme =>
      match lexeme.fault with
      | none => .ok ()
      | some problem => .error problem
  | .array _ ending => ending.pass
  | .object _ ending => ending.pass
  | .misspelt problem => .error problem
  | .missing problem => .error problem

def Node.misfit : Node → Problem
  | .null => .unsuitable
  | .bool _ => .unsuitable
  | .number lexeme => lexeme.misfit
  | .string lexeme => lexeme.misfit
  | .array _ _ => .unsuitable
  | .object _ _ => .unsuitable
  | .misspelt problem => problem
  | .missing problem => problem

/-- Reads a whole text as one value and nothing after it. -/
def decode {α : Type} (read : Node → Except Problem α) (text : String) :
    Except Problem α :=
  let document := Document.ofText text
  match read document.root with
  | .error problem => .error problem
  | .ok value => if document.trailing then .error .malformed else .ok value

end ProbeLifecycle.Json
