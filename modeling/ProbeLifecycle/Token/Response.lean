import ProbeLifecycle.Json.Record

/-!
# Token responses

The issuer answers a token request with an object that holds the token and its
lifetime in seconds, which is zero if it is not given.  The type of the token
is read and has no further use.
-/

namespace ProbeLifecycle

open Json

structure TokenResponse where
  accessToken : String
  tokenType : Option String := none
  expiresIn : Nat := 0
  deriving DecidableEq, Repr

namespace TokenResponse

inductive Field where
  | accessToken
  | tokenType
  | expiresIn
  deriving DecidableEq

def Field.named (name : String) : Option Field :=
  if name = "access_token" then some .accessToken
  else if name = "token_type" then some .tokenType
  else if name = "expires_in" then some .expiresIn
  else none

abbrev Field.Value : Field → Type
  | .accessToken => String
  | .tokenType => Option String
  | .expiresIn => Nat

def Field.read : (field : Field) → Reader field.Value
  | .accessToken => readString
  | .tokenType => readOptional readString
  | .expiresIn => readNatural

def ofFields (fields : (field : Field) → Option field.Value) :
    Except Problem TokenResponse := do
  let accessToken ← required (fields .accessToken)
  return {
    accessToken
    tokenType := (fields .tokenType).getD none
    expiresIn := (fields .expiresIn).getD 0 }

def shape : Shape TokenResponse where
  Field := Field
  decEq := inferInstance
  order := [.accessToken, .tokenType, .expiresIn]
  named := Field.named
  Value := Field.Value
  read := Field.read
  build := ofFields

def reader : Reader TokenResponse := shape.reader

end TokenResponse

end ProbeLifecycle
