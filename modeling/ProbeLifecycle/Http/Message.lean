import ProbeLifecycle.Text.Base64
import ProbeLifecycle.Text.Utf8
import ProbeLifecycle.Url.Parser

/-!
# Requests as they are sent

A request on the wire has a method, a target, headers and a body.  A value with
control characters cannot be a header, so a request that would carry one is not
sent.  Credentials in an address are not part of the target; they are sent as a
header instead.
-/

namespace ProbeLifecycle

open Text

inductive Method where
  | get
  | post
  | patch
  deriving DecidableEq, Repr

def Method.name : Method → String
  | .get => "GET"
  | .post => "POST"
  | .patch => "PATCH"

/-- A header: its name in lower case and its value. -/
structure Header where
  name : String
  value : String
  deriving DecidableEq, Repr

namespace Header

def isValueChar (char : Char) : Bool :=
  char == '\t' || (0x20 ≤ char.toNat && char.toNat != 0x7F)

/-- A header whose value can be sent. -/
def IsSendable (header : Header) : Prop :=
  header.value.toList.all isValueChar = true

instance (header : Header) : Decidable header.IsSendable :=
  inferInstanceAs (Decidable (_ = true))

/-- The value without space at its ends, as the peer reads it. -/
def received (header : Header) : String :=
  .ofList (stripEnds (fun char => char == ' ' || char == '\t')
    header.value.toList)

end Header

/-- A request on the wire. -/
structure Message where
  method : Method
  target : String
  headers : List Header
  body : String
  deriving DecidableEq, Repr

def percentDecoded? (text : String) : Option String :=
  (decodeUtf8? (percentDecode text.toList)).map String.ofList

/-- The header for the credentials in an address. -/
def Url.credentialsHeader? (url : Url) : Option Header :=
  match percentDecoded? url.username with
  | none => none
  | some username =>
      let password :=
        if url.password = "" then none else percentDecoded? url.password
      if username = "" ∧ password.isNone then none
      else
        let credentials := username ++ ":" ++ password.getD ""
        some {
          name := "authorization"
          value := "Basic " ++ .ofList (base64 (utf8Bytes credentials.toList)) }

/-- The message to an address, unless a header cannot be sent. -/
def Message.build? (method : Method) (url : Url) (headers : List Header)
    (body : String) : Option Message :=
  let headers := url.credentialsHeader?.toList ++ headers
  if ∀ header ∈ headers, header.IsSendable then
    some { method, target := url.target, headers, body }
  else none

end ProbeLifecycle
