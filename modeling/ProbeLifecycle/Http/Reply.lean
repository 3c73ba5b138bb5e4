import ProbeLifecycle.Http.Delivery
import ProbeLifecycle.Text.Utf8

/-!
# Complete replies

What a requester works with is a status and the text of a body that arrived
whole.  Bytes become text as UTF-8, without a byte order mark at the start and
with U+FFFD in place of whatever is malformed.  Other encodings, which the type
of a body or a byte order mark of UTF-16 announces, are left out.
-/

namespace ProbeLifecycle

open Text

structure Reply where
  status : Nat
  body : String
  deriving DecidableEq, Repr

def bodyText (bytes : List UInt8) : String :=
  .ofList (decodeUtf8Lossy (dropByteOrderMark bytes))

namespace Delivery

/-- The status of a reply, even if its body breaks off. -/
def status? : Delivery → Option Nat
  | reply status _ => some status
  | _ => none

/-- The reply, if it came whole. -/
def receive : Delivery → Except TransportFault Reply
  | unsent => .error .unsent
  | unreached => .error .unreached
  | hungUp => .error .hungUp
  | reply _ .truncated => .error .truncated
  | reply status (.complete bytes) => .ok ⟨status, bodyText bytes⟩

def isReached : Delivery → Bool
  | unsent => false
  | unreached => false
  | hungUp => true
  | reply _ _ => true

end Delivery

end ProbeLifecycle
