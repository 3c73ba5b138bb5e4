/-!
# What becomes of a request

A request may never be sent, may find nobody to talk to, or may lose its peer
before an answer comes.  A reply has a status; its body is complete or breaks
off before its announced end.

A request is what is handed to the HTTP library once.  If the library follows
redirects, the reply is the one at their end.
-/

namespace ProbeLifecycle

inductive TransportFault where
  | unsent
  | unreached
  | hungUp
  | truncated
  deriving DecidableEq, Repr

def TransportFault.message : TransportFault → String
  | .unsent => "the request cannot be built"
  | .unreached => "the peer cannot be reached"
  | .hungUp => "the peer closed the connection without a reply"
  | .truncated => "the body of the reply ends too early"

inductive Body where
  | complete (bytes : List UInt8)
  | truncated
  deriving DecidableEq, Repr

/-- What becomes of a request. -/
inductive Delivery where
  | unsent
  | unreached
  | hungUp
  | reply (status : Nat) (body : Body)
  deriving DecidableEq, Repr

def isSuccess (status : Nat) : Bool :=
  200 ≤ status && status ≤ 299

end ProbeLifecycle
