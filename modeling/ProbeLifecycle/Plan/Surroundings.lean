import ProbeLifecycle.Plan.Run

/-!
# Known surroundings

Two kinds of surroundings have a simple description: those in which replies are
lined up beforehand, and those in which nobody can be reached.  In both the
clock stands still.
-/

namespace ProbeLifecycle

structure ScriptedReply where
  status : Option Nat
  body : Body := .complete []
  deriving DecidableEq, Repr

/-- Whether a status ends an exchange.  It has three digits, and is not one that
only announces another reply. -/
def isFinal (status : Nat) : Bool :=
  status == 101 || (200 ≤ status && status ≤ 999)

def isBodiless (status : Nat) : Bool :=
  status == 101 || status == 204 || status == 304

/-- What a request becomes when the reply is the next in line; after a status
that does not end the exchange nothing else comes. -/
def ScriptedReply.delivery (reply : ScriptedReply) : Delivery :=
  match reply.status.filter isFinal with
  | none => .hungUp
  | some status =>
      .reply status (if isBodiless status then .complete [] else reply.body)

namespace Surroundings

/-- Surroundings in which requests get the replies in line, and no reply when
the line has ended. -/
def scripted (now : Instant) : Surroundings (List ScriptedReply) where
  clock replies := (now, replies)
  deliver _ replies :=
    match replies with
    | [] => (.hungUp, [])
    | reply :: replies => (reply.delivery, replies)

def unreachable {ω : Type} (now : Instant) : Surroundings ω where
  clock world := (now, world)
  deliver _ world := (.unreached, world)

end Surroundings

end ProbeLifecycle
