import ProbeLifecycle.Http.Delivery
import ProbeLifecycle.Metrics
import ProbeLifecycle.Probe.Request
import ProbeLifecycle.Token.AccessToken
import ProbeLifecycle.Token.Request

/-!
# Plans

An operation is a plan: what it does next, depending on what it has learned.  A
plan can take the token cache under its lock and give it back, read the clock,
exchange a request for what becomes of it, and measure something.  What a plan
does is thereby open to inspection, and steps of several plans can be
interleaved.
-/

namespace ProbeLifecycle

inductive Request where
  | token (request : TokenRequest)
  | api (request : ApiRequest)
  deriving DecidableEq, Repr

/-- The message of a request; without one it cannot be sent. -/
def Request.message? : Request → Option Message
  | token request => request.message?
  | api request => request.message?

/-- Why a plan breaks off without a result. -/
inductive Fatal where
  | clockOverflow
  deriving DecidableEq, Repr

def Fatal.message : Fatal → String
  | .clockOverflow => "overflow when adding duration to instant"

/-- What an operation does, step by step, on the way to its result. -/
inductive Plan (α : Type) where
  | done (value : α)
  | halt (cause : Fatal)
  | lock (next : Option AccessToken → Plan α)
  | unlock (cached : Option AccessToken) (next : Plan α)
  | clock (next : Instant → Plan α)
  | exchange (request : Request) (next : Delivery → Plan α)
  | measure (measurement : Measurement) (next : Plan α)

namespace Plan

variable {α β γ : Type}

def bind (plan : Plan α) (next : α → Plan β) : Plan β :=
  match plan with
  | done value => next value
  | halt cause => .halt cause
  | lock rest => .lock fun cached => (rest cached).bind next
  | unlock cached rest => .unlock cached (rest.bind next)
  | clock rest => .clock fun now => (rest now).bind next
  | exchange request rest => .exchange request fun reply => (rest reply).bind next
  | measure measurement rest => .measure measurement (rest.bind next)

instance : Monad Plan where
  pure := done
  bind := bind

@[simp]
theorem bind_done (plan : Plan α) : plan.bind done = plan := by
  induction plan with
  | done value => rfl
  | halt cause => rfl
  | lock rest ih => simp [bind, ih]
  | unlock cached rest ih => simp [bind, ih]
  | clock rest ih => simp [bind, ih]
  | exchange request rest ih => simp [bind, ih]
  | measure measurement rest ih => simp [bind, ih]

theorem bind_assoc (plan : Plan α) (next : α → Plan β) (last : β → Plan γ) :
    (plan.bind next).bind last = plan.bind fun value => (next value).bind last := by
  induction plan with
  | done value => rfl
  | halt cause => rfl
  | lock rest ih => simp [bind, ih]
  | unlock cached rest ih => simp [bind, ih]
  | clock rest ih => simp [bind, ih]
  | exchange request rest ih => simp [bind, ih]
  | measure measurement rest ih => simp [bind, ih]

instance : LawfulMonad Plan :=
  LawfulMonad.mk' Plan (fun plan => bind_done plan) (fun _ _ => rfl)
    (fun plan next last => bind_assoc plan next last)

def takeCache : Plan (Option AccessToken) :=
  .lock .done

/-- Leaves the token cache as given and frees its lock. -/
def leaveCache (cached : Option AccessToken) : Plan Unit :=
  .unlock cached (.done ())

def now : Plan Instant :=
  .clock .done

/-- Sends a request and waits for what becomes of it. -/
def send (request : Request) : Plan Delivery :=
  .exchange request .done

def record (measurement : Measurement) : Plan Unit :=
  .measure measurement (.done ())

/-- Ends with a result or a failure that is already known. -/
def ofExcept {ε : Type} (result : Except ε α) : ExceptT ε Plan α :=
  ExceptT.mk (.done result)

end Plan

end ProbeLifecycle
