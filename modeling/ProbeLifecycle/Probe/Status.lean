/-!
# Probe states

The probe service reports the state of a probe by name.  Four names have a
meaning here; any other name is kept as it is.
-/

namespace ProbeLifecycle

inductive Status where
  | pending
  | active
  | failed
  | terminating
  | other (name : String)
  deriving DecidableEq, Repr

namespace Status

def name : Status → String
  | pending => "pending"
  | active => "active"
  | failed => "failed"
  | terminating => "terminating"
  | other name => name

def ofName (name : String) : Status :=
  if name = "pending" then pending
  else if name = "active" then active
  else if name = "failed" then failed
  else if name = "terminating" then terminating
  else other name

@[simp]
theorem name_ofName (name : String) : (ofName name).name = name := by
  unfold ofName
  repeat' split
  all_goals simp_all [Status.name]

end Status

end ProbeLifecycle
