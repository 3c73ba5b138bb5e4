import ProbeLifecycle.Probe.Error
import ProbeLifecycle.Text.WhiteSpace
import ProbeLifecycle.Url.Parser

/-!
# The collection of a tenant's probes

All probes of a tenant form a collection with an address of its own.  It is
given directly, by an address whose path names probes, or by a base address to
which the tenant is added.  Each cluster's probe lies one segment below.
-/

namespace ProbeLifecycle

open Text

def occursIn (part : List Char) : List Char → Bool
  | [] => part.isEmpty
  | char :: chars => part.isPrefixOf (char :: chars) || occursIn part chars

/-- The addresses and the tenant of the probes that are managed. -/
structure Collection where
  url : Url
  tenant : String
  deriving DecidableEq, Repr

namespace Collection

/-- What the path of a collection contains. -/
def marker : String := "/probes"

/-- The segments that lead from a base address to a tenant's collection. -/
def segments (tenant : String) : List String :=
  [tenant, "metrics", "probes"]

/-- The address of a tenant's collection, given the text of an address. -/
def resolve (base tenant : String) : Except ProbeError Url :=
  match Address.read (.ofList (stripEnd (· == '/') base.toList)) with
  | .error reason => .error (.invalidUrl base reason.message)
  | .ok .other => .error (.invalidUrl base "scheme must be http or https")
  | .ok (.web url) =>
      if occursIn marker.toList url.path.chars then .ok url
      else if tenant = "" then .error (.invalidUrl base "tenant is required")
      else if url.cannotBeBase then .error (.invalidUrl base "URL cannot be a base")
      else .ok (url.extendPath (segments tenant))

def ofBase (base tenant : String) : Except ProbeError Collection :=
  (resolve base tenant).map fun url => ⟨url, tenant⟩

def probeUrl (collection : Collection) (clusterId : String) : Url :=
  collection.url.extendPath [clusterId]

/-- The parameter that selects probes by a label. -/
def selectorName : String := "label_selector"

def selectorValue (clusterId : String) : String :=
  "cluster_id=" ++ clusterId

def lookupUrl (collection : Collection) (clusterId : String) : Url :=
  collection.url.appendPair selectorName (selectorValue clusterId)

end Collection

end ProbeLifecycle
