import ProbeLifecycle.Web.Message

/-!
# Routes

Three resources are served: the probe of a cluster, the metrics and a sign of
life.  A path leads to a resource only if it matches exactly, and a resource
understands only some methods.  A request that leads nowhere is answered with a
response that has no content.
-/

namespace ProbeLifecycle.Web

open Text

/-- Something that the service can do.  A cluster is named as it stands in the
path. -/
inductive Action where
  | getProbe (segment : List Char)
  | ensureProbe (segment : List Char)
  | deleteProbe (segment : List Char)
  | showMetrics
  | showHealth
  deriving DecidableEq, Repr

inductive Resource where
  | probe (segment : List Char)
  | metrics
  | health
  deriving DecidableEq, Repr

namespace Resource

def ofPath? (path : List Char) : Option Resource :=
  match (path.splitOn '/').map String.ofList with
  | ["", "metrics"] => some .metrics
  | ["", "healthz"] => some .health
  | ["", "api", "clusters", segment, "probe"] =>
      if segment = "" then none else some (.probe segment.toList)
  | _ => none

def action? : Resource → String → Option Action
  | probe segment, "GET" => some (.getProbe segment)
  | probe segment, "HEAD" => some (.getProbe segment)
  | probe segment, "PUT" => some (.ensureProbe segment)
  | probe segment, "DELETE" => some (.deleteProbe segment)
  | metrics, "GET" => some .showMetrics
  | metrics, "HEAD" => some .showMetrics
  | health, "GET" => some .showHealth
  | health, "HEAD" => some .showHealth
  | _, _ => none

def allowed : Resource → String
  | probe _ => "GET,HEAD,PUT,DELETE"
  | metrics => "GET,HEAD"
  | health => "GET,HEAD"

end Resource

/-- The action that a request asks for, or the response to one that asks for
none. -/
def route (request : Request) : Except Response Action :=
  match Resource.ofPath? request.path with
  | none => .error (.empty 404)
  | some resource =>
      match resource.action? request.method with
      | some action => .ok action
      | none => .error { status := 405, allow := some resource.allowed }

end ProbeLifecycle.Web
