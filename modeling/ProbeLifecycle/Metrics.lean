/-!
# Metrics

What happens is measured as it happens.  Every kind of measurement belongs to
one or two series: a total, and for whatever takes time also the number of
durations observed.
-/

namespace ProbeLifecycle

inductive Operation where
  | createProbe
  | getProbe
  | deleteProbe
  deriving DecidableEq, Repr

def Operation.name : Operation → String
  | .createProbe => "create_probe"
  | .getProbe => "get_probe"
  | .deleteProbe => "delete_probe"

inductive Measurement where
  | request (operation : Operation) (success : Bool)
  | duplicateProbes
  | tokenRefresh (success : Bool)
  | deletionTimeout
  | info (version : String)
  deriving DecidableEq, Repr

def outcomeName (success : Bool) : String :=
  if success then "success" else "error"

/-- A series with its labels in order, as in
`name{key="value"}`. -/
def seriesName (name : String) (labels : List (String × String)) : String :=
  if labels.isEmpty then name
  else name ++ "\x7b" ++
    ",".intercalate (labels.map fun label =>
      label.1 ++ "=\"" ++ label.2 ++ "\"") ++ "\x7d"

namespace Measurement

def series : Measurement → List String
  | request operation success =>
      let labels :=
        [("operation", operation.name), ("status", outcomeName success)]
      [seriesName "probe_api_request_duration_seconds_count" labels,
        seriesName "probe_api_requests_total" labels]
  | duplicateProbes => [seriesName "probe_api_duplicate_probes_total" []]
  | tokenRefresh success =>
      [seriesName "oidc_token_refresh_duration_seconds_count" [],
        seriesName "oidc_token_refresh_total"
          [("status", outcomeName success)]]
  | deletionTimeout => [seriesName "probe_deletion_timeout_total" []]
  | info version => [seriesName "probesync_info" [("version", version)]]

/-- A series that is set rather than counted up. -/
def isGauge : Measurement → Bool
  | info _ => true
  | _ => false

end Measurement

/-- How often each series was recorded, in the order of first recording. -/
abbrev Tally := List (String × Nat)

namespace Tally

/-- Counts one more recording of a series; a gauge stays at one. -/
def add (isGauge : Bool) (name : String) : Tally → Tally
  | [] => [(name, 1)]
  | entry :: entries =>
      if entry.1 = name then
        (name, if isGauge then 1 else entry.2 + 1) :: entries
      else entry :: add isGauge name entries

def record (tally : Tally) (measurement : Measurement) : Tally :=
  measurement.series.foldl (fun tally name => add measurement.isGauge name tally)
    tally

def ofMeasurements (measurements : List Measurement) : Tally :=
  measurements.foldl record []

end Tally

end ProbeLifecycle
