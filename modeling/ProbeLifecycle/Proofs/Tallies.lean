import Mathlib.Data.List.Perm.Basic
import ProbeLifecycle.Metrics

/-!
# What a tally says

A tally is read series by series.  A measurement raises the series that it belongs
to and leaves all others alone.  A series that is counted up therefore tells how
many of its measurements there were, and the order in which things were measured
does not show in any series.
-/

namespace ProbeLifecycle

def deletionTimeoutSeries : String := "probe_deletion_timeout_total"

def duplicateProbesSeries : String := "probe_api_duplicate_probes_total"

def requestTotalSeries (operation : Operation) (success : Bool) : String :=
  seriesName "probe_api_requests_total"
    [("operation", operation.name), ("status", outcomeName success)]

def requestDurationSeries (operation : Operation) (success : Bool) : String :=
  seriesName "probe_api_request_duration_seconds_count"
    [("operation", operation.name), ("status", outcomeName success)]

def refreshTotalSeries (success : Bool) : String :=
  seriesName "oidc_token_refresh_total" [("status", outcomeName success)]

def refreshDurationSeries : String :=
  "oidc_token_refresh_duration_seconds_count"

namespace Measurement

variable {measurement other : Measurement} {name : String}

theorem nodup_series (measurement : Measurement) : measurement.series.Nodup := by
  cases measurement with
  | request operation success =>
      cases operation <;> cases success <;>
        simp [series, seriesName, Operation.name, outcomeName]
  | tokenRefresh success =>
      cases success <;> simp [series, seriesName, outcomeName]
  | duplicateProbes => simp [series]
  | deletionTimeout => simp [series]
  | info version => simp [series]

theorem sixth_of_mem_series (member : name ∈ measurement.series) :
    name.toList[5]? = some 's' ↔ measurement.isGauge = true := by
  cases measurement with
  | info version =>
      obtain rfl := List.mem_singleton.mp member
      simp [seriesName, isGauge]
  | request operation success =>
      rcases List.mem_pair.mp member with rfl | rfl
      · simp [seriesName, isGauge]
      · simp [seriesName, isGauge]
  | tokenRefresh success =>
      rcases List.mem_pair.mp member with rfl | rfl
      · simp [seriesName, isGauge]
      · simp [seriesName, isGauge]
  | duplicateProbes =>
      obtain rfl := List.mem_singleton.mp member
      simp [seriesName, isGauge]
  | deletionTimeout =>
      obtain rfl := List.mem_singleton.mp member
      simp [seriesName, isGauge]

theorem isGauge_eq_of_mem_series (member : name ∈ measurement.series)
    (memberToo : name ∈ other.series) : measurement.isGauge = other.isGauge := by
  rw [Bool.eq_iff_iff, ← sixth_of_mem_series member,
    sixth_of_mem_series memberToo]

/-- A series in which just some measurements are counted, all of them up. -/
structure Counts (measured : Measurement → Bool) (name : String) : Prop where
  mem_series : ∀ measurement,
    name ∈ measurement.series ↔ measured measurement = true
  isGauge : ∀ measurement, measured measurement = true →
    measurement.isGauge = false

def isRefresh : Measurement → Bool
  | tokenRefresh _ => true
  | _ => false

def countedUp : List Measurement :=
  [request .createProbe true, request .createProbe false, request .getProbe true,
    request .getProbe false, request .deleteProbe true, request .deleteProbe false,
    tokenRefresh true, tokenRefresh false, duplicateProbes, deletionTimeout]

theorem mem_countedUp (counted : measurement.isGauge = false) :
    measurement ∈ countedUp := by
  cases measurement with
  | request operation success => cases operation <;> cases success <;> decide
  | tokenRefresh success => cases success <;> decide
  | duplicateProbes => decide
  | deletionTimeout => decide
  | info version => cases counted

/-- Measurements have no series in common, but for the duration of refreshes. -/
theorem eq_or_isRefresh_of_mem_series (counted : measurement.isGauge = false)
    (member : name ∈ measurement.series) (memberToo : name ∈ other.series) :
    measurement = other ∨
      measurement.isRefresh = true ∧ other.isRefresh = true := by
  -- There are few measurements that are counted up: all pairs are compared.
  have apart : ∀ first ∈ countedUp, ∀ second ∈ countedUp, first = second ∨
      (first.isRefresh = true ∧ second.isRefresh = true) ∨
        ∀ name ∈ first.series, name ∉ second.series := by
    decide +kernel
  have countedToo : other.isGauge = false := by
    rw [isGauge_eq_of_mem_series memberToo member, counted]
  rcases apart measurement (mem_countedUp counted) other (mem_countedUp countedToo) with
    same | refreshes | disjoint
  · exact .inl same
  · exact .inr refreshes
  · exact absurd memberToo (disjoint name member)

theorem Counts.of_mem (member : name ∈ measurement.series)
    (counted : measurement.isGauge = false)
    (distinct : measurement.isRefresh = true → ∀ success,
      name ∈ (tokenRefresh success).series → measurement = tokenRefresh success) :
    Counts (· == measurement) name := by
  constructor
  · intro other
    rw [beq_iff_eq]
    constructor
    · intro memberToo
      rcases eq_or_isRefresh_of_mem_series counted member memberToo with
        same | ⟨isRefresh, isRefreshToo⟩
      · exact same.symm
      · cases other with
        | tokenRefresh success => exact (distinct isRefresh success memberToo).symm
        | _ => cases isRefreshToo
    · rintro rfl
      exact member
  · intro other same
    rw [beq_iff_eq.mp same, counted]

theorem counts_request {operation : Operation} {success : Bool}
    (member : name ∈ (request operation success).series) :
    Counts (· == .request operation success) name := by
  apply Counts.of_mem member rfl
  intro isRefresh
  cases isRefresh

theorem counts_refreshTotal (success : Bool) :
    Counts (· == .tokenRefresh success) (refreshTotalSeries success) := by
  have member : refreshTotalSeries success ∈ (tokenRefresh success).series :=
    List.mem_pair.mpr (.inr rfl)
  apply Counts.of_mem member rfl
  intro isRefresh same memberToo
  cases success <;> cases same <;>
    simp [refreshTotalSeries, series, seriesName, outcomeName] at memberToo ⊢

theorem counts_refreshDuration : Counts isRefresh refreshDurationSeries := by
  have member : ∀ success, refreshDurationSeries ∈ (tokenRefresh success).series :=
    fun _ => List.mem_pair.mpr (.inl rfl)
  constructor
  · intro other
    constructor
    · intro memberToo
      rcases eq_or_isRefresh_of_mem_series rfl (member true) memberToo with
        same | ⟨-, isRefresh⟩
      · rw [← same]
        rfl
      · exact isRefresh
    · intro isRefresh
      cases other with
      | tokenRefresh success => exact member success
      | _ => cases isRefresh
  · intro other isRefresh
    cases other with
    | tokenRefresh success => rfl
    | _ => cases isRefresh

theorem counts_deletionTimeout :
    Counts (· == .deletionTimeout) deletionTimeoutSeries := by
  apply Counts.of_mem (List.mem_singleton.mpr rfl) rfl
  intro isRefresh
  cases isRefresh

theorem counts_duplicateProbes :
    Counts (· == .duplicateProbes) duplicateProbesSeries := by
  apply Counts.of_mem (List.mem_singleton.mpr rfl) rfl
  intro isRefresh
  cases isRefresh

end Measurement

namespace Tally

def recorded (tally : Tally) (name : String) : Nat :=
  (tally.lookup name).getD 0

/-- What a series holds after a measurement, given what it held before. -/
def raised (name : String) (count : Nat) (measurement : Measurement) : Nat :=
  if name ∈ measurement.series then
    if measurement.isGauge then 1 else count + 1
  else count

section Reading

variable (tally : Tally) (name : String)

theorem recorded_cons (entry : String × Nat) :
    recorded (entry :: tally) name =
      if name = entry.1 then entry.2 else tally.recorded name := by
  unfold recorded
  rw [List.lookup_cons]
  by_cases same : name = entry.1
  · simp [same]
  · simp [same, beq_eq_false_iff_ne.mpr same]

theorem recorded_add (isGauge : Bool) (added : String) :
    (tally.add isGauge added).recorded name =
      if name = added then
        if isGauge then 1 else tally.recorded name + 1
      else tally.recorded name := by
  induction tally with
  | nil =>
      unfold add
      rw [recorded_cons]
      simp [recorded]
  | cons entry entries ih =>
      unfold add
      split
      · rename_i same
        subst same
        simp only [recorded_cons]
        by_cases equal : name = entry.1
        · simp [equal]
        · simp [equal]
      · rename_i different
        simp only [recorded_cons, ih]
        by_cases equal : name = entry.1
        · have distinct : name ≠ added := equal ▸ different
          simp [equal, different]
        · simp [equal]

theorem recorded_foldl_add (isGauge : Bool) {names : List String}
    (nodup : names.Nodup) :
    (names.foldl (fun tally name => tally.add isGauge name) tally).recorded
        name =
      if name ∈ names then
        if isGauge then 1 else tally.recorded name + 1
      else tally.recorded name := by
  induction nodup generalizing tally with
  | nil => simp
  | @cons added names fresh nodup ih =>
      rw [List.foldl_cons, ih, recorded_add]
      by_cases equal : name = added
      · have absent : name ∉ names := fun member => fresh name member equal.symm
        simp [equal ▸ absent, equal]
      · simp [equal]

theorem recorded_record (measurement : Measurement) :
    (tally.record measurement).recorded name =
      raised name (tally.recorded name) measurement :=
  recorded_foldl_add tally name measurement.isGauge measurement.nodup_series

theorem recorded_foldl_record (measured : List Measurement) :
    (measured.foldl record tally).recorded name =
      measured.foldl (raised name) (tally.recorded name) := by
  induction measured generalizing tally with
  | nil => rfl
  | cons measurement measured ih =>
      rw [List.foldl_cons, List.foldl_cons, ih, recorded_record]

end Reading

/-- Of two measurements it does not matter which is counted first. -/
instance (name : String) : RightCommutative (raised name) where
  right_comm count first second := by
    unfold raised
    by_cases member : name ∈ first.series
    · by_cases memberToo : name ∈ second.series
      · simp [member, memberToo,
          Measurement.isGauge_eq_of_mem_series member memberToo]
      · simp [member, memberToo]
    · simp [member]

theorem recorded_perm {first second : List Measurement}
    (perm : first.Perm second) (name : String) :
    (ofMeasurements first).recorded name =
      (ofMeasurements second).recorded name := by
  unfold ofMeasurements
  rw [recorded_foldl_record, recorded_foldl_record, perm.foldl_eq]

theorem recorded_append {measured : Measurement → Bool} {name : String}
    (counts : Measurement.Counts measured name)
    (earlier later : List Measurement) :
    (ofMeasurements (earlier ++ later)).recorded name =
      (ofMeasurements earlier).recorded name + later.countP measured := by
  have raised_eq : ∀ count measurement, raised name count measurement =
      count + if measured measurement = true then 1 else 0 := by
    intro count measurement
    unfold raised
    by_cases isMeasured : measured measurement = true
    · have member := (counts.mem_series measurement).mpr isMeasured
      simp [member, isMeasured, counts.isGauge measurement isMeasured]
    · have absent := mt (counts.mem_series measurement).mp isMeasured
      simp [absent, isMeasured]
  unfold ofMeasurements
  rw [List.foldl_append, recorded_foldl_record]
  generalize (earlier.foldl record []).recorded name = count
  induction later generalizing count with
  | nil => rfl
  | cons measurement later ih =>
      rw [List.foldl_cons, ih, raised_eq, List.countP_cons, Nat.add_assoc,
        Nat.add_comm (later.countP measured)]

theorem recorded_deletionTimeouts (earlier later : List Measurement) :
    (ofMeasurements (earlier ++ later)).recorded deletionTimeoutSeries =
      (ofMeasurements earlier).recorded deletionTimeoutSeries +
        later.count .deletionTimeout :=
  recorded_append Measurement.counts_deletionTimeout earlier later

end Tally

end ProbeLifecycle
