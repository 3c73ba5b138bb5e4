import ProbeLifecycle.Plan.Surroundings
import ProbeLifecycle.Proofs.LookupSelection
import ProbeLifecycle.Proofs.ProbeText
import ProbeLifecycle.Proofs.RecordReading
import ProbeLifecycle.Service.Basic

/-!
# Probes written and read again

Every probe that has been read can be written and read again, and so can every state
by its name.  A caller who asks for the probe of a cluster therefore reads just the
probe that the service has listed first.
-/

namespace ProbeLifecycle

open Json Text

namespace Status

def knownNames : List String := ["pending", "active", "failed", "terminating"]

/-- A state is the one of its name unless it spells a known name out. -/
theorem ofName_name_iff (status : Status) :
    ofName status.name = status ↔ ∀ name ∈ knownNames, status ≠ .other name := by
  cases status with
  | other name =>
      constructor
      · rintro equal known member ⟨⟩
        have none_other : ∀ known ∈ knownNames, ofName known ≠ .other known := by decide
        exact none_other name member equal
      · intro unknown
        have differs : ∀ known ∈ knownNames, name ≠ known :=
          fun known member same => unknown known member (congrArg _ same)
        simp [knownNames] at differs
        simp [Status.name, ofName, differs]
  | _ => simp [Status.name, ofName]

theorem reader_eq_ok {node : Node} {status : Status} :
    reader node = .ok status ↔ ∃ name, readString node = .ok name ∧ ofName name = status := by
  unfold reader
  cases readString node with
  | error problem => simp [Except.map]
  | ok name => simp [Except.map]

end Status

section Decoded

theorem mem_readArray {α : Type} {read : Reader α} {items : List α} {node : Node}
    (reads : readArray read node = .ok items) :
    ∀ item ∈ items, ∃ node, read node = .ok item := by
  obtain ⟨nodes, ending, -, -, readsEach⟩ := readArray_eq_ok.mp reads
  clear reads
  induction readsEach with
  | nil => simp
  | cons readsFirst rest ih => exact List.forall_mem_cons.mpr ⟨⟨_, readsFirst⟩, ih⟩

theorem Probe.isRepresentable_of_reader {node : Node} {probe : Probe}
    (read : reader node = .ok probe) : probe.IsRepresentable := by
  obtain ⟨fields, haveRead, built⟩ := Shape.fields_of_reader read
  have isField : probe.status = (fields Field.status : Option Status).getD .pending := by
    rw [← Except.ok.inj built]
    rfl
  unfold IsRepresentable
  rw [isField]
  cases held : (fields Field.status : Option Status) with
  | none => rfl
  | some status =>
      obtain ⟨node, readStatus⟩ := haveRead Field.status status held
      obtain ⟨name, -, rfl⟩ := Status.reader_eq_ok.mp readStatus
      change Status.ofName (Status.ofName name).name = Status.ofName name
      rw [Status.name_ofName]

/-- Every probe that has been read can be written. -/
theorem Probe.isRepresentable_of_decode {text : String} {probe : Probe}
    (read : decode reader text = .ok probe) : probe.IsRepresentable :=
  isRepresentable_of_reader (decode_eq_ok.mp read).1

theorem isRepresentable_of_listed {text : String} {probes : List Probe}
    (read : decode readListing text = .ok probes) :
    ∀ probe ∈ probes, probe.IsRepresentable := by
  obtain ⟨fields, haveRead, built⟩ := Shape.fields_of_reader (decode_eq_ok.mp read).1
  obtain rfl : (fields ()).getD [] = probes := Except.ok.inj built
  intro probe member
  cases held : fields () with
  | none =>
      rw [held] at member
      cases member
  | some listed =>
      rw [held] at member
      obtain ⟨array, readsArray⟩ := haveRead () listed held
      obtain ⟨node, read⟩ := mem_readArray readsArray probe member
      exact Probe.isRepresentable_of_reader read

/-- A state in a text of its own, or as what a probe shall change to, is read by its
name. -/
theorem decode_status (name : String) :
    decode Status.reader (Value.string name).text = .ok (Status.ofName name) := by
  rw [Value.text, (Value.string name).denotes.decode]
  rfl

theorem decode_transition (name : String) :
    decode readTransition (Value.object [("status", .string name)]).text =
      .ok (Status.ofName name) := by
  rw [Value.text, (Value.object [("status", .string name)]).denotes.decode]
  apply Shape.reader_object
  · exact Shape.readMembers_cons rfl rfl rfl
  · rfl

end Decoded

/-- The probe that is shown is the first one that the service has listed, and it is
shown whenever the service lists one. -/
structure Web.ShowsFirst {ω : Type} (clusterId : String) (run : Run ω Response) :
    Prop where
  shows : ∀ reply probe, RepliesOnce (exchanges run.events) reply →
    Attempt.Finds clusterId probe ⟨.lookup clusterId, .ok reply⟩ →
      ∃ response, run.conclusion = .finished response ∧ response.status = 200 ∧
        decode Probe.reader response.body = .ok probe
  only : ∀ response, run.conclusion = .finished response → response.status = 200 →
    ∃ reply probe, RepliesOnce (exchanges run.events) reply ∧
      Attempt.Finds clusterId probe ⟨.lookup clusterId, .ok reply⟩ ∧
      decode Probe.reader response.body = .ok probe

section Serving

variable {ω : Type} {cluster : String} {probe : Probe}

theorem Attempt.Finds.isRepresentable {attempt : Attempt}
    (finds : attempt.Finds cluster probe) : probe.IsRepresentable := by
  cases finds with
  | listed success read first =>
      exact isRepresentable_of_listed read probe (List.mem_of_find?_eq_some first)

namespace Web

/-- A request for the probe of a cluster. -/
structure Request.GetsProbe (request : Request) (cluster : String) : Prop where
  isGet : request.method = "GET"
  atProbe : ∃ segment, Resource.ofPath? request.path = some (.probe segment) ∧
    clusterId segment = .ok cluster

variable {server : Server} {request : Request} {now : Timestamp} {tally : Option Tally}

theorem serve_getsProbe (getsProbe : request.GetsProbe cluster) :
    server.serve request now tally =
      lookupResponse cluster <$> (server.reconciler.client.getProbe cluster).run := by
  obtain ⟨isGet, segment, atProbe, named⟩ := getsProbe
  have routed : route request = .ok (.getProbe segment) := by
    rw [route, atProbe, isGet]
    rfl
  have notHead : request.method ≠ "HEAD" := by
    rw [isGet]
    decide
  rw [Server.serve, routed, orRefuse]
  dsimp only
  rw [if_neg notHead, Server.perform, named]
  rfl

theorem showsFirst_run (getsProbe : request.GetsProbe cluster)
    (surroundings : Surroundings ω) (cache : Option AccessToken) (world : ω) :
    ShowsFirst cluster
      ((server.serve request now tally).run surroundings cache world) := by
  rw [serve_getsProbe getsProbe, surroundings.run_map]
  have selects :=
    selectsFirst_run surroundings server.reconciler.client cluster cache world
  constructor
  · intro reply probe replies finds
    have found := (selects.some_iff probe).mpr ⟨reply, replies, finds⟩
    exact ⟨lookupResponse cluster (.ok (some probe)),
      congrArg (Conclusion.map (lookupResponse cluster)) found, rfl,
      Probe.decode_write finds.isRepresentable⟩
  · intro response finished success
    obtain ⟨result, found, rfl⟩ := Conclusion.map_eq_finished.mp finished
    cases result with
    | error error => cases success
    | ok probe? =>
        cases probe? with
        | none => cases success
        | some probe =>
            obtain ⟨reply, replies, finds⟩ := (selects.some_iff probe).mp found
            exact ⟨reply, probe, replies, finds, Probe.decode_write finds.isRepresentable⟩

end Web

end Serving

/-- What is written is read again: probes and states in every text, and the probe of a
cluster in the response that shows it. -/
theorem probe_roundTrip :
    (∀ probe : Probe, (∀ name ∈ Status.knownNames, probe.status ≠ .other name) →
      decode Probe.reader probe.json.text = .ok probe) ∧
    (∀ text probe, decode Probe.reader text = .ok probe →
      ∀ name ∈ Status.knownNames, probe.status ≠ .other name) ∧
    (∀ text probes, decode readListing text = .ok probes →
      ∀ probe ∈ probes, ∀ name ∈ Status.knownNames, probe.status ≠ .other name) ∧
    (∀ text name, decode readString text = .ok name →
      ∃ status : Status, decode Status.reader text = .ok status ∧ status.name = name) ∧
    (∀ name : String, ∃ status : Status, status.name = name ∧
      decode Status.reader (Value.string name).text = .ok status ∧
      (Value.string status.name).text = (Value.string name).text ∧
      decode readTransition (Value.object [("status", .string name)]).text =
        .ok status ∧
      (transitionJson status).text =
        (Value.object [("status", .string name)]).text) ∧
    ∀ (ω : Type) (server : Web.Server) (request : Web.Request) (now : Timestamp)
      (tally : Option Tally) (surroundings : Surroundings ω)
      (cache : Option AccessToken) (world : ω) (cluster : String),
      request.GetsProbe cluster →
        Web.ShowsFirst cluster
          ((server.serve request now tally).run surroundings cache world) := by
  refine ⟨?_, ?_, ?_, ?_, ?_, ?_⟩
  · intro probe unknown
    exact Probe.decode_write (probe.status.ofName_name_iff.mpr unknown)
  · intro text probe read
    exact probe.status.ofName_name_iff.mp (Probe.isRepresentable_of_decode read)
  · intro text probes read probe member
    exact probe.status.ofName_name_iff.mp (isRepresentable_of_listed read probe member)
  · intro text name read
    obtain ⟨readsString, whole⟩ := decode_eq_ok.mp read
    have readsStatus := Status.reader_eq_ok.mpr ⟨name, readsString, rfl⟩
    exact ⟨.ofName name, decode_eq_ok.mpr ⟨readsStatus, whole⟩, Status.name_ofName name⟩
  · intro name
    have named : (Status.ofName name).name = name := Status.name_ofName name
    refine ⟨.ofName name, named, decode_status name, ?_, decode_transition name, ?_⟩
    · rw [named]
    · rw [transitionJson, named]
  · intro ω server request now tally surroundings cache world cluster getsProbe
    exact Web.showsFirst_run getsProbe surroundings cache world

/-- A probe with unusual characters in all its texts is read as it was written, and is
shown to a caller as the service has listed it. -/
theorem probe_roundTrip_unusual :
    let probe : Probe := {
      id := "\"\\/\n\x01"
      clusterId := "é"
      apiserverUrl := some "\t😀"
      status := .other "Pending"
      labels := .ofEntries [("β\x7f", "\r"), ("a", "")] }
    let server : Web.Server :=
      (Service.ofClient ⟨⟨{ scheme := .http, host := "probes" }, "hcp"⟩, none⟩
        false 900).server
    let request : Web.Request := ⟨"GET", "/api/clusters/%C3%A9/probe", none, ""⟩
    let run := (server.serve request ⟨0, 0, 0, by decide⟩ none).run (.scripted ⟨0⟩) none
      [⟨some 200, .complete (utf8Bytes (listingText [probe]))⟩]
    decode Probe.reader probe.json.text = .ok probe ∧
      request.GetsProbe "é" ∧ Web.ShowsFirst "é" run ∧
      run.conclusion = .finished (.json 200 probe.json) := by
  intro probe server request run
  obtain ⟨written, -, -, -, -, shown⟩ := probe_roundTrip
  have unknown : ∀ name ∈ Status.knownNames, probe.status ≠ .other name := by decide
  have getsProbe : request.GetsProbe "é" :=
    ⟨rfl, "%C3%A9".toList, by decide +kernel, by decide +kernel⟩
  refine ⟨written probe unknown, getsProbe, shown _ _ _ _ _ _ _ _ _ getsProbe, ?_⟩
  decide +kernel

end ProbeLifecycle
