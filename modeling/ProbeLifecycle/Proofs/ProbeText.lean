import ProbeLifecycle.Probe.Json
import ProbeLifecycle.Proofs.JsonText

/-!
# Reading written probes

A probe that is written as JSON is read as the same probe, and so are the probes
of a listing.  The state of a probe has to be one that a name can stand for, as
it is in every probe that has been read.
-/

namespace ProbeLifecycle

open Json

namespace Json

namespace Shape

variable {α : Type} {shape : Shape α} {fields : shape.Fields} {name : String}
  {field : shape.Field} {node : Node} {value : shape.Value field}
  {members : Members}

theorem readMembers_cons (isField : shape.named name = some field)
    (absent : fields field = none) (read : shape.read field node = .ok value) :
    shape.readMembers fields ((.ofValue name, node) :: members) =
      shape.readMembers (shape.setField fields field value) members := by
  have readMember : shape.readMember fields (.ofValue name) node =
      .ok (shape.setField fields field value) := by
    simp only [readMember, Lexeme.ofValue, bind, Except.bind, isField, absent,
      Option.isSome_none, Bool.false_eq_true, if_false, read, pure, Except.pure]
  rw [readMembers, readMember]

theorem reader_object {value : α}
    (read : shape.readMembers shape.noFields members =
      shape.readMembers fields [])
    (build : shape.build fields = .ok value) :
    shape.reader (.object members .closed) = .ok value := by
  simp only [reader, read, readMembers, bind, Except.bind, Ending.pass, build]

end Shape

theorem readEntries_strings (before entries : List (String × String)) :
    readEntries readString before
        (memberNodes (fun value => .string (.ofValue value)) entries) =
      .ok (before.reverse ++ entries) := by
  induction entries generalizing before with
  | nil => simp [memberNodes, readEntries]
  | cons entry entries ih =>
      have read := ih (entry :: before)
      simp only [memberNodes, List.map_cons, readEntries, Lexeme.ofValue, bind,
        Except.bind, readString] at read ⊢
      rw [read]
      simp

theorem readItems_map {α : Type} {read : Reader α} {node : α → Node}
    (before : List α) {items : List α}
    (reads : ∀ item ∈ items, read (node item) = .ok item) :
    readItems read before (items.map node) = .ok (before.reverse ++ items) := by
  induction items generalizing before with
  | nil => simp [readItems]
  | cons item items ih =>
      obtain ⟨readsItem, readsItems⟩ := List.forall_mem_cons.mp reads
      rw [List.map_cons, readItems, readsItem]
      dsimp only
      rw [ih (item :: before) readsItems]
      simp

end Json

namespace Labels

/-- An entry whose key comes after all others is put at the end. -/
theorem insertEntry_last {key value : String} {entries : List (String × String)}
    (last : ∀ entry ∈ entries, entry.1 < key) :
    insertEntry key value entries = entries ++ [(key, value)] := by
  induction entries with
  | nil => rfl
  | cons entry entries ih =>
      obtain ⟨before, rest⟩ := List.forall_mem_cons.mp last
      have notBefore : ¬ key < entry.1 := fun after => String.lt_asymm before after
      have notSame : key ≠ entry.1 := by
        rintro rfl
        exact String.lt_irrefl _ before
      rw [insertEntry, if_neg notBefore, if_neg notSame, ih rest, List.cons_append]

theorem entries_foldl {entries : List (String × String)} {labels : Labels}
    (ascending : KeysAscending (labels.entries ++ entries)) :
    (entries.foldl (fun labels entry => labels.insert entry.1 entry.2)
      labels).entries = labels.entries ++ entries := by
  induction entries generalizing labels with
  | nil => simp
  | cons entry entries ih =>
      obtain ⟨key, value⟩ := entry
      have last : ∀ other ∈ labels.entries, other.1 < key := by
        intro other member
        exact (List.pairwise_append.mp ascending).2.2 other member (key, value)
          List.mem_cons_self
      have inserted : (labels.insert key value).entries =
          labels.entries ++ [(key, value)] := insertEntry_last last
      have regrouped : labels.entries ++ (key, value) :: entries =
          (labels.insert key value).entries ++ entries := by
        rw [inserted]
        simp
      rw [regrouped] at ascending ⊢
      exact ih ascending

/-- Labels are determined by their entries. -/
theorem ofEntries_entries (labels : Labels) : ofEntries labels.entries = labels := by
  have same := @entries_foldl labels.entries empty labels.ascending
  have ext : ∀ first second : Labels, first.entries = second.entries →
      first = second := by
    rintro ⟨_, _⟩ ⟨_, _⟩ rfl
    rfl
  exact ext _ _ same

theorem reader_node (labels : Labels) :
    reader labels.json.node = .ok labels := by
  have nodes : labels.json.node = .object
      (memberNodes (fun value => .string (.ofValue value)) labels.entries)
      .closed := by
    simp only [json, Value.node, Value.nodes_eq, memberNodes, List.map_map]
    rfl
  rw [nodes]
  simp only [reader, readObject, readEntries_strings, bind, Except.bind,
    Ending.pass, pure, Except.pure, Except.map, List.reverse_nil,
    List.nil_append, ofEntries_entries]

end Labels

namespace Probe

/-- The state of a probe is one that its name stands for. -/
def IsRepresentable (probe : Probe) : Prop :=
  Status.ofName probe.status.name = probe.status

/-- A written probe is read as it was. -/
theorem reader_node {probe : Probe} (representable : probe.IsRepresentable) :
    reader probe.json.node = .ok probe := by
  obtain ⟨id, clusterId, apiserverUrl, status, labels⟩ := probe
  have readsStatus : Field.read .status (.string (.ofValue status.name)) =
      .ok status := by
    change Except.map Status.ofName (.ok status.name) = _
    rw [Except.map, representable]
  have readsLabels : Field.read .labels labels.json.node = .ok labels :=
    labels.reader_node
  -- The cases are the members that are left out.
  by_cases noCluster : clusterId = ""
  · subst noCluster
    cases apiserverUrl with
    | none =>
        apply Shape.reader_object
        · refine (Shape.readMembers_cons rfl rfl rfl).trans ?_
          refine (Shape.readMembers_cons rfl rfl readsStatus).trans ?_
          exact Shape.readMembers_cons rfl rfl readsLabels
        · rfl
    | some url =>
        apply Shape.reader_object
        · refine (Shape.readMembers_cons rfl rfl rfl).trans ?_
          refine (Shape.readMembers_cons rfl rfl rfl).trans ?_
          refine (Shape.readMembers_cons rfl rfl readsStatus).trans ?_
          exact Shape.readMembers_cons rfl rfl readsLabels
        · rfl
  · simp only [json, members, noCluster, if_false]
    cases apiserverUrl with
    | none =>
        apply Shape.reader_object
        · refine (Shape.readMembers_cons rfl rfl rfl).trans ?_
          refine (Shape.readMembers_cons rfl rfl rfl).trans ?_
          refine (Shape.readMembers_cons rfl rfl readsStatus).trans ?_
          exact Shape.readMembers_cons rfl rfl readsLabels
        · rfl
    | some url =>
        apply Shape.reader_object
        · refine (Shape.readMembers_cons rfl rfl rfl).trans ?_
          refine (Shape.readMembers_cons rfl rfl rfl).trans ?_
          refine (Shape.readMembers_cons rfl rfl rfl).trans ?_
          refine (Shape.readMembers_cons rfl rfl readsStatus).trans ?_
          exact Shape.readMembers_cons rfl rfl readsLabels
        · rfl

/-- The text of a probe is decoded as the probe. -/
theorem decode_write {probe : Probe} (representable : probe.IsRepresentable) :
    Json.decode reader (.ofList probe.json.write) = .ok probe := by
  rw [probe.json.denotes.decode, reader_node representable]

end Probe

def writeProbes (probes : List Probe) : List Char :=
  '[' :: writeItems (fun probe => probe.json.write) probes

def probesNode (probes : List Probe) : Node :=
  .array (probes.map fun probe => probe.json.node) .closed

def listingText (probes : List Probe) : List Char :=
  '\x7b' :: writeFields writeProbes [("probes", probes)]

theorem denotes_listing (probes : List Probe) :
    Denotes (listingText probes)
      (.object (memberNodes probesNode [("probes", probes)]) .closed) := by
  apply Denotes.object
  intro member _
  exact .array fun probe _ => probe.json.denotes

theorem decode_listing {probes : List Probe}
    (representable : ∀ probe ∈ probes, probe.IsRepresentable) :
    Json.decode readListing (.ofList (listingText probes)) = .ok probes := by
  have readsItems : readArray Probe.reader (probesNode probes) = .ok probes := by
    have reads := readItems_map [] fun probe member =>
      Probe.reader_node (representable probe member)
    simp only [probesNode, readArray, reads, bind, Except.bind, Ending.pass,
      pure, Except.pure, List.reverse_nil, List.nil_append]
  rw [(denotes_listing probes).decode]
  apply Shape.reader_object
  · exact Shape.readMembers_cons rfl rfl readsItems
  · rfl

end ProbeLifecycle
