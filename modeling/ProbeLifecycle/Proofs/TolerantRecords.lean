import Mathlib.Data.List.Nodup
import Mathlib.Data.List.Perm.Basic
import ProbeLifecycle.Cluster.Description
import ProbeLifecycle.Proofs.ProbeText
import ProbeLifecycle.Proofs.TolerantReading

/-!
# What reading probes and descriptions tolerates

Labels are read in any order of their keys.  From this and from the defaults of the
fields follows what is tolerated in a probe, in a listing of probes, and in the
description of a cluster.
-/

namespace ProbeLifecycle

open Json

section Labels

theorem insertEntry_comm_of_lt {key other : String} (before : key < other)
    (value otherValue : String) (entries : List (String × String)) :
    insertEntry key value (insertEntry other otherValue entries) =
      insertEntry other otherValue (insertEntry key value entries) := by
  have notAfter : ¬ other < key := fun after => String.lt_asymm before after
  have notSame : other ≠ key := by
    rintro rfl
    exact String.lt_irrefl _ before
  induction entries with
  | nil => simp [insertEntry, before, notAfter, notSame]
  | cons entry entries ih =>
      by_cases first : key < entry.1
      · simp only [insertEntry, if_pos first, if_neg notAfter, if_neg notSame]
        by_cases second : other < entry.1
        · simp [insertEntry, second, before]
        · by_cases same : other = entry.1
          · simp [insertEntry, same, first]
          · simp [insertEntry, second, same, first]
      · have notFirst : ¬ other < entry.1 :=
          fun second => first (String.lt_trans before second)
        have different : other ≠ entry.1 := by
          rintro rfl
          exact first before
        by_cases same : key = entry.1
        · simp [insertEntry, same, notFirst, different]
        · simp [insertEntry, first, same, notFirst, different, ih]

/-- Of two different keys it does not matter which is added first. -/
theorem Labels.insert_comm {key other : String} (distinct : key ≠ other)
    (value otherValue : String) (labels : Labels) :
    (labels.insert other otherValue).insert key value =
      (labels.insert key value).insert other otherValue := by
  have entries_comm : insertEntry key value (insertEntry other otherValue labels.entries) =
      insertEntry other otherValue (insertEntry key value labels.entries) := by
    by_cases before : key < other
    · exact insertEntry_comm_of_lt before value otherValue labels.entries
    · have after : other < key :=
        Std.lt_of_le_of_ne (Std.not_lt.mp before) distinct.symm
      exact (insertEntry_comm_of_lt after otherValue value labels.entries).symm
  unfold insert
  congr 1

theorem Labels.ofEntries_perm {entries others : List (String × String)}
    (perm : entries.Perm others) (distinct : (entries.map Prod.fst).Nodup) :
    ofEntries entries = ofEntries others := by
  refine perm.foldl_eq' ?_ empty
  intro first isFirst second isSecond labels
  by_cases same : first.1 = second.1
  · rw [List.inj_on_of_nodup_map distinct isFirst isSecond same]
  · exact (insert_comm same first.2 second.2 labels).symm

theorem Labels.reader_eq_ok {node : Node} {labels : Labels} :
    reader node = .ok labels ↔
      ∃ entries, readObject readString node = .ok entries ∧ ofEntries entries = labels := by
  unfold reader
  cases readObject readString node with
  | error problem => simp [Except.map]
  | ok entries => simp [Except.map]

/-- Labels whose keys are different are permuted. -/
inductive LabelsPermuted : Form → Form → Prop where
  | permuted {members others : MemberForms} (perm : members.Perm others)
      (distinct : (members.map fun member => member.1.lexeme.kept).Nodup) :
      LabelsPermuted (.object members) (.object others)

theorem map_kept_eq {α : Type} {read : Reader α} {members : Members}
    {entries : List (String × α)}
    (reads : List.Forall₂ (fun member entry =>
      member.1.kept = .ok entry.1 ∧ read member.2 = .ok entry.2) members entries) :
    (members.map fun member => member.1.kept) = (entries.map Prod.fst).map .ok := by
  induction reads with
  | nil => rfl
  | cons reads rest ih => simp only [List.map_cons, reads.1, ih]

theorem Labels.reader_permuted {form other : Form} (permuted : LabelsPermuted form other)
    {labels : Labels} (read : Labels.reader form.node = .ok labels) :
    Labels.reader other.node = .ok labels := by
  obtain ⟨given, readsEntries, rfl⟩ := reader_eq_ok.mp read
  obtain @⟨members, others, perm, distinct⟩ := permuted
  obtain ⟨_, _, ⟨rfl, rfl⟩, -, readsEach⟩ := readObject_eq_ok.mp readsEntries
  obtain ⟨givenToo, readsEachToo, permGiven⟩ :=
    List.perm_comp_forall₂ (formNodes_perm perm.symm) readsEach
  have distinctGiven : (given.map Prod.fst).Nodup := by
    have sameKeys := map_kept_eq readsEach
    rw [formNodes_eq, List.map_map] at sameKeys
    have distinctKeys : ((given.map Prod.fst).map Except.ok).Nodup := sameKeys ▸ distinct
    exact distinctKeys.of_map _
  refine reader_eq_ok.mpr ⟨givenToo, ?_, (ofEntries_perm permGiven.symm distinctGiven).symm⟩
  exact readObject_eq_ok.mpr ⟨formNodes others, .closed, rfl, rfl, readsEachToo⟩

end Labels

namespace Probe

def Field.default : (field : Field) → field.Value
  | .id => ""
  | .clusterId => ""
  | .apiserverUrl => none
  | .status => .pending
  | .labels => .empty

theorem ofFields_congr {fields others : (field : Field) → Option field.Value}
    (same : ∀ field,
      (fields field).or (some field.default) = (others field).or (some field.default)) :
    ofFields fields = ofFields others := by
  simp only [Option.or_some, Option.some.injEq] at same
  have sameId := same .id
  have sameCluster := same .clusterId
  have sameUrl := same .apiserverUrl
  have sameStatus := same .status
  have sameLabels := same .labels
  simp only [Field.default] at sameId sameCluster sameUrl sameStatus sameLabels
  simp only [ofFields, sameId, sameCluster, sameUrl, sameStatus, sameLabels]

/-- What a probe tolerates: any of its fields may be absent, and its labels may be
permuted. -/
def tolerance : Tolerance shape where
  default? field := some field.default
  build_congr same := congrArg Except.ok (ofFields_congr same)
  Rewrites field form other := field = Field.labels ∧ LabelsPermuted form other
  read_rewritten := by
    rintro field form other value ⟨rfl, permuted⟩ read
    exact Labels.reader_permuted permuted read

end Probe

section Listings

/-- One of several probes is changed in a way that it tolerates. -/
inductive ProbesEdited : Form → Form → Prop where
  | edited {before after : List Form} {members others : MemberForms}
      (edits : Probe.tolerance.Edits members others) :
      ProbesEdited (.array (before ++ .object members :: after))
        (.array (before ++ .object others :: after))

theorem forall₂_middle {α β : Type} {R : α → β → Prop} {before after : List α}
    {first second : α} (instead : ∀ value, R first value → R second value)
    {values : List β} (related : List.Forall₂ R (before ++ first :: after) values) :
    List.Forall₂ R (before ++ second :: after) values := by
  induction before generalizing values with
  | nil =>
      cases related with
      | cons here rest => exact .cons (instead _ here) rest
  | cons item before ih =>
      cases related with
      | cons here rest => exact .cons here (ih rest)

theorem readArray_edited {form other : Form} (edited : ProbesEdited form other)
    {probes : List Probe} (read : readArray Probe.reader form.node = .ok probes) :
    readArray Probe.reader other.node = .ok probes := by
  obtain @⟨before, after, members, others, edits⟩ := edited
  obtain ⟨_, _, ⟨rfl, rfl⟩, -, reads⟩ := readArray_eq_ok.mp read
  refine readArray_eq_ok.mpr ⟨_, _, rfl, rfl, ?_⟩
  rw [itemNodes_eq, List.map_append, List.map_cons] at reads ⊢
  exact forall₂_middle (fun probe read => edits.reader_eq read) reads

theorem getD_probes {fields others : Unit → Option (List Probe)}
    (same : ∀ field, (fields field).or (some []) = (others field).or (some [])) :
    (fields ()).getD [] = (others ()).getD [] := by
  simpa using same ()

/-- What a listing tolerates: its probes may be absent, and what they tolerate. -/
def listingTolerance : Tolerance listingShape where
  default? _ := some ([] : List Probe)
  build_congr same := congrArg Except.ok (getD_probes same)
  Rewrites _ := ProbesEdited
  read_rewritten edited read := readArray_edited edited read

end Listings

namespace ClusterDescription

def Field.default? : (field : Field) → Option field.Value
  | .apiServerHostname => none
  | .endpointAccess => some .publicOnly
  | .managementClusterId => some none

theorem ofFields_congr {fields others : (field : Field) → Option field.Value}
    (same : ∀ field,
      (fields field).or field.default? = (others field).or field.default?) :
    ofFields fields = ofFields others := by
  have sameHostname := same .apiServerHostname
  have sameAccess := same .endpointAccess
  have sameCluster := same .managementClusterId
  simp only [Field.default?, Option.or_some, Option.or_none, Option.some.injEq]
    at sameHostname sameAccess sameCluster
  simp only [ofFields, sameHostname, sameAccess, sameCluster]

/-- What a description tolerates: all of its fields but the host name may be absent. -/
def tolerance : Tolerance shape where
  default? := Field.default?
  build_congr := ofFields_congr
  Rewrites _ _ _ := False
  read_rewritten rewrites := rewrites.elim

end ClusterDescription

end ProbeLifecycle
