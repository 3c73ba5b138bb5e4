import ProbeLifecycle.Proofs.GrammarCoverage
import ProbeLifecycle.Proofs.TolerantRecords

/-!
# Tolerant decoding is stable

Every text of an object that is decoded as a record is spelled by its members.  Any
changes of these that the record tolerates, in any white space, leave what is decoded.
-/

namespace ProbeLifecycle

open Json

namespace Json

section Stability

variable {α : Type} {shape : Shape α}

/-- Two members of an object are one field, under the same name or under two. -/
inductive GivenTwice (shape : Shape α) (members : MemberForms) : Prop where
  | twice {key other : StringForm} {value otherValue : Form} {rest : MemberForms}
      {name otherName : String} {field : shape.Field}
      (perm : members.Perm ((key, value) :: (other, otherValue) :: rest))
      (names : key.Names name) (isField : shape.named name = some field)
      (namesOther : other.Names otherName) (sameField : shape.named otherName = some field)

theorem GivenTwice.reader_ne {members : MemberForms} (twice : GivenTwice shape members)
    (value : α) : shape.reader (Form.object members).node ≠ .ok value := by
  intro read
  obtain ⟨perm, names, isField, namesOther, sameField⟩ := twice
  obtain ⟨-, fields, reads, -⟩ := Shape.reader_object_eq_ok.mp read
  cases reads.perm (formNodes_perm perm) with
  | next first rest =>
      cases rest with
      | next second rest =>
          obtain ⟨held, -, -, rfl⟩ := first.of_named names isField
          obtain ⟨-, absent, -⟩ := second.of_named namesOther sameField
          rw [Shape.setField_self] at absent
          cases absent

variable (tolerance : Tolerance shape)

/-- The texts of two objects, the second with tolerated changes of the members of the
first, each in any white space. -/
def Tolerance.EditsText (text other : String) : Prop :=
  ∃ members others, (Form.object members).Spells text ∧ (Form.object others).Spells other ∧
    Relation.ReflTransGen tolerance.Edits members others

/-- Every object text that is decoded is made up of members; what it is decoded as does
not change when these are edited; and no text in which a field is given twice is
decoded. -/
structure Tolerance.Stable : Prop where
  spelled : ∀ {text : String} {value : α}, IsObjectText text →
    decode shape.reader text = .ok value → ∃ members, (Form.object members).Spells text
  unchanged : ∀ {text other : String} {value : α}, tolerance.EditsText text other →
    decode shape.reader text = .ok value → decode shape.reader other = .ok value
  refused : ∀ {text : String} {members : MemberForms},
    (Form.object members).Spells text → GivenTwice shape members →
      ∀ value, decode shape.reader text ≠ .ok value

theorem Tolerance.stable : tolerance.Stable where
  spelled isObject decoded := exists_spells_object decoded isObject
  unchanged := by
    rintro text other value ⟨members, others, spells, spellsOther, edited⟩ decoded
    exact decode_edited edited spells spellsOther decoded
  refused spells twice value decoded :=
    twice.reader_ne value ((spells.decode_eq _).symm.trans decoded)

end Stability

end Json

section Defaults

theorem names_ofString (name : String) : (StringForm.ofString name).Names name :=
  congrArg Lexeme.kept (lexeme_ofString name)

theorem readString_ofString (value : String) :
    readString (Form.string (.ofString value)).node = .ok value :=
  names_ofString value

def Probe.Field.defaultForm : Probe.Field → Form
  | .id => .string (.ofString "")
  | .clusterId => .string (.ofString "")
  | .apiserverUrl => .null
  | .status => .string (.ofString "pending")
  | .labels => .object []

theorem Probe.holdsDefault (field : Field) :
    tolerance.HoldsDefault field field.defaultForm := by
  refine ⟨field.default, rfl, ?_⟩
  cases field with
  | id => exact readString_ofString ""
  | clusterId => exact readString_ofString ""
  | apiserverUrl => rfl
  | status => exact congrArg (Except.map Status.ofName) (readString_ofString "pending")
  | labels => rfl

def ClusterDescription.Field.defaultForm? : ClusterDescription.Field → Option Form
  | .apiServerHostname => none
  | .endpointAccess => some (.string (.ofString "Public"))
  | .managementClusterId => some .null

theorem ClusterDescription.holdsDefault {field : Field} {form : Form}
    (isDefault : field.defaultForm? = some form) : tolerance.HoldsDefault field form := by
  cases field with
  | apiServerHostname => cases isDefault
  | endpointAccess =>
      cases isDefault
      refine ⟨.publicOnly, rfl, ?_⟩
      change EndpointAccess.reader (.string (StringForm.ofString "Public").lexeme) = _
      rw [lexeme_ofString]
      rfl
  | managementClusterId =>
      cases isDefault
      exact ⟨none, rfl, rfl⟩

end Defaults

/-- Decoding a probe, a listing of probes or the description of a cluster is stable, where
the URL goes by either of its names and the fields with a default may be absent. -/
theorem decode_tolerant :
    (Probe.tolerance.Stable ∧
      Probe.Field.named "static_url" = Probe.Field.named "apiserver_url" ∧
      ∀ field : Probe.Field, Probe.tolerance.HoldsDefault field field.defaultForm) ∧
    (listingTolerance.Stable ∧ listingTolerance.HoldsDefault () (.array [])) ∧
    (ClusterDescription.tolerance.Stable ∧
      ∀ field : ClusterDescription.Field, ∀ form ∈ field.defaultForm?,
        ClusterDescription.tolerance.HoldsDefault field form) := by
  refine ⟨⟨Probe.tolerance.stable, rfl, Probe.holdsDefault⟩,
    ⟨listingTolerance.stable, [], rfl, rfl⟩,
    ClusterDescription.tolerance.stable, ?_⟩
  intro field form isDefault
  exact ClusterDescription.holdsDefault isDefault

/-- A probe with its members in another order, with its URL under the other name, its
labels turned round, an unknown member put in and a default left out. -/
theorem decode_tolerant_rearranged :
    let given := "\x7b\"status\":\"pending\",\"apiserver_url\":null," ++
      "\"labels\":\x7b\"a\":\"1\",\"b\":\"\"\x7d\x7d"
    let other := "\n\x7b\"labels\":\x7b\"b\":\"\",\"a\":\"1\"\x7d," ++
      "\"owner\":[true],\"static_url\":null\x7d"
    let probe : Probe := { id := "", labels := .ofEntries [("a", "1"), ("b", "")] }
    IsObjectText given ∧ Probe.tolerance.EditsText given other ∧
      decode Probe.reader given = .ok probe ∧ decode Probe.reader other = .ok probe := by
  intro given other probe
  let member (name : String) (value : Form) : StringForm × Form := (.ofString name, value)
  let first := member "a" (.string (.ofString "1"))
  let second := member "b" (.string (.ofString ""))
  let status := member "status" (.string (.ofString "pending"))
  let url := member "apiserver_url" .null
  let sameUrl := member "static_url" .null
  let labels := member "labels" (.object [first, second])
  let turned := member "labels" (.object [second, first])
  let owner := member "owner" (.array [.bool true])
  have edits : Probe.tolerance.EditsText given other := by
    refine ⟨[status, url, labels], [turned, owner, sameUrl], ?_, ?_, ?_⟩
    · have sameText : (Form.object [status, url, labels]).text = given := by decide +kernel
      exact sameText ▸ Form.spells_text _
    · have sameText :
          '\n' :: (Form.object [turned, owner, sameUrl]).text.toList = other.toList := by
        decide +kernel
      have spaced := Form.spells_text (.object [turned, owner, sameUrl])
      rw [Form.Spells, ← sameText]
      exact .blank rfl spaced
    · have renamed : Probe.tolerance.Edits [status, url, labels] [status, sameUrl, labels] :=
        @Tolerance.Edits.renamed _ _ _ [status] [labels] _ _ _ _ _ Probe.Field.apiserverUrl
          (names_ofString _) rfl (names_ofString _) rfl
      have rewritten :
          Probe.tolerance.Edits [status, sameUrl, labels] [status, sameUrl, turned] :=
        @Tolerance.Edits.rewritten _ _ _ [status, sameUrl] [] _ _ _ _ Probe.Field.labels
          (names_ofString _) rfl ⟨rfl, .permuted (.swap _ _ _) (by decide +kernel)⟩
      have removed : Probe.tolerance.Edits [status, sameUrl, turned] [sameUrl, turned] :=
        @Tolerance.Edits.removed _ _ _ [] [sameUrl, turned] _ _ _ Probe.Field.status
          (names_ofString _) rfl (Probe.holdsDefault .status)
      have inserted : Probe.tolerance.Edits [sameUrl, turned] [sameUrl, owner, turned] :=
        @Tolerance.Edits.inserted _ _ _ [sameUrl] [turned] _ _ _ (names_ofString _) rfl
      have permuted :
          Probe.tolerance.Edits [sameUrl, owner, turned] [turned, owner, sameUrl] :=
        .permuted (List.reverse_perm [turned, owner, sameUrl])
      exact .tail (.tail (.tail (.tail (.single renamed) rewritten) removed) inserted)
        permuted
  have decoded : decode Probe.reader given = .ok probe := by decide +kernel
  obtain ⟨⟨stable, -⟩, -⟩ := decode_tolerant
  exact ⟨⟨[], given.toList.tail, by simp, by decide +kernel⟩, edits, decoded, stable.unchanged edits decoded⟩

end ProbeLifecycle
