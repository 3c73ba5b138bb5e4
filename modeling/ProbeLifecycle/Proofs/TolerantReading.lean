import Mathlib.Logic.Relation
import ProbeLifecycle.Proofs.GrammarReading
import ProbeLifecycle.Proofs.RecordReading

/-!
# What reading a record tolerates

The members of an object may be permuted, members that a record does not know may be
inserted, a field may go by another of its names, and a field that holds its default
may be left out or be written down.  None of this changes what the object is read as.
-/

namespace ProbeLifecycle

namespace Json

def StringForm.Names (key : StringForm) (name : String) : Prop :=
  key.lexeme.kept = .ok name

/-- What a record tolerates of its fields: the values that they have when they are
absent, so that it is determined by its fields and these, and the changes of values that
do not change what these are read as. -/
structure Tolerance {α : Type} (shape : Shape α) where
  default? : (field : shape.Field) → Option (shape.Value field)
  build_congr : ∀ {fields others : shape.Fields},
    (∀ field, (fields field).or (default? field) = (others field).or (default? field)) →
      shape.build fields = shape.build others
  Rewrites : shape.Field → Form → Form → Prop
  read_rewritten : ∀ {field : shape.Field} {form other : Form}
    {value : shape.Value field}, Rewrites field form other →
      shape.read field form.node = .ok value → shape.read field other.node = .ok value

namespace Tolerance

variable {α : Type} {shape : Shape α} (tolerance : Tolerance shape)

/-- A value that a field has when it is absent. -/
def HoldsDefault (field : shape.Field) (value : Form) : Prop :=
  ∃ default, tolerance.default? field = some default ∧
    shape.read field value.node = .ok default

/-- A change of the members of an object that is tolerated. -/
inductive Edits : MemberForms → MemberForms → Prop where
  | permuted {members others : MemberForms} (perm : members.Perm others) :
      Edits members others
  | inserted {before after : MemberForms} {key : StringForm} {value : Form}
      {name : String} (names : key.Names name) (unknown : shape.named name = none) :
      Edits (before ++ after) (before ++ (key, value) :: after)
  | renamed {before after : MemberForms} {key other : StringForm} {value : Form}
      {name otherName : String} {field : shape.Field} (names : key.Names name)
      (isField : shape.named name = some field) (namesOther : other.Names otherName)
      (sameField : shape.named otherName = some field) :
      Edits (before ++ (key, value) :: after) (before ++ (other, value) :: after)
  | rewritten {before after : MemberForms} {key : StringForm} {value other : Form}
      {name : String} {field : shape.Field} (names : key.Names name)
      (isField : shape.named name = some field)
      (rewrites : tolerance.Rewrites field value other) :
      Edits (before ++ (key, value) :: after) (before ++ (key, other) :: after)
  | added {before after : MemberForms} {key : StringForm} {value : Form}
      {name : String} {field : shape.Field} (names : key.Names name)
      (isField : shape.named name = some field)
      (absent : shape.Lacks (formNodes (before ++ after)) field)
      (holdsDefault : tolerance.HoldsDefault field value) :
      Edits (before ++ after) (before ++ (key, value) :: after)
  | removed {before after : MemberForms} {key : StringForm} {value : Form}
      {name : String} {field : shape.Field} (names : key.Names name)
      (isField : shape.named name = some field)
      (holdsDefault : tolerance.HoldsDefault field value) :
      Edits (before ++ (key, value) :: after) (before ++ after)

end Tolerance

theorem Form.pass_node (form : Form) : form.node.pass = .ok () := by
  cases form with
  | number number =>
      have wellFormed : number.lexeme.fault = none := (lexeme_text []).2
      simp [Form.node, Node.pass, wellFormed]
  | _ => rfl

section Moving

variable {α : Type} {shape : Shape α} {fields : shape.Fields} {field : shape.Field}
  {before after : MemberForms} {key : StringForm} {value : Form} {name : String}

theorem formNodes_perm {members others : MemberForms} (perm : members.Perm others) :
    (formNodes members).Perm (formNodes others) := by
  rw [formNodes_eq, formNodes_eq]
  exact perm.map _

/-- A member anywhere may as well stand at the beginning. -/
theorem formNodes_middle :
    (formNodes (before ++ (key, value) :: after)).Perm
      ((key.lexeme, value.node) :: formNodes (before ++ after)) :=
  formNodes_perm List.perm_middle

theorem readsMembers_middle_iff (names : key.Names name)
    (isField : shape.named name = some field) :
    shape.ReadsMembers shape.noFields (formNodes (before ++ (key, value) :: after)) fields ↔
      ∃ held, shape.read field value.node = .ok held ∧
        shape.ReadsMembers (shape.setField shape.noFields field held)
          (formNodes (before ++ after)) fields := by
  constructor
  · intro reads
    cases reads.perm formNodes_middle with
    | next first rest =>
        obtain ⟨held, -, read, rfl⟩ := first.of_named names isField
        exact ⟨held, read, rest⟩
  · rintro ⟨held, read, rest⟩
    have filled := Shape.ReadsMembers.next (.filled names isField rfl read) rest
    exact filled.perm formNodes_middle.symm

end Moving

namespace Tolerance

variable {α : Type} {shape : Shape α} {tolerance : Tolerance shape}
  {members others : MemberForms} {fields : shape.Fields}

/-- After a tolerated change other fields may be given, but they make up the same record. -/
theorem Edits.reads (edits : tolerance.Edits members others)
    (reads : shape.ReadsMembers shape.noFields (formNodes members) fields) :
    ∃ later, shape.ReadsMembers shape.noFields (formNodes others) later ∧
      shape.build later = shape.build fields := by
  cases edits with
  | permuted perm => exact ⟨fields, reads.perm (formNodes_perm perm), rfl⟩
  | @inserted _ _ _ value _ names unknown =>
      have passed := Shape.ReadsMembers.next
        (.passed names unknown value.pass_node) reads
      exact ⟨fields, passed.perm formNodes_middle.symm, rfl⟩
  | renamed names isField namesOther sameField =>
      have filled := (readsMembers_middle_iff names isField).mp reads
      exact ⟨fields, (readsMembers_middle_iff namesOther sameField).mpr filled, rfl⟩
  | rewritten names isField rewrites =>
      obtain ⟨held, read, rest⟩ := (readsMembers_middle_iff names isField).mp reads
      have readOther := tolerance.read_rewritten rewrites read
      exact ⟨fields, (readsMembers_middle_iff names isField).mpr ⟨held, readOther, rest⟩, rfl⟩
  | added names isField absent holdsDefault =>
      obtain ⟨default, isDefault, read⟩ := holdsDefault
      obtain ⟨unset, rest⟩ := reads.setField absent default
      exact ⟨_, (readsMembers_middle_iff names isField).mpr ⟨default, read, rest⟩,
        tolerance.build_congr (Shape.or_setField isDefault unset)⟩
  | removed names isField holdsDefault =>
      obtain ⟨default, isDefault, read⟩ := holdsDefault
      obtain ⟨held, readHeld, rest⟩ := (readsMembers_middle_iff names isField).mp reads
      obtain rfl : default = held := Except.ok.inj (read.symm.trans readHeld)
      obtain ⟨later, unset, readsRest, rfl⟩ := rest.unsetField rfl
      exact ⟨later, readsRest,
        (tolerance.build_congr (Shape.or_setField isDefault unset)).symm⟩

/-- A tolerated change does not change what an object is read as. -/
theorem Edits.reader_eq (edits : tolerance.Edits members others) {value : α}
    (read : shape.reader (Form.object members).node = .ok value) :
    shape.reader (Form.object others).node = .ok value := by
  obtain ⟨-, fields, reads, built⟩ := Shape.reader_object_eq_ok.mp read
  obtain ⟨later, readsLater, same⟩ := edits.reads reads
  exact Shape.reader_object_eq_ok.mpr ⟨rfl, later, readsLater, same.trans built⟩

/-- Any number of tolerated changes, in any white space, leave what is decoded. -/
theorem decode_edited (edited : Relation.ReflTransGen tolerance.Edits members others)
    {text otherText : String} (spells : (Form.object members).Spells text)
    (spellsOther : (Form.object others).Spells otherText) {value : α}
    (read : decode shape.reader text = .ok value) :
    decode shape.reader otherText = .ok value := by
  rw [spells.decode_eq] at read
  rw [spellsOther.decode_eq]
  clear spellsOther
  induction edited with
  | refl => exact read
  | tail edited edits ih => exact edits.reader_eq ih

end Tolerance

end Json

end ProbeLifecycle
