import Mathlib.Data.List.Forall2
import ProbeLifecycle.Json.Record
import ProbeLifecycle.Proofs.Sequencing

/-!
# How records are read

A member of an object either fills a field that is still empty or is passed over.
What a field holds has thus been read for it, and members can be read in any order.
-/

namespace ProbeLifecycle.Json

theorem decode_eq_ok {α : Type} {read : Reader α} {text : String} {value : α} :
    decode read text = .ok value ↔
      read (Document.ofText text).root = .ok value ∧
        (Document.ofText text).trailing = false := by
  unfold decode
  dsimp only
  cases read (Document.ofText text).root with
  | error problem => simp
  | ok read =>
      cases (Document.ofText text).trailing with
      | true => simp
      | false => simp

section Lists

variable {α : Type} {read : Reader α} {node : Node}

theorem readItems_eq_ok {before items : List α} {nodes : List Node} :
    readItems read before nodes = .ok items ↔
      ∃ values, items = before.reverse ++ values ∧
        List.Forall₂ (fun node value => read node = .ok value) nodes values := by
  induction nodes generalizing before with
  | nil => simp [readItems, eq_comm]
  | cons node nodes ih =>
      simp only [readItems, List.forall₂_cons_left_iff]
      cases read node with
      | error problem => simp
      | ok first =>
          simp only [ih, List.reverse_cons, List.append_assoc, List.singleton_append,
            Except.ok.injEq]
          constructor
          · rintro ⟨values, rfl, rest⟩
            exact ⟨first :: values, rfl, first, values, rfl, rest, rfl⟩
          · rintro ⟨_, rfl, _, values, rfl, rest, rfl⟩
            exact ⟨values, rfl, rest⟩

theorem readArray_eq_ok {items : List α} :
    readArray read node = .ok items ↔
      ∃ nodes ending, node = .array nodes ending ∧ ending.pass = .ok () ∧
        List.Forall₂ (fun node value => read node = .ok value) nodes items := by
  cases node with
  | array nodes ending =>
      have each : ∀ {items}, readItems read [] nodes = .ok items ↔
          List.Forall₂ (fun node value => read node = .ok value) nodes items := by
        simp [readItems_eq_ok]
      constructor
      · intro reads
        obtain ⟨values, readsItems, reads⟩ := bind_eq_ok.mp reads
        obtain ⟨⟨⟩, passes, reads⟩ := bind_eq_ok.mp reads
        cases reads
        exact ⟨nodes, ending, rfl, passes, each.mp readsItems⟩
      · rintro ⟨_, _, ⟨rfl, rfl⟩, passes, readsItems⟩
        simp [readArray, bind, Except.bind, each.mpr readsItems, passes, pure, Except.pure]
  | _ => simp [readArray]

theorem readEntries_eq_ok {before entries : List (String × α)} {members : Members} :
    readEntries read before members = .ok entries ↔
      ∃ values, entries = before.reverse ++ values ∧
        List.Forall₂ (fun member entry =>
          member.1.kept = .ok entry.1 ∧ read member.2 = .ok entry.2) members values := by
  induction members generalizing before with
  | nil => simp [readEntries, eq_comm]
  | cons member members ih =>
      obtain ⟨key, node⟩ := member
      simp only [readEntries, List.forall₂_cons_left_iff, bind, Except.bind]
      cases key.kept with
      | error problem => simp
      | ok name =>
          cases read node with
          | error problem => simp
          | ok value =>
              simp only [ih, List.reverse_cons, List.append_assoc, List.singleton_append,
                Except.ok.injEq]
              constructor
              · rintro ⟨values, rfl, rest⟩
                exact ⟨(name, value) :: values, rfl, (name, value), values, ⟨rfl, rfl⟩,
                  rest, rfl⟩
              · rintro ⟨_, rfl, _, values, ⟨rfl, rfl⟩, rest, rfl⟩
                exact ⟨values, rfl, rest⟩

theorem readObject_eq_ok {entries : List (String × α)} :
    readObject read node = .ok entries ↔
      ∃ members ending, node = .object members ending ∧ ending.pass = .ok () ∧
        List.Forall₂ (fun member entry =>
          member.1.kept = .ok entry.1 ∧ read member.2 = .ok entry.2) members entries := by
  cases node with
  | object members ending =>
      have each : ∀ {entries}, readEntries read [] members = .ok entries ↔
          List.Forall₂ (fun member entry =>
            member.1.kept = .ok entry.1 ∧ read member.2 = .ok entry.2) members entries := by
        simp [readEntries_eq_ok]
      constructor
      · intro reads
        obtain ⟨values, readsEntries, reads⟩ := bind_eq_ok.mp reads
        obtain ⟨⟨⟩, passes, reads⟩ := bind_eq_ok.mp reads
        cases reads
        exact ⟨members, ending, rfl, passes, each.mp readsEntries⟩
      · rintro ⟨_, _, ⟨rfl, rfl⟩, passes, readsEntries⟩
        simp [readObject, bind, Except.bind, each.mpr readsEntries, passes, pure,
          Except.pure]
  | _ => simp [readObject]

end Lists

namespace Shape

variable {α : Type} {shape : Shape α} {fields later : shape.Fields}
  {field other : shape.Field} {value : shape.Value field}

@[simp]
theorem setField_self : shape.setField fields field value field = some value := by
  unfold setField
  split
  · rfl
  · rename_i different decided
    exact absurd rfl different

theorem setField_of_ne (different : other ≠ field) :
    shape.setField fields field value other = fields other := by
  unfold setField
  split
  · rename_i equal decided
    exact absurd equal different
  · rfl

/-- It does not matter whether a field that is absent is set to its default. -/
theorem or_setField {default? : (field : shape.Field) → Option (shape.Value field)}
    (isDefault : default? field = some value) (absent : fields field = none)
    (asked : shape.Field) :
    (shape.setField fields field value asked).or (default? asked) =
      (fields asked).or (default? asked) := by
  by_cases isField : asked = field
  · subst isField
    rw [setField_self, absent, isDefault]
    rfl
  · rw [setField_of_ne isField]

/-- Of two fields it does not matter which is set first. -/
theorem setField_comm (different : other ≠ field) (second : shape.Value other) :
    shape.setField (shape.setField fields field value) other second =
      shape.setField (shape.setField fields other second) field value := by
  funext asked
  by_cases isOther : asked = other
  · subst isOther
    rw [setField_self, setField_of_ne different, setField_self]
  · rw [setField_of_ne isOther]
    by_cases isField : asked = field
    · subst isField
      rw [setField_self, setField_self]
    · rw [setField_of_ne isField, setField_of_ne isField, setField_of_ne isOther]

/-- What becomes of the fields when a member is read. -/
inductive ReadsMember (shape : Shape α) (fields : shape.Fields)
    (key : Lexeme String) (node : Node) : shape.Fields → Prop where
  | passed {name : String} (isName : key.kept = .ok name)
      (unknown : shape.named name = none) (passes : node.pass = .ok ()) :
      ReadsMember shape fields key node fields
  | filled {name : String} {field : shape.Field} {value : shape.Value field}
      (isName : key.kept = .ok name) (isField : shape.named name = some field)
      (absent : fields field = none) (read : shape.read field node = .ok value) :
      ReadsMember shape fields key node (shape.setField fields field value)

theorem readMember_eq_ok {key : Lexeme String} {node : Node} :
    shape.readMember fields key node = .ok later ↔
      shape.ReadsMember fields key node later := by
  constructor
  · intro reads
    obtain ⟨name, isName, reads⟩ := bind_eq_ok.mp reads
    cases isField : shape.named name with
    | none =>
        simp only [isField] at reads
        obtain ⟨⟨⟩, passes, reads⟩ := bind_eq_ok.mp reads
        cases reads
        exact .passed isName isField passes
    | some field =>
        simp only [isField] at reads
        cases held : fields field with
        | some value =>
            rw [held] at reads
            cases reads
        | none =>
            rw [held] at reads
            obtain ⟨value, read, reads⟩ := bind_eq_ok.mp reads
            cases reads
            exact .filled isName isField held read
  · intro reads
    cases reads with
    | passed isName unknown passes =>
        simp [readMember, isName, bind, Except.bind, unknown, passes, pure, Except.pure]
    | filled isName isField absent read =>
        simp [readMember, isName, bind, Except.bind, isField, absent, read, pure,
          Except.pure]

theorem ReadsMember.of_named {key : Lexeme String} {node : Node} {name : String}
    (reads : shape.ReadsMember fields key node later) (isName : key.kept = .ok name)
    (isField : shape.named name = some field) :
    ∃ value, fields field = none ∧ shape.read field node = .ok value ∧
      later = shape.setField fields field value := by
  cases reads with
  | passed isNameToo unknown passes =>
      cases isName.symm.trans isNameToo
      cases isField.symm.trans unknown
  | filled isNameToo isFieldToo absent read =>
      cases isName.symm.trans isNameToo
      cases isField.symm.trans isFieldToo
      exact ⟨_, absent, read, rfl⟩

inductive ReadsMembers (shape : Shape α) :
    shape.Fields → Members → shape.Fields → Prop where
  | done {fields : shape.Fields} : ReadsMembers shape fields [] fields
  | next {fields middle later : shape.Fields} {key : Lexeme String} {node : Node}
      {members : Members} (reads : shape.ReadsMember fields key node middle)
      (rest : ReadsMembers shape middle members later) :
      ReadsMembers shape fields ((key, node) :: members) later

theorem readMembers_eq_ok {members : Members} :
    shape.readMembers fields members = .ok later ↔
      shape.ReadsMembers fields members later := by
  constructor
  · intro reads
    induction members generalizing fields with
    | nil =>
        cases reads
        exact .done
    | cons member members ih =>
        obtain ⟨key, node⟩ := member
        rw [readMembers] at reads
        cases first : shape.readMember fields key node with
        | error problem => simp [first] at reads
        | ok middle =>
            rw [first] at reads
            exact .next (readMember_eq_ok.mp first) (ih reads)
  · intro reads
    induction reads with
    | done => rfl
    | next reads rest ih => rw [readMembers, readMember_eq_ok.mpr reads]; exact ih

theorem reader_object_eq_ok {members : Members} {ending : Ending} {value : α} :
    shape.reader (.object members ending) = .ok value ↔
      ending.pass = .ok () ∧ ∃ fields,
        shape.ReadsMembers shape.noFields members fields ∧
          shape.build fields = .ok value := by
  simp only [← readMembers_eq_ok, reader, bind, Except.bind]
  cases shape.readMembers shape.noFields members with
  | error problem => simp
  | ok fields =>
      cases ending.pass with
      | error problem => simp
      | ok passed => simp

section Order

variable {members others : Members} {key : Lexeme String} {node : Node}

/-- Of two members it does not matter which is read first. -/
theorem ReadsMember.swap {middle : shape.Fields} {otherKey : Lexeme String}
    {otherNode : Node} (first : shape.ReadsMember fields key node middle)
    (second : shape.ReadsMember middle otherKey otherNode later) :
    ∃ between, shape.ReadsMember fields otherKey otherNode between ∧
      shape.ReadsMember between key node later := by
  cases first with
  | passed isName unknown passes => exact ⟨later, second, .passed isName unknown passes⟩
  | @filled name field value isName isField absent read =>
      cases second with
      | passed isOther unknown passes =>
          exact ⟨fields, .passed isOther unknown passes,
            .filled isName isField absent read⟩
      | @filled otherName other otherValue isOther isOtherField absentOther readOther =>
          -- A field that was filled just before is not filled again.
          have different : other ≠ field := by
            rintro rfl
            rw [setField_self] at absentOther
            cases absentOther
          rw [setField_of_ne different] at absentOther
          have stillAbsent :
              shape.setField fields other otherValue field = none := by
            rw [setField_of_ne different.symm, absent]
          rw [setField_comm different]
          exact ⟨_, .filled isOther isOtherField absentOther readOther,
            .filled isName isField stillAbsent read⟩

theorem ReadsMembers.perm (reads : shape.ReadsMembers fields members later)
    (perm : members.Perm others) : shape.ReadsMembers fields others later := by
  induction perm generalizing fields with
  | nil => exact reads
  | cons member perm ih =>
      cases reads with
      | next first rest => exact .next first (ih rest)
  | swap member other members =>
      cases reads with
      | next first rest =>
          cases rest with
          | next second rest =>
              obtain ⟨between, secondFirst, firstLast⟩ := first.swap second
              exact .next secondFirst (.next firstLast rest)
  | trans perm permToo ih ihToo => exact ihToo (ih reads)

def Lacks (shape : Shape α) (members : Members) (field : shape.Field) : Prop :=
  ∀ member ∈ members, ∀ name, member.1.kept = .ok name → shape.named name ≠ some field

/-- A field that no member is one of is left as it was, and could hold any value. -/
theorem ReadsMembers.setField (reads : shape.ReadsMembers fields members later)
    (lacks : shape.Lacks members field) (value : shape.Value field) :
    later field = fields field ∧
      shape.ReadsMembers (shape.setField fields field value) members
        (shape.setField later field value) := by
  induction reads with
  | done => exact ⟨rfl, .done⟩
  | @next fields middle later key node members reads rest ih =>
      obtain ⟨lacksFirst, lacksRest⟩ := List.forall_mem_cons.mp lacks
      obtain ⟨kept, readsRest⟩ := ih lacksRest
      cases reads with
      | passed isName unknown passes =>
          exact ⟨kept, .next (.passed isName unknown passes) readsRest⟩
      | @filled name other otherValue isName isField absent read =>
          have different : other ≠ field := by
            rintro rfl
            exact lacksFirst name isName isField
          rw [setField_of_ne different.symm] at kept
          have stillAbsent : shape.setField fields field value other = none := by
            rw [setField_of_ne different, absent]
          rw [← setField_comm different] at readsRest
          exact ⟨kept, .next (.filled isName isField stillAbsent read) readsRest⟩

/-- When a field is filled already, no later member is one of the field, and without
it the members are read all the same. -/
theorem ReadsMembers.unsetField {value : shape.Value field}
    (reads : shape.ReadsMembers (shape.setField fields field value) members later)
    (absent : fields field = none) :
    ∃ left, left field = none ∧ shape.ReadsMembers fields members left ∧
      later = shape.setField left field value := by
  generalize set : shape.setField fields field value = start at reads
  induction reads generalizing fields with
  | done => exact ⟨fields, absent, .done, set.symm⟩
  | next reads rest ih =>
      subst set
      cases reads with
      | passed isName unknown passes =>
          obtain ⟨left, unset, readsRest, rfl⟩ := ih absent rfl
          exact ⟨left, unset, .next (.passed isName unknown passes) readsRest, rfl⟩
      | @filled name other otherValue isName isField absentOther read =>
          have different : other ≠ field := by
            rintro rfl
            rw [setField_self] at absentOther
            cases absentOther
          rw [setField_of_ne different] at absentOther
          have stillAbsent : shape.setField fields other otherValue field = none := by
            rw [setField_of_ne different.symm, absent]
          obtain ⟨left, unset, readsRest, rfl⟩ :=
            ih stillAbsent (setField_comm different.symm value)
          exact ⟨left, unset, .next (.filled isName isField absentOther read) readsRest, rfl⟩

end Order

def HaveRead (shape : Shape α) (fields : shape.Fields) : Prop :=
  ∀ field value, fields field = some value → ∃ node, shape.read field node = .ok value

theorem haveRead_noFields : shape.HaveRead shape.noFields := by
  intro field value held
  cases held

theorem HaveRead.setField (haveRead : shape.HaveRead fields) {node : Node}
    (read : shape.read field node = .ok value) :
    shape.HaveRead (shape.setField fields field value) := by
  intro asked held holds
  by_cases isField : asked = field
  · subst isField
    rw [setField_self, Option.some.injEq] at holds
    exact ⟨node, holds ▸ read⟩
  · rw [setField_of_ne isField] at holds
    exact haveRead asked held holds

theorem ReadsMembers.haveRead {members : Members}
    (reads : shape.ReadsMembers fields members later)
    (haveRead : shape.HaveRead fields) : shape.HaveRead later := by
  induction reads with
  | done => exact haveRead
  | next reads rest ih =>
      apply ih
      cases reads with
      | passed isName unknown passes => exact haveRead
      | filled isName isField absent read => exact haveRead.setField read

inductive ReadsItems (shape : Shape α) (ending : Ending) :
    shape.Fields → List shape.Field → List Node → shape.Fields → Prop where
  | done {fields : shape.Fields} {order : List shape.Field} (passes : ending.pass = .ok ()) :
      ReadsItems shape ending fields order [] fields
  | next {fields later : shape.Fields} {field : shape.Field} {order : List shape.Field}
      {node : Node} {nodes : List Node} {value : shape.Value field}
      (read : shape.read field node = .ok value)
      (rest : ReadsItems shape ending (shape.setField fields field value) order nodes later) :
      ReadsItems shape ending fields (field :: order) (node :: nodes) later

theorem readsItems_of_readItems {ending : Ending} {order : List shape.Field}
    {nodes : List Node} (reads : shape.readItems fields ending order nodes = .ok later) :
    shape.ReadsItems ending fields order nodes later := by
  induction order generalizing fields nodes with
  | nil =>
      cases nodes with
      | nil =>
          cases ending with
          | closed =>
              cases reads
              exact .done rfl
          | broken problem afterComma => cases reads
      | cons node nodes => cases reads
  | cons field order ih =>
      cases nodes with
      | nil =>
          cases ending with
          | closed =>
              cases reads
              exact .done rfl
          | broken problem afterComma => cases reads
      | cons node nodes =>
          obtain ⟨value, read, rest⟩ := bind_eq_ok.mp reads
          exact .next read (ih rest)

theorem ReadsItems.haveRead {ending : Ending} {order : List shape.Field} {nodes : List Node}
    (reads : shape.ReadsItems ending fields order nodes later)
    (haveRead : shape.HaveRead fields) : shape.HaveRead later := by
  induction reads with
  | done passes => exact haveRead
  | next read rest ih => exact ih (haveRead.setField read)

theorem ReadsItems.passes {ending : Ending} {order : List shape.Field} {nodes : List Node}
    (reads : shape.ReadsItems ending fields order nodes later) : ending.pass = .ok () := by
  induction reads with
  | done passes => exact passes
  | next read rest ih => exact ih

theorem reader_cases {node : Node} {value : α} (read : shape.reader node = .ok value) :
    (∃ members ending fields, node = .object members ending ∧ ending.pass = .ok () ∧
        shape.ReadsMembers shape.noFields members fields ∧
        shape.build fields = .ok value) ∨
      ∃ items ending fields, node = .array items ending ∧
        shape.ReadsItems ending shape.noFields shape.order items fields ∧
        shape.build fields = .ok value := by
  cases node with
  | object members ending =>
      obtain ⟨passes, fields, reads, built⟩ := reader_object_eq_ok.mp read
      exact .inl ⟨members, ending, fields, rfl, passes, reads, built⟩
  | array items ending =>
      obtain ⟨fields, reads, built⟩ := bind_eq_ok.mp read
      exact .inr ⟨items, ending, fields, rfl, readsItems_of_readItems reads, built⟩
  | _ => cases read

/-- What is read as a record could be passed over. -/
theorem pass_of_reader {node : Node} {value : α} (read : shape.reader node = .ok value) :
    node.pass = .ok () := by
  obtain ⟨members, ending, fields, rfl, passes, -⟩ | ⟨items, ending, fields, rfl, reads, -⟩ :=
    reader_cases read
  · exact passes
  · exact reads.passes

/-- A record is built from fields that have been read. -/
theorem fields_of_reader {node : Node} {value : α}
    (read : shape.reader node = .ok value) :
    ∃ fields, shape.HaveRead fields ∧ shape.build fields = .ok value := by
  obtain ⟨members, ending, fields, -, -, reads, built⟩ |
    ⟨items, ending, fields, -, reads, built⟩ := reader_cases read
  · exact ⟨fields, reads.haveRead haveRead_noFields, built⟩
  · exact ⟨fields, reads.haveRead haveRead_noFields, built⟩

end Shape

end ProbeLifecycle.Json
