import ProbeLifecycle.Proofs.GrammarCoverage

/-!
# What a written text stands for

The parts of a JSON string stand for code units of UTF-16, and the string stands for the
text that has these code units.  Every value is written as a text that a form spells,
and every form that this text spells stands for the value: it has the same members in
the same order, with the names and strings as they were, whatever characters they hold.
So different values are written as different texts.
-/

namespace ProbeLifecycle.Json

open Text

/-- The code units of a character in UTF-16. -/
def utf16 (char : Char) : List Nat :=
  if char.toNat < 0x10000 then [char.toNat]
  else
    [0xD800 + (char.toNat - 0x10000) / 0x400, 0xDC00 + (char.toNat - 0x10000) % 0x400]

def codeUnitValue (first second third fourth : Char) : Nat :=
  [first, second, third, fourth].foldl
    (fun value digit => value * 16 + (hexValue? digit).getD 0) 0

/-- The code units that a part of a string stands for. -/
def StringPart.units : StringPart → List Nat
  | plain char _ _ _ => utf16 char
  | escape letter _ => (escapedChar? letter).toList.flatMap utf16
  | codeUnit first second third fourth _ => [codeUnitValue first second third fourth]

def StringForm.units (form : StringForm) : List Nat :=
  form.flatMap StringPart.units

/-- A string stands for the text that has its code units. -/
def StringForm.StandsFor (form : StringForm) (text : String) : Prop :=
  form.units = text.toList.flatMap utf16

mutual

/-- A form stands for a value. -/
inductive Form.StandsFor : Form → Value → Prop where
  | null : Form.StandsFor .null .null
  | bool {value : Bool} : Form.StandsFor (.bool value) (.bool value)
  | string {form : StringForm} {text : String} (stands : form.StandsFor text) :
      Form.StandsFor (.string form) (.string text)
  | object {forms : MemberForms} {members : List (String × Value)}
      (stand : MembersStandFor forms members) :
      Form.StandsFor (.object forms) (.object members)

inductive MembersStandFor : MemberForms → List (String × Value) → Prop where
  | none : MembersStandFor [] []
  | next {key : StringForm} {form : Form} {name : String} {value : Value}
      {forms : MemberForms} {members : List (String × Value)}
      (isName : key.StandsFor name) (isValue : Form.StandsFor form value)
      (rest : MembersStandFor forms members) :
      MembersStandFor ((key, form) :: forms) ((name, value) :: members)

end

section CodeUnits

variable {first second third fourth char : Char} {parts : StringForm}
  {rest : List Char} {value : Nat}

theorem takeCodeUnit_eq
    (hexadecimal : ∀ digit ∈ [first, second, third, fourth], (hexValue? digit).isSome)
    (rest : List Char) :
    takeCodeUnit (first :: second :: third :: fourth :: rest) =
        .ok (codeUnitValue first second third fourth, rest) ∧
      codeUnitValue first second third fourth < 0x10000 := by
  simp only [List.mem_cons, List.not_mem_nil, or_false, forall_eq_or_imp, forall_eq,
    Option.isSome_iff_exists] at hexadecimal
  obtain ⟨⟨a, isA⟩, ⟨b, isB⟩, ⟨c, isC⟩, ⟨d, isD⟩⟩ := hexadecimal
  have isValue : codeUnitValue first second third fourth =
      ((a * 16 + b) * 16 + c) * 16 + d := by
    simp [codeUnitValue, isA, isB, isC, isD]
  refine ⟨?_, ?_⟩
  · simp only [takeCodeUnit, isA, isB, isC, isD, isValue]
  · have smallA := hexValue?_lt isA
    have smallB := hexValue?_lt isB
    have smallC := hexValue?_lt isC
    have smallD := hexValue?_lt isD
    omega

theorem toNat_ofNat (isChar : value.isValidChar) : (Char.ofNat value).toNat = value := by
  unfold Char.ofNat
  rw [dif_pos isChar]
  rfl

/-- A code unit that is no half of a pair is a character. -/
theorem utf16_ofNat (small : value < 0x10000) (notLow : isLowSurrogate value = false)
    (notHigh : isHighSurrogate value = false) : utf16 (.ofNat value) = [value] := by
  have isChar : value.isValidChar := by
    simp only [isLowSurrogate, isHighSurrogate, Bool.and_eq_false_iff,
      decide_eq_false_iff_not] at notLow notHigh
    unfold Nat.isValidChar
    omega
  rw [utf16, toNat_ofNat isChar, if_pos small]

/-- Two halves of a pair are one character. -/
theorem utf16_surrogatePair {high low : Nat} (isHigh : isHighSurrogate high = true)
    (isLow : isLowSurrogate low = true) : utf16 (surrogatePair high low) = [high, low] := by
  simp only [isLowSurrogate, isHighSurrogate, Bool.and_eq_true,
    decide_eq_true_eq] at isHigh isLow
  unfold surrogatePair
  generalize isCode : 0x10000 + (high - 0xD800) * 0x400 + (low - 0xDC00) = code
  have isChar : code.isValidChar := by
    unfold Nat.isValidChar
    omega
  have isHigh : 0xD800 + (code - 0x10000) / 0x400 = high := by omega
  have isLow : 0xDC00 + (code - 0x10000) % 0x400 = low := by omega
  rw [utf16, toNat_ofNat isChar, if_neg (by omega), isHigh, isLow]

@[simp]
theorem units_cons (part : StringPart) (parts : StringForm) :
    StringForm.units (part :: parts) = part.units ++ parts.units :=
  List.flatMap_cons

/-- Only a code unit is taken as the second half of a pair. -/
theorem takeLowSurrogate_units
    (taken : takeLowSurrogate (parts.inside []) = .ok (value, rest)) :
    ∃ after : StringForm, after.length < parts.length ∧
      rest = StringForm.inside after [] ∧ isLowSurrogate value = true ∧
      parts.units = value :: after.units := by
  cases parts with
  | nil => cases taken
  | cons part parts =>
      rw [inside_cons] at taken
      cases part with
      | plain char notMark notBackslash notControl =>
          unfold takeLowSurrogate at taken
          split at taken <;> simp_all [StringPart.text]
      | escape letter known =>
          have notCodeUnit : letter ≠ 'u' := by
            rintro rfl
            cases known
          unfold takeLowSurrogate at taken
          split at taken <;> simp_all [StringPart.text]
      | codeUnit first second third fourth hexadecimal =>
          obtain ⟨isUnit, -⟩ := takeCodeUnit_eq hexadecimal (StringForm.inside parts [])
          simp only [StringPart.text, List.cons_append, List.nil_append,
            takeLowSurrogate, isUnit] at taken
          by_cases isLow :
              isLowSurrogate (codeUnitValue first second third fourth) = true
          · rw [if_pos isLow] at taken
            cases taken
            exact ⟨parts, Nat.lt_succ_self _, rfl, isLow, by simp [StringPart.units]⟩
          · rw [if_neg isLow] at taken
            cases taken

/-- The next character of a string has the code units of the parts that it is taken
from. -/
theorem takeStringChar_units {part : StringPart}
    (taken : takeStringChar (StringForm.inside (part :: parts) []) =
      .ok (some char, rest)) :
    ∃ after : StringForm, after.length ≤ parts.length ∧
      rest = StringForm.inside after [] ∧
      StringForm.units (part :: parts) = utf16 char ++ after.units := by
  rw [inside_cons] at taken
  cases part with
  | plain plain notMark notBackslash notControl =>
      simp only [StringPart.text, List.singleton_append, takeStringChar, takeStringUnit,
        notMark, notBackslash, notControl, if_false] at taken
      cases taken
      exact ⟨parts, Nat.le_refl _, rfl, units_cons _ _⟩
  | escape letter known =>
      obtain ⟨meant, escaped⟩ := Option.isSome_iff_exists.mp known
      have notCodeUnit : letter ≠ 'u' := by
        rintro rfl
        cases escaped
      have isChar : takeStringChar ('\\' :: letter :: parts.inside []) =
          .ok (some meant, parts.inside []) := by
        simp [takeStringChar, takeStringUnit, notCodeUnit, escaped]
      cases isChar.symm.trans taken
      exact ⟨parts, Nat.le_refl _, rfl, by simp [StringPart.units, escaped]⟩
  | codeUnit first second third fourth hexadecimal =>
      obtain ⟨isUnit, small⟩ := takeCodeUnit_eq hexadecimal (StringForm.inside parts [])
      have units : StringForm.units (.codeUnit first second third fourth hexadecimal ::
          parts) = codeUnitValue first second third fourth :: parts.units := by
        simp [StringPart.units]
      rw [units]
      generalize codeUnitValue first second third fourth = value at isUnit small
      have isChar : takeStringUnit ('\\' :: 'u' :: first :: second :: third :: fourth ::
          parts.inside []) = .ok (.codeUnit value, parts.inside []) := by
        simp [takeStringUnit, isUnit]
      simp only [StringPart.text, List.cons_append, List.nil_append, takeStringChar,
        isChar] at taken
      cases isLow : isLowSurrogate value with
      | true =>
          rw [if_pos isLow] at taken
          cases taken
      | false =>
          rw [if_neg (by simp [isLow])] at taken
          cases isHigh : isHighSurrogate value with
          | false =>
              rw [if_neg (by simp [isHigh])] at taken
              cases taken
              refine ⟨parts, Nat.le_refl _, rfl, ?_⟩
              have one := utf16_ofNat small isLow isHigh
              rw [one]
              rfl
          | true =>
              rw [if_pos isHigh] at taken
              split at taken
              · rename_i low lowTaken
                obtain ⟨isChar, rfl⟩ := Prod.mk.inj (Except.ok.inj taken)
                rw [← Option.some.inj isChar]
                obtain ⟨after, shorter, isRest, isLow, units⟩ :=
                  takeLowSurrogate_units lowTaken
                refine ⟨after, Nat.le_of_lt shorter, isRest, ?_⟩
                rw [utf16_surrogatePair isHigh isLow, units]
                rfl
              · cases taken

end CodeUnits

section Strings

variable {before : List Char} {parts : StringForm} {text : String}

/-- What is read of a string has its code units. -/
theorem units_of_takeString (isRead : takeString before (parts.inside []) = .ok text) :
    text.toList.flatMap utf16 = before.reverse.flatMap utf16 ++ parts.units := by
  -- A pair of code units is one character, so the rest is shorter by one part or two.
  induction length : parts.length using Nat.strongRecOn generalizing before parts with
  | _ size ih =>
      cases parts with
      | nil =>
          have closed := takeString_written before [] []
          rw [List.append_nil] at closed
          cases closed.symm.trans isRead
          simp [StringForm.units]
      | cons part parts =>
          rcases takeStringChar_inside part parts with failed | ⟨char, _, -, taken⟩
          · rw [takeString_error (failed [])] at isRead
            cases isRead
          · have charTaken := taken []
            obtain ⟨after, shorter, same, units⟩ := takeStringChar_units charTaken
            rw [same] at charTaken
            rw [takeString_char charTaken] at isRead
            have fewer : after.length < size := by
              rw [← length, List.length_cons]
              omega
            rw [ih after.length fewer isRead rfl, units]
            simp

theorem StringForm.standsFor_of_lexeme {form : StringForm}
    (isRead : form.lexeme = .ofValue text) : form.StandsFor text := by
  have kept : takeString [] (form.inside []) = .ok text :=
    congrArg Lexeme.kept isRead
  have units := units_of_takeString kept
  exact units.symm

end Strings

mutual

/-- A form that is read as a value stands for it. -/
theorem Value.standsFor_of_node : (value : Value) → ∀ {form : Form},
    form.node = value.node → form.StandsFor value
  | .null, form, same => by
      cases form <;> cases same
      exact .null
  | .bool value, form, same => by
      cases form <;> cases same
      exact .bool
  | .string text, form, same => by
      cases form with
      | string parts => exact .string (parts.standsFor_of_lexeme (Node.string.inj same))
      | _ => cases same
  | .object members, form, same => by
      cases form with
      | object forms =>
          exact .object (Value.standFor_of_nodes members (Node.object.inj same).1)
      | _ => cases same

theorem Value.standFor_of_nodes : (members : List (String × Value)) →
    ∀ {forms : MemberForms}, formNodes forms = nodes members →
      MembersStandFor forms members
  | [], [], _ => .none
  | (name, value) :: members, (key, form) :: forms, same => by
      rw [formNodes, nodes, List.cons.injEq, Prod.mk.injEq] at same
      obtain ⟨⟨sameKey, sameValue⟩, rest⟩ := same
      exact .next (key.standsFor_of_lexeme sameKey) (value.standsFor_of_node sameValue)
        (Value.standFor_of_nodes members rest)
  | [], _ :: _, same => nomatch same
  | _ :: _, [], same => nomatch same

end

mutual

theorem Value.node_inj : (value other : Value) → other.node = value.node → other = value
  | .null, other, same => by
      cases other <;> cases same
      rfl
  | .bool value, other, same => by
      cases other <;> cases same
      rfl
  | .string text, other, same => by
      cases other <;> cases same
      rfl
  | .object members, other, same => by
      cases other with
      | object others =>
          rw [Value.nodes_inj members others (Node.object.inj same).1]
      | _ => cases same

theorem Value.nodes_inj : (members others : List (String × Value)) →
    nodes others = nodes members → others = members
  | [], [], _ => rfl
  | (name, value) :: members, (otherName, other) :: others, same => by
      rw [nodes, nodes, List.cons.injEq, Prod.mk.injEq] at same
      obtain ⟨⟨sameName, sameValue⟩, rest⟩ := same
      cases sameName
      rw [value.node_inj other sameValue, Value.nodes_inj members others rest]
  | [], _ :: _, same => nomatch same
  | _ :: _, [], same => nomatch same

end

section Texts

variable (value : Value)

theorem Value.ofText_text : Document.ofText value.text = ⟨value.node, false⟩ :=
  value.denotes.ofText

/-- Every value is written as a text that a form spells, and the forms that the text
spells stand for the value. -/
theorem Value.text_standsFor :
    (∃ form : Form, form.Spells value.text) ∧
      ∀ form : Form, form.Spells value.text → form.StandsFor value := by
  have whole := value.ofText_text
  constructor
  · have passes : value.node.pass = .ok () := by cases value <;> rfl
    obtain ⟨form, spells, -⟩ := exists_spells (by rwa [whole]) (by rw [whole])
    exact ⟨form, spells⟩
  · intro form spells
    have same : (⟨form.node, false⟩ : Document) = ⟨value.node, false⟩ :=
      spells.ofText.symm.trans whole
    exact value.standsFor_of_node (Document.mk.inj same).1

theorem Value.text_inj {value other : Value} : other.text = value.text ↔ other = value := by
  constructor
  · intro sameText
    have same : (⟨other.node, false⟩ : Document) = ⟨value.node, false⟩ := by
      rw [← other.ofText_text, ← value.ofText_text, sameText]
    exact value.node_inj other (Document.mk.inj same).1
  · rintro rfl
    rfl

end Texts

end ProbeLifecycle.Json
