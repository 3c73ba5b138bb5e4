import Mathlib.Tactic.SplitIfs
import ProbeLifecycle.Json.Node
import ProbeLifecycle.Json.Writer

/-!
# Reading written JSON

What is written is read back.  A string between its marks is one token whatever
follows it; the tokens of a value are read as one node in every container; and a
text that is a value is decoded by reading its node.
-/

namespace ProbeLifecycle.Json

open Text

/-- How a character stands in a string: behind a backslash as a letter or as a
code unit, or as it is. -/
inductive Escapes (char : Char) : List Char → Prop where
  | letter {letter : Char} (notCodeUnit : letter ≠ 'u')
      (escaped : escapedChar? letter = some char) : Escapes char ['\\', letter]
  | control (isControl : char.toNat < 32) :
      Escapes char (['\\', 'u', '0', '0'] ++ controlDigits char)
  | plain (notMark : char ≠ '"') (notBackslash : char ≠ '\\')
      (notControl : ¬ char.toNat < 32) : Escapes char [char]

section Strings

variable {text rest : List Char} {unit : StringUnit}

theorem escapes_escapeChar (char : Char) : Escapes char (escapeChar char) := by
  have escapes_letter : ∀ {letter : Char}, letter ≠ 'u' →
      escapedChar? letter = some char → Escapes char ['\\', letter] := .letter
  unfold escapeChar
  split_ifs with mark backslash backspace formFeed lineFeed return_ tab control
  · subst mark
    exact escapes_letter (by decide) rfl
  · subst backslash
    exact escapes_letter (by decide) rfl
  · subst backspace
    exact escapes_letter (by decide) rfl
  · subst formFeed
    exact escapes_letter (by decide) rfl
  · subst lineFeed
    exact escapes_letter (by decide) rfl
  · subst return_
    exact escapes_letter (by decide) rfl
  · subst tab
    exact escapes_letter (by decide) rfl
  · exact .control control
  · exact .plain mark backslash control

theorem takeCodeUnit_controlDigits {char : Char} (isControl : char.toNat < 32)
    (rest : List Char) :
    takeCodeUnit ('0' :: '0' :: (controlDigits char ++ rest)) =
      .ok (char.toNat, rest) := by
  have high := hexValue?_digitChar (show char.toNat / 16 < 16 by omega)
  have low := hexValue?_digitChar (show char.toNat % 16 < 16 by omega)
  have zero : hexValue? '0' = some 0 := rfl
  have joined : ((0 * 16 + 0) * 16 + char.toNat / 16) * 16 + char.toNat % 16 =
      char.toNat := by
    omega
  simp only [controlDigits, List.cons_append, List.nil_append, takeCodeUnit, high,
    low, zero, joined]

theorem takeStringUnit_escapeChar (char : Char) (rest : List Char) :
    takeStringUnit (escapeChar char ++ rest) = .ok (.char char, rest) ∨
      char.toNat < 32 ∧ takeStringUnit (escapeChar char ++ rest) =
        .ok (.codeUnit char.toNat, rest) := by
  have escapes := escapes_escapeChar char
  generalize escapeChar char = written at escapes
  cases escapes with
  | letter notCodeUnit escaped =>
      left
      simp [takeStringUnit, notCodeUnit, escaped]
  | control isControl =>
      have taken := takeCodeUnit_controlDigits isControl rest
      right
      refine ⟨isControl, ?_⟩
      simp [takeStringUnit, taken]
  | plain notMark notBackslash notControl =>
      left
      simp [takeStringUnit, notMark, notBackslash, notControl]

theorem control_notSurrogate {char : Char} (isControl : char.toNat < 32) :
    isLowSurrogate char.toNat = false ∧ isHighSurrogate char.toNat = false := by
  simp only [isLowSurrogate, isHighSurrogate, Bool.and_eq_false_iff,
    decide_eq_false_iff_not]
  omega

theorem takeStringChar_escapeChar (char : Char) (rest : List Char) :
    takeStringChar (escapeChar char ++ rest) = .ok (some char, rest) := by
  unfold takeStringChar
  rcases takeStringUnit_escapeChar char rest with taken | ⟨isControl, taken⟩
  · rw [taken]
  · obtain ⟨notLow, notHigh⟩ := control_notSurrogate isControl
    simp [taken, notLow, notHigh, Char.ofNat_toNat]

theorem passString_unit (taken : takeStringUnit text = .ok (unit, rest))
    (notClose : unit ≠ .close) : passString text = passString rest := by
  rw [passString]
  split
  · simp_all
  · simp_all
  · simp_all
  · simp_all

theorem takeString_char {before : List Char} {char : Char}
    (taken : takeStringChar text = .ok (some char, rest)) :
    takeString before text = takeString (char :: before) rest := by
  rw [takeString]
  split
  · simp_all
  · simp_all
  · simp_all

/-- A written string is passed over up to its closing mark. -/
theorem passString_written (chars rest : List Char) :
    passString (chars.flatMap escapeChar ++ '"' :: rest) = .ok rest := by
  induction chars with
  | nil =>
      have closes : takeStringUnit ('"' :: rest) = .ok (.close, rest) := rfl
      rw [List.flatMap_nil, List.nil_append, passString]
      split
      · simp_all
      · simp_all
      · simp_all
      · simp_all
  | cons char chars ih =>
      rw [List.flatMap_cons, List.append_assoc, ← ih]
      rcases takeStringUnit_escapeChar char
          (chars.flatMap escapeChar ++ '"' :: rest) with taken | ⟨-, taken⟩
      · exact passString_unit taken (by simp)
      · exact passString_unit taken (by simp)

theorem takeString_written (before chars rest : List Char) :
    takeString before (chars.flatMap escapeChar ++ '"' :: rest) =
      .ok (.ofList (before.reverse ++ chars)) := by
  induction chars generalizing before with
  | nil =>
      have closes : takeStringChar ('"' :: rest) = .ok (none, rest) := rfl
      rw [List.flatMap_nil, List.nil_append, List.append_nil, takeString]
      split
      · simp_all
      · rfl
      · simp_all
  | cons char chars ih =>
      rw [List.flatMap_cons, List.append_assoc,
        takeString_char (takeStringChar_escapeChar char _), ih,
        List.reverse_cons, List.append_assoc, List.singleton_append]

end Strings

section Tokens

/-- The tokens already read stand before those that follow. -/
theorem tokensAfter_eq (read : List Token) (text : List Char) :
    tokensAfter read text = read.reverse ++ tokens text := by
  -- Every token takes one character at least, so the rest of the text is shorter.
  induction length : text.length using Nat.strongRecOn
    generalizing read text with
  | _ size ih =>
      unfold tokens
      cases text with
      | nil => simp [tokensAfter]
      | cons char rest =>
          rw [tokensAfter, tokensAfter]
          split
          · rw [ih _ (by simp [← length]) read rest rfl]
            rfl
          · have shorter := takeToken_length char rest
            have smaller : (takeToken char rest).2.length < size := by
              rw [← length]
              simp only [List.length_cons]
              omega
            dsimp only
            rw [ih _ smaller _ _ rfl, ih _ smaller [_] _ rfl]
            simp

theorem tokens_cons {char : Char} (notBlank : isBlankChar char = false)
    (rest : List Char) :
    tokens (char :: rest) =
      (takeToken char rest).1 :: tokens (takeToken char rest).2 := by
  rw [tokens, tokensAfter, notBlank]
  dsimp only
  rw [if_neg Bool.false_ne_true, tokensAfter_eq]
  rfl

theorem tokens_punctuation {char : Char} {token : Token}
    (notBlank : isBlankChar char = false) (isToken : punctuation? char = some token)
    (rest : List Char) : tokens (char :: rest) = token :: tokens rest := by
  rw [tokens_cons notBlank, takeToken, isToken]

theorem tokens_writeString (value : String) (rest : List Char) :
    tokens (writeString value ++ rest) = .string (.ofValue value) :: tokens rest := by
  have shape : writeString value ++ rest =
      '"' :: (value.toList.flatMap escapeChar ++ '"' :: rest) := by
    simp [writeString]
  have token : takeToken '"' (value.toList.flatMap escapeChar ++ '"' :: rest) =
      (.string (.ofValue value), rest) := by
    change takeStringToken _ = _
    rw [takeStringToken, passString_written, takeString_written]
    simp [Lexeme.ofValue]
  rw [shape, tokens_cons rfl, token]

theorem tokens_literal {char : Char} {token : Token} {letters : List Char}
    (notBlank : isBlankChar char = false) (notToken : punctuation? char = none)
    (isLiteral : literal? char = some (token, letters))
    (spelt : ∀ rest, spell letters (letters ++ rest) = .ok rest)
    (rest : List Char) :
    tokens (char :: (letters ++ rest)) = token :: tokens rest := by
  rw [tokens_cons notBlank, takeToken, notToken, isLiteral]
  simp only [takeLiteral, spelt]

end Tokens

/-- A text is a value: where a value is awaited, or the first item of an array,
its tokens are read as the node, whatever follows them. -/
structure Denotes (text : List Char) (node : Node) : Prop where
  -- The first item has a place of its own, since the array may end there instead.
  value : ∀ frames rest,
    Document.assemble (.reading frames .value) (tokens (text ++ rest)) =
      .assemble (.settle node frames) (tokens rest)
  firstItem : ∀ frames rest,
    Document.assemble (.reading frames .firstItem) (tokens (text ++ rest)) =
      .assemble (.settle node (.array [] :: frames)) (tokens rest)

section Leaves

theorem Denotes.null : Denotes ['n', 'u', 'l', 'l'] .null := by
  have token : ∀ rest, tokens ('n' :: (['u', 'l', 'l'] ++ rest)) =
      .null :: tokens rest :=
    tokens_literal rfl rfl rfl fun _ => rfl
  constructor
  · intro frames rest
    exact congrArg _ (token rest)
  · intro frames rest
    exact congrArg _ (token rest)

theorem Denotes.bool (value : Bool) :
    Denotes (Value.write (.bool value)) (.bool value) := by
  have token : ∀ rest, tokens (Value.write (.bool value) ++ rest) =
      .bool value :: tokens rest := by
    cases value with
    | true => exact tokens_literal rfl rfl rfl fun _ => rfl
    | false => exact tokens_literal rfl rfl rfl fun _ => rfl
  constructor
  · intro frames rest
    exact congrArg _ (token rest)
  · intro frames rest
    exact congrArg _ (token rest)

theorem Denotes.string (value : String) :
    Denotes (writeString value) (.string (.ofValue value)) := by
  constructor
  · intro frames rest
    exact congrArg _ (tokens_writeString value rest)
  · intro frames rest
    exact congrArg _ (tokens_writeString value rest)

end Leaves

section Containers

variable {α : Type} (text : α → List Char) (node : α → Node)

/-- The text of an array after one of its items. -/
def itemsAfter : List α → List Char
  | [] => [']']
  | item :: items => ',' :: (text item ++ itemsAfter items)

def writeItems : List α → List Char
  | [] => [']']
  | item :: items => text item ++ itemsAfter text items

def membersAfter : List (String × α) → List Char
  | [] => ['\x7d']
  | (name, value) :: members =>
      ',' :: (writeString name ++ ':' :: (text value ++ membersAfter members))

def writeFields : List (String × α) → List Char
  | [] => ['\x7d']
  | (name, value) :: members =>
      writeString name ++ ':' :: (text value ++ membersAfter text members)

def memberNodes (members : List (String × α)) : Members :=
  members.map fun member => (.ofValue member.1, node member.2)

variable {text node}

theorem assemble_itemsAfter {items : List α}
    (denotes : ∀ item ∈ items, Denotes (text item) (node item))
    (frames : List Frame) (before : List Node) (rest : List Char) :
    Document.assemble (.reading frames (.afterItem before))
        (tokens (itemsAfter text items ++ rest)) =
      .assemble (.settle (.array (before.reverse ++ items.map node) .closed)
        frames) (tokens rest) := by
  induction items generalizing before with
  | nil =>
      have token : tokens (']' :: rest) = .closeArray :: tokens rest :=
        tokens_punctuation rfl rfl rest
      rw [itemsAfter, List.singleton_append, token, List.map_nil,
        List.append_nil]
      rfl
  | cons item items ih =>
      obtain ⟨denotesItem, denotesItems⟩ := List.forall_mem_cons.mp denotes
      rw [itemsAfter, List.cons_append, tokens_punctuation rfl rfl,
        List.append_assoc]
      change Document.assemble (.reading (.array before :: frames) .value) _ = _
      rw [denotesItem.value]
      have read := ih denotesItems (node item :: before)
      rw [List.reverse_cons, List.append_assoc] at read
      exact read

theorem assemble_writeItems {items : List α}
    (denotes : ∀ item ∈ items, Denotes (text item) (node item))
    (frames : List Frame) (rest : List Char) :
    Document.assemble (.reading frames .firstItem)
        (tokens (writeItems text items ++ rest)) =
      .assemble (.settle (.array (items.map node) .closed) frames)
        (tokens rest) := by
  cases items with
  | nil =>
      have token : tokens (']' :: rest) = .closeArray :: tokens rest :=
        tokens_punctuation rfl rfl rest
      rw [writeItems, List.singleton_append, token]
      rfl
  | cons item items =>
      obtain ⟨denotesItem, denotesItems⟩ := List.forall_mem_cons.mp denotes
      rw [writeItems, List.append_assoc, denotesItem.firstItem]
      exact assemble_itemsAfter denotesItems frames [node item] rest

theorem Denotes.array {items : List α}
    (denotes : ∀ item ∈ items, Denotes (text item) (node item)) :
    Denotes ('[' :: writeItems text items)
      (.array (items.map node) .closed) := by
  constructor
  · intro frames rest
    rw [List.cons_append, tokens_punctuation rfl rfl]
    exact assemble_writeItems denotes frames rest
  · intro frames rest
    rw [List.cons_append, tokens_punctuation rfl rfl]
    exact assemble_writeItems denotes (.array [] :: frames) rest

theorem assemble_member {name : String} {value : α}
    (denotes : Denotes (text value) (node value)) (frames : List Frame)
    (before : Members) (rest : List Char) :
    Document.assemble (.reading frames (.colon before (.ofValue name)))
        (tokens (':' :: (text value ++ rest))) =
      .assemble
        (.reading frames
          (.afterMember ((.ofValue name, node value) :: before)))
        (tokens rest) := by
  rw [tokens_punctuation rfl rfl]
  exact denotes.value _ _

theorem assemble_membersAfter {members : List (String × α)}
    (denotes : ∀ member ∈ members, Denotes (text member.2) (node member.2))
    (frames : List Frame) (before : Members) (rest : List Char) :
    Document.assemble (.reading frames (.afterMember before))
        (tokens (membersAfter text members ++ rest)) =
      .assemble
        (.settle (.object (before.reverse ++ memberNodes node members) .closed)
          frames) (tokens rest) := by
  induction members generalizing before with
  | nil =>
      have token : tokens ('\x7d' :: rest) = .closeObject :: tokens rest :=
        tokens_punctuation rfl rfl rest
      rw [membersAfter, List.singleton_append, token, memberNodes, List.map_nil,
        List.append_nil]
      rfl
  | cons member members ih =>
      obtain ⟨name, value⟩ := member
      obtain ⟨denotesValue, denotesMembers⟩ := List.forall_mem_cons.mp denotes
      rw [membersAfter, List.cons_append, tokens_punctuation rfl rfl,
        List.append_assoc, tokens_writeString, List.cons_append,
        List.append_assoc]
      change Document.assemble (.reading frames (.colon before (.ofValue name)))
        _ = _
      rw [assemble_member denotesValue]
      have read := ih denotesMembers ((.ofValue name, node value) :: before)
      rw [List.reverse_cons, List.append_assoc] at read
      exact read

theorem assemble_writeFields {members : List (String × α)}
    (denotes : ∀ member ∈ members, Denotes (text member.2) (node member.2))
    (frames : List Frame) (rest : List Char) :
    Document.assemble (.reading frames .firstKey)
        (tokens (writeFields text members ++ rest)) =
      .assemble (.settle (.object (memberNodes node members) .closed) frames)
        (tokens rest) := by
  cases members with
  | nil =>
      have token : tokens ('\x7d' :: rest) = .closeObject :: tokens rest :=
        tokens_punctuation rfl rfl rest
      rw [writeFields, List.singleton_append, token]
      rfl
  | cons member members =>
      obtain ⟨name, value⟩ := member
      obtain ⟨denotesValue, denotesMembers⟩ := List.forall_mem_cons.mp denotes
      rw [writeFields, List.append_assoc, tokens_writeString, List.cons_append,
        List.append_assoc]
      change Document.assemble (.reading frames (.colon [] (.ofValue name)))
        _ = _
      rw [assemble_member denotesValue]
      exact assemble_membersAfter denotesMembers frames
        [(.ofValue name, node value)] rest

theorem Denotes.object {members : List (String × α)}
    (denotes : ∀ member ∈ members, Denotes (text member.2) (node member.2)) :
    Denotes ('\x7b' :: writeFields text members)
      (.object (memberNodes node members) .closed) := by
  constructor
  · intro frames rest
    rw [List.cons_append, tokens_punctuation rfl rfl]
    exact assemble_writeFields denotes frames rest
  · intro frames rest
    rw [List.cons_append, tokens_punctuation rfl rfl]
    exact assemble_writeFields denotes (.array [] :: frames) rest

end Containers

mutual

def Value.node : Value → Node
  | .null => .null
  | .bool value => .bool value
  | .string value => .string (.ofValue value)
  | .object members => .object (Value.nodes members) .closed

def Value.nodes : List (String × Value) → Members
  | [] => []
  | (name, value) :: members => (.ofValue name, value.node) :: nodes members

end

theorem Value.nodes_eq (members : List (String × Value)) :
    Value.nodes members = memberNodes Value.node members := by
  induction members with
  | nil => rfl
  | cons member members ih => rw [Value.nodes, ih]; rfl

theorem writeMembers_cons (name : String) (value : Value)
    (members : List (String × Value)) :
    writeMembers ((name, value) :: members) =
      writeString name ++ ':' ::
        (value.write ++ membersAfter Value.write members) := by
  induction members generalizing name value with
  | nil => simp [writeMembers, membersAfter]
  | cons member members ih =>
      obtain ⟨next, nextValue⟩ := member
      have written : writeMembers ((name, value) :: (next, nextValue) :: members) =
          writeString name ++ ':' :: value.write ++
            ',' :: writeMembers ((next, nextValue) :: members) := rfl
      rw [written, ih, membersAfter]
      simp

theorem writeMembers_eq (members : List (String × Value)) :
    writeMembers members = writeFields Value.write members := by
  cases members with
  | nil => rfl
  | cons member members => exact writeMembers_cons _ _ members

mutual

/-- The text of a value is the value. -/
theorem Value.denotes : (value : Value) → Denotes value.write value.node
  | .null => .null
  | .bool value => .bool value
  | .string value => .string value
  | .object members => by
      rw [Value.write, Value.node, writeMembers_eq, Value.nodes_eq]
      exact .object (Value.denotes_members members)

theorem Value.denotes_members : (members : List (String × Value)) →
    ∀ member ∈ members, Denotes member.2.write member.2.node
  | [] => by simp
  | (name, value) :: members => by
      intro member isMember
      rcases List.mem_cons.mp isMember with rfl | later
      · exact Value.denotes value
      · exact Value.denotes_members members member later

end

section Texts

variable {text : List Char} {node : Node}

/-- A text that is a value is read as its node, and nothing follows. -/
theorem Denotes.ofText (denotes : Denotes text node) :
    Document.ofText (.ofList text) = ⟨node, false⟩ := by
  have none_left : tokens [] = [] := by rw [tokens, tokensAfter]; rfl
  have reads := denotes.value [] []
  rw [List.append_nil, none_left] at reads
  unfold Document.ofText
  rw [String.toList_ofList, reads]
  rfl

theorem Denotes.decode {α : Type} (denotes : Denotes text node)
    (read : Node → Except Problem α) : Json.decode read (.ofList text) = read node := by
  unfold Json.decode
  rw [denotes.ofText]
  dsimp only
  cases read node with
  | error problem => rfl
  | ok value => rfl

end Texts

end ProbeLifecycle.Json
