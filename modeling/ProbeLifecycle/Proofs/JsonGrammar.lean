import Mathlib.Data.List.Chain
import ProbeLifecycle.Json.Node

/-!
# The grammar of JSON

A form is a JSON value as it is spelled out, with its strings part by part and its
numbers digit by digit, but without white space.  It is a sequence of words, and a
text spells it if it consists of these words with any white space before, between and
after them.
-/

namespace ProbeLifecycle.Json

open Text

/-- A part of a string between its quotation marks: a character as it is, an escape,
or a code unit in hexadecimal. -/
inductive StringPart where
  | plain (char : Char) (notMark : char ≠ '"') (notBackslash : char ≠ '\\')
      (notControl : ¬ char.toNat < 32)
  | escape (letter : Char) (known : (escapedChar? letter).isSome)
  | codeUnit (first second third fourth : Char)
      (hexadecimal :
        ∀ digit ∈ [first, second, third, fourth], (hexValue? digit).isSome)

def StringPart.text : StringPart → List Char
  | plain char _ _ _ => [char]
  | escape letter _ => ['\\', letter]
  | codeUnit first second third fourth _ => ['\\', 'u', first, second, third, fourth]

abbrev StringForm := List StringPart

/-- The text after the opening mark of a string, up to the closing mark and what
follows it. -/
def StringForm.inside (parts : StringForm) (rest : List Char) : List Char :=
  parts.flatMap StringPart.text ++ '"' :: rest

/-- What the string is when it is read, whatever follows it. -/
def StringForm.lexeme (parts : StringForm) : Lexeme String where
  kept := takeString [] (parts.inside [])
  fault := none

def AreDigits (digits : List Char) : Prop :=
  digits ≠ [] ∧ ∀ digit ∈ digits, digit.isDigit = true

/-- The exponent of a number: its mark, its sign if it has one, and its digits. -/
structure ExponentForm where
  mark : Char
  sign : Option Char
  digits : List Char
  isMark : mark = 'e' ∨ mark = 'E'
  isSign : ∀ char ∈ sign, char = '+' ∨ char = '-'
  areDigits : AreDigits digits

def ExponentForm.text (exponent : ExponentForm) : List Char :=
  exponent.mark :: (exponent.sign.toList ++ exponent.digits)

structure NumberForm where
  negative : Bool
  integer : List Char
  fraction : Option (List Char)
  exponent : Option ExponentForm
  integerDigits : AreDigits integer
  noLeadingZero : integer.head? = some '0' → integer.length = 1
  fractionDigits : ∀ digits ∈ fraction, AreDigits digits

namespace NumberForm

variable (form : NumberForm)

def fractionText : List Char :=
  match form.fraction with
  | some digits => '.' :: digits
  | none => []

def exponentText : List Char :=
  match form.exponent with
  | some exponent => exponent.text
  | none => []

def unsignedText : List Char :=
  form.integer ++ (form.fractionText ++ form.exponentText)

def text : List Char :=
  if form.negative then '-' :: form.unsignedText else form.unsignedText

def numeral : Numeral where
  negative := form.negative
  integer := form.integer
  fraction := form.fraction
  exponent := form.exponent.map fun exponent =>
    (exponent.sign == some '-', exponent.digits)

/-- What the number is when it is read, whatever follows it. -/
def lexeme : Lexeme Number :=
  form.numeral.lexeme []

end NumberForm

/-- A word of JSON: one that white space cannot divide. -/
inductive Word where
  | openArray
  | closeArray
  | openObject
  | closeObject
  | comma
  | colon
  | null
  | bool (value : Bool)
  | number (form : NumberForm)
  | string (form : StringForm)

namespace Word

def text : Word → List Char
  | openArray => ['[']
  | closeArray => [']']
  | openObject => ['\x7b']
  | closeObject => ['\x7d']
  | comma => [',']
  | colon => [':']
  | null => ['n', 'u', 'l', 'l']
  | bool true => ['t', 'r', 'u', 'e']
  | bool false => ['f', 'a', 'l', 's', 'e']
  | number form => form.text
  | string form => '"' :: form.inside []

def token : Word → Token
  | openArray => .openArray
  | closeArray => .closeArray
  | openObject => .openObject
  | closeObject => .closeObject
  | comma => .comma
  | colon => .colon
  | null => .null
  | bool value => .bool value
  | number form => .number form.lexeme
  | string form => .string form.lexeme

/-- A number, which would go on with digits that follow it. -/
def isNumber : Word → Bool
  | number _ => true
  | _ => false

def isMark : Word → Bool
  | openArray => true
  | closeArray => true
  | openObject => true
  | closeObject => true
  | comma => true
  | colon => true
  | _ => false

end Word

def commaSeparated : List (List Word) → List Word
  | [] => []
  | first :: others => first ++ others.flatMap (.comma :: ·)

/-- A JSON value as it is spelled out.  The members of an object have keys that are
strings, in the order in which they stand. -/
inductive Form where
  | null
  | bool (value : Bool)
  | number (form : NumberForm)
  | string (form : StringForm)
  | array (items : List Form)
  | object (members : List (StringForm × Form))

abbrev MemberForms := List (StringForm × Form)

mutual

def Form.words : Form → List Word
  | .null => [.null]
  | .bool value => [.bool value]
  | .number form => [.number form]
  | .string form => [.string form]
  | .array items =>
      .openArray :: (commaSeparated (itemWords items) ++ [.closeArray])
  | .object members =>
      .openObject :: (commaSeparated (memberWords members) ++ [.closeObject])

def itemWords : List Form → List (List Word)
  | [] => []
  | item :: items => item.words :: itemWords items

def memberWords : List (StringForm × Form) → List (List Word)
  | [] => []
  | (key, value) :: members =>
      (.string key :: .colon :: value.words) :: memberWords members

end

mutual

/-- The value that a form is when it is read. -/
def Form.node : Form → Node
  | .null => .null
  | .bool value => .bool value
  | .number form => .number form.lexeme
  | .string form => .string form.lexeme
  | .array items => .array (itemNodes items) .closed
  | .object members => .object (formNodes members) .closed

def itemNodes : List Form → List Node
  | [] => []
  | item :: items => item.node :: itemNodes items

def formNodes : List (StringForm × Form) → Members
  | [] => []
  | (key, value) :: members => (key.lexeme, value.node) :: formNodes members

end

/-- A text consists of words, with any white space before each and at the end. -/
inductive Spaced : List Word → List Char → Prop where
  | finished {blanks : List Char} (areBlank : ∀ char ∈ blanks, isBlankChar char = true) :
      Spaced [] blanks
  | word {blanks rest : List Char} {word : Word} {words : List Word}
      (areBlank : ∀ char ∈ blanks, isBlankChar char = true)
      (spaced : Spaced words rest) :
      Spaced (word :: words) (blanks ++ (word.text ++ rest))

/-- A text spells a form. -/
def Form.Spells (form : Form) (text : String) : Prop :=
  Spaced form.words text.toList

section Lists

theorem itemWords_eq (items : List Form) : itemWords items = items.map Form.words := by
  induction items with
  | nil => rfl
  | cons item items ih => rw [itemWords, ih, List.map_cons]

theorem memberWords_eq (members : MemberForms) :
    memberWords members =
      members.map fun member => .string member.1 :: .colon :: member.2.words := by
  induction members with
  | nil => rfl
  | cons member members ih => rw [memberWords, ih, List.map_cons]

theorem itemNodes_eq (items : List Form) : itemNodes items = items.map Form.node := by
  induction items with
  | nil => rfl
  | cons item items ih => rw [itemNodes, ih, List.map_cons]

theorem formNodes_eq (members : MemberForms) :
    formNodes members = members.map fun member => (member.1.lexeme, member.2.node) := by
  induction members with
  | nil => rfl
  | cons member members ih => rw [formNodes, ih, List.map_cons]

end Lists

/-- No number is directly followed by a value or a key. -/
def Separated (words : List Word) : Prop :=
  words.IsChain fun word next => word.isNumber = true → next.isMark = true

section Separation

variable {word : Word} {words others : List Word}

theorem Separated.cons (separated : Separated words) (notNumber : word.isNumber = false) :
    Separated (word :: words) := by
  refine List.isChain_cons.mpr ⟨?_, separated⟩
  intro next isNext isNumber
  rw [notNumber] at isNumber
  cases isNumber

theorem Separated.append (separated : Separated words) (isMark : word.isMark = true)
    (separatedOthers : Separated (word :: others)) :
    Separated (words ++ word :: others) := by
  refine List.IsChain.append separated separatedOthers ?_
  intro last isLast next isNext isNumber
  rw [List.head?_cons, Option.mem_some_iff] at isNext
  exact isNext ▸ isMark

theorem separated_commaSeparated {parts : List (List Word)}
    (separated : ∀ part ∈ parts, Separated part) (isMark : word.isMark = true) :
    Separated (commaSeparated parts ++ [word]) := by
  have rest : ∀ others : List (List Word), (∀ part ∈ others, Separated part) →
      ∀ first, Separated first →
        Separated (first ++ others.flatMap (.comma :: ·) ++ [word]) := by
    intro others separatedOthers
    induction others with
    | nil =>
        intro first separatedFirst
        rw [List.flatMap_nil, List.append_nil]
        exact separatedFirst.append isMark (List.isChain_singleton _)
    | cons part others ih =>
        intro first separatedFirst
        obtain ⟨separatedPart, separatedParts⟩ := List.forall_mem_cons.mp separatedOthers
        have later : Separated
            (.comma :: (part ++ others.flatMap (.comma :: ·) ++ [word])) :=
          (ih separatedParts part separatedPart).cons rfl
        rw [List.flatMap_cons, List.append_assoc, List.append_assoc, List.cons_append]
        rw [List.append_assoc] at later
        exact separatedFirst.append rfl later
  cases parts with
  | nil => exact List.isChain_singleton _
  | cons first others =>
      obtain ⟨separatedFirst, separatedOthers⟩ := List.forall_mem_cons.mp separated
      exact rest others separatedOthers first separatedFirst

end Separation

mutual

theorem Form.separated : (form : Form) → Separated form.words
  | .null => List.isChain_singleton _
  | .bool _ => List.isChain_singleton _
  | .number _ => List.isChain_singleton _
  | .string _ => List.isChain_singleton _
  | .array items =>
      (separated_commaSeparated (separated_itemWords items) rfl).cons rfl
  | .object members =>
      (separated_commaSeparated (separated_memberWords members) rfl).cons rfl

theorem separated_itemWords : (items : List Form) →
    ∀ part ∈ itemWords items, Separated part
  | [] => by simp [itemWords]
  | item :: items =>
      List.forall_mem_cons.mpr ⟨item.separated, separated_itemWords items⟩

theorem separated_memberWords : (members : List (StringForm × Form)) →
    ∀ part ∈ memberWords members, Separated part
  | [] => by simp [memberWords]
  | (key, value) :: members =>
      List.forall_mem_cons.mpr
        ⟨(value.separated.cons rfl).cons rfl, separated_memberWords members⟩

end

end ProbeLifecycle.Json
