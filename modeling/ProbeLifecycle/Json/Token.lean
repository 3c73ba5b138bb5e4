import ProbeLifecycle.Json.Number
import ProbeLifecycle.Json.Escape

/-!
# JSON tokens

A text is first cut into tokens.  White space is the space, the tab, the line
feed and the carriage return only.  A token that is wrong under every set of
rules ends the list, since nothing after it is read.
-/

namespace ProbeLifecycle.Json

open Text

/-- A token of JSON text.  Anything that begins no token, and a literal that is
not spelled out, is `misspelt`. -/
inductive Token where
  | openArray
  | closeArray
  | openObject
  | closeObject
  | comma
  | colon
  | null
  | bool (value : Bool)
  | number (lexeme : Lexeme Number)
  | string (lexeme : Lexeme String)
  | misspelt (problem : Problem)

/-- Whether a character may stand between tokens. -/
def isBlankChar (char : Char) : Bool :=
  char == ' ' || char == '\t' || char == '\n' || char == '\r'

/-- What follows the letters, or the problem met in spelling them. -/
def spell : List Char → List Char → Except Problem (List Char)
  | [], rest => .ok rest
  | _ :: _, [] => .error .unfinished
  | letter :: letters, char :: rest =>
      if char = letter then spell letters rest else .error .malformed

def takeLiteral (token : Token) (letters : List Char) (rest : List Char) :
    Token × List Char :=
  match spell letters rest with
  | .ok rest => (token, rest)
  | .error problem => (.misspelt problem, [])

def takeStringToken (rest : List Char) : Token × List Char :=
  match passString rest with
  | .ok after =>
      (.string { kept := takeString [] rest, fault := none }, after)
  | .error problem =>
      (.string { kept := takeString [] rest, fault := some problem }, [])

def takeNumberToken (text : List Char) : Token × List Char :=
  let numeral := Numeral.take text
  let lexeme := numeral.1.lexeme numeral.2
  (.number lexeme, if lexeme.fault.isSome then [] else numeral.2)

def punctuation? (char : Char) : Option Token :=
  if char = '[' then some .openArray
  else if char = ']' then some .closeArray
  else if char = '\x7b' then some .openObject
  else if char = '\x7d' then some .closeObject
  else if char = ',' then some .comma
  else if char = ':' then some .colon
  else none

/-- The literal that begins with a letter, and the letters that complete it. -/
def literal? (char : Char) : Option (Token × List Char) :=
  if char = 'n' then some (.null, ['u', 'l', 'l'])
  else if char = 't' then some (.bool true, ['r', 'u', 'e'])
  else if char = 'f' then some (.bool false, ['a', 'l', 's', 'e'])
  else none

def takeToken (char : Char) (rest : List Char) : Token × List Char :=
  match punctuation? char, literal? char with
  | some token, _ => (token, rest)
  | none, some (token, letters) => takeLiteral token letters rest
  | none, none =>
      if char = '"' then takeStringToken rest
      else if char = '-' ∨ char.isDigit then takeNumberToken (char :: rest)
      else (.misspelt .malformed, [])

theorem spell_length {letters text rest : List Char}
    (spelt : spell letters text = .ok rest) : rest.length ≤ text.length := by
  fun_induction spell letters text with
  | case1 text => cases spelt; exact Nat.le_refl _
  | case2 => cases spelt
  | case3 letters char text ih =>
      have := ih spelt
      simp only [List.length_cons]
      omega
  | case4 => cases spelt

theorem takeLiteral_length (token : Token) (letters rest : List Char) :
    (takeLiteral token letters rest).2.length ≤ rest.length := by
  unfold takeLiteral
  split
  · rename_i spelt
    exact spell_length spelt
  · simp

theorem takeStringToken_length (rest : List Char) :
    (takeStringToken rest).2.length ≤ rest.length := by
  unfold takeStringToken
  split
  · rename_i passed
    have := passString_length passed
    simp only
    omega
  · simp

theorem takeDigits_length (text : List Char) :
    (takeDigits text).2.length ≤ text.length :=
  (List.dropWhile_suffix Char.isDigit).length_le

theorem takeExponent_length (text : List Char) :
    (takeExponent text).2.length ≤ text.length := by
  unfold takeExponent
  split
  · have := takeDigits_length ‹List Char›
    simp only [List.length_cons]
    omega
  · have := takeDigits_length ‹List Char›
    simp only [List.length_cons]
    omega
  · exact takeDigits_length _

theorem Numeral.withExponent_length (numeral : Numeral) (text : List Char) :
    (numeral.withExponent text).2.length ≤ text.length := by
  unfold Numeral.withExponent
  split
  · simp
  · rename_i char rest
    have := takeExponent_length rest
    split
    · simp only [List.length_cons]
      omega
    · simp

theorem Numeral.withFraction_length (numeral : Numeral) (text : List Char) :
    (numeral.withFraction text).2.length ≤ text.length := by
  unfold Numeral.withFraction
  split
  · rename_i rest
    have digitsLength := takeDigits_length rest
    have exponentLength := Numeral.withExponent_length
      { numeral with fraction := some (takeDigits rest).1 } (takeDigits rest).2
    simp only [List.length_cons]
    split
    · exact Nat.le_trans digitsLength (Nat.le_succ _)
    · exact Nat.le_trans (Nat.le_trans exponentLength digitsLength)
        (Nat.le_succ _)
  · exact Numeral.withExponent_length _ _

theorem Numeral.takeUnsigned_length (negative : Bool) (text : List Char) :
    (Numeral.takeUnsigned negative text).2.length ≤
      (takeDigits text).2.length := by
  unfold Numeral.takeUnsigned
  simp only
  split
  · exact Nat.le_refl _
  · exact Numeral.withFraction_length _ _

/-- A numeral takes at least the sign or the digit that it begins with. -/
theorem Numeral.take_length (char : Char) (rest : List Char)
    (begins : char = '-' ∨ char.isDigit) :
    (Numeral.take (char :: rest)).2.length ≤ rest.length := by
  unfold Numeral.take
  split
  · rename_i equal
    cases equal
    exact Nat.le_trans (Numeral.takeUnsigned_length _ _) (takeDigits_length _)
  · rename_i notMinus
    have digit : char.isDigit = true :=
      begins.resolve_left fun minus => notMinus rest (by rw [minus])
    refine Nat.le_trans (Numeral.takeUnsigned_length _ _) ?_
    simp only [takeDigits, List.dropWhile_cons, digit, if_true]
    exact (List.dropWhile_suffix Char.isDigit).length_le

theorem takeToken_length (char : Char) (rest : List Char) :
    (takeToken char rest).2.length ≤ rest.length := by
  unfold takeToken
  split
  · exact Nat.le_refl _
  · exact takeLiteral_length _ _ _
  · split
    · exact takeStringToken_length _
    · split
      · rename_i begins
        have := Numeral.take_length char rest begins
        simp only [takeNumberToken]
        split
        · simp
        · exact this
      · simp

/-- The tokens of the text after those already read, which are in reverse. -/
def tokensAfter (read : List Token) (text : List Char) : List Token :=
  match text with
  | [] => read.reverse
  | char :: rest =>
      if isBlankChar char then tokensAfter read rest
      else
        let taken := takeToken char rest
        tokensAfter (taken.1 :: read) taken.2
termination_by text.length
decreasing_by
  · simp
  · have := takeToken_length char rest
    simp only [List.length_cons]
    omega

def tokens (text : List Char) : List Token :=
  tokensAfter [] text

end ProbeLifecycle.Json
