import ProbeLifecycle.Json.Problem
import ProbeLifecycle.Text.Percent

/-!
# JSON strings

Between its quotation marks a string is a sequence of units: characters,
escapes, and code units written in hexadecimal.  A string that is kept joins
surrogate code units into characters and refuses one without its partner; a
string that is passed over takes them as they come.
-/

namespace ProbeLifecycle.Json

open Text

/-- A unit between quotation marks, or the closing mark. -/
inductive StringUnit where
  | close
  | char (char : Char)
  | codeUnit (value : Nat)
  deriving DecidableEq, Repr

/-- The character that a letter after a backslash stands for. -/
def escapedChar? (letter : Char) : Option Char :=
  if letter = '"' ∨ letter = '\\' ∨ letter = '/' then some letter
  else if letter = 'b' then some '\x08'
  else if letter = 'f' then some '\x0c'
  else if letter = 'n' then some '\n'
  else if letter = 'r' then some '\r'
  else if letter = 't' then some '\t'
  else none

/-- Reads the four hexadecimal digits of a code unit.  The text counts as ended
when fewer than four bytes are left. -/
def takeCodeUnit : List Char → Except Problem (Nat × List Char)
  | first :: second :: third :: fourth :: rest =>
      match hexValue? first, hexValue? second, hexValue? third,
        hexValue? fourth with
      | some first, some second, some third, some fourth =>
          .ok (((first * 16 + second) * 16 + third) * 16 + fourth, rest)
      | _, _, _, _ => .error .malformed
  | rest =>
      .error (if (utf8Bytes rest).length < 4 then .unfinished else .malformed)

def takeStringUnit : List Char → Except Problem (StringUnit × List Char)
  | [] => .error .unfinished
  | char :: rest =>
      if char = '"' then .ok (.close, rest)
      else if char = '\\' then
        match rest with
        | [] => .error .unfinished
        | letter :: rest =>
            if letter = 'u' then
              match takeCodeUnit rest with
              | .ok (value, rest) => .ok (.codeUnit value, rest)
              | .error problem => .error problem
            else
              match escapedChar? letter with
              | some char => .ok (.char char, rest)
              | none => .error .malformed
      else if char.toNat < 0x20 then .error .malformed
      else .ok (.char char, rest)

theorem takeCodeUnit_length {text rest : List Char} {value : Nat}
    (taken : takeCodeUnit text = .ok (value, rest)) :
    rest.length < text.length := by
  unfold takeCodeUnit at taken
  split at taken
  · split at taken
    · cases taken
      simp only [List.length_cons]
      omega
    · cases taken
  · cases taken

theorem takeStringUnit_length {text rest : List Char} {unit : StringUnit}
    (taken : takeStringUnit text = .ok (unit, rest)) :
    rest.length < text.length := by
  unfold takeStringUnit at taken
  split at taken
  · cases taken
  · split at taken
    · cases taken
      simp
    · split at taken
      · split at taken
        · cases taken
        · split at taken
          · split at taken
            · rename_i codeUnitTaken
              cases taken
              have := takeCodeUnit_length codeUnitTaken
              simp only [List.length_cons]
              omega
            · cases taken
          · split at taken
            · cases taken
              simp only [List.length_cons]
              omega
            · cases taken
      · split at taken
        · cases taken
        · cases taken
          simp

def passString (text : List Char) : Except Problem (List Char) :=
  match _taken : takeStringUnit text with
  | .error problem => .error problem
  | .ok (.close, rest) => .ok rest
  | .ok (.char _, rest) => passString rest
  | .ok (.codeUnit _, rest) => passString rest
termination_by text.length
decreasing_by
  all_goals exact takeStringUnit_length (by assumption)

def isHighSurrogate (value : Nat) : Bool :=
  0xD800 ≤ value && value ≤ 0xDBFF

def isLowSurrogate (value : Nat) : Bool :=
  0xDC00 ≤ value && value ≤ 0xDFFF

def surrogatePair (high low : Nat) : Char :=
  .ofNat (0x10000 + (high - 0xD800) * 0x400 + (low - 0xDC00))

def takeLowSurrogate : List Char → Except Problem (Nat × List Char)
  | '\\' :: 'u' :: rest =>
      match takeCodeUnit rest with
      | .ok (value, rest) =>
          if isLowSurrogate value then .ok (value, rest) else .error .malformed
      | .error problem => .error problem
  | [] => .error .unfinished
  | ['\\'] => .error .unfinished
  | _ => .error .malformed

/-- Reads the character at the start of the text as kept strings want it, or
the closing mark (`none`). -/
def takeStringChar (text : List Char) :
    Except Problem (Option Char × List Char) :=
  match takeStringUnit text with
  | .error problem => .error problem
  | .ok (.close, rest) => .ok (none, rest)
  | .ok (.char char, rest) => .ok (some char, rest)
  | .ok (.codeUnit value, rest) =>
      if isLowSurrogate value then .error .malformed
      else if isHighSurrogate value then
        match takeLowSurrogate rest with
        | .ok (low, rest) => .ok (some (surrogatePair value low), rest)
        | .error problem => .error problem
      else .ok (some (.ofNat value), rest)

theorem takeLowSurrogate_length {text rest : List Char} {value : Nat}
    (taken : takeLowSurrogate text = .ok (value, rest)) :
    rest.length < text.length := by
  unfold takeLowSurrogate at taken
  split at taken
  · split at taken
    · rename_i codeUnitTaken
      split at taken
      · cases taken
        have := takeCodeUnit_length codeUnitTaken
        simp only [List.length_cons]
        omega
      · cases taken
    · cases taken
  all_goals cases taken

theorem takeStringChar_length {text rest : List Char} {char : Option Char}
    (taken : takeStringChar text = .ok (char, rest)) :
    rest.length < text.length := by
  unfold takeStringChar at taken
  split at taken
  · cases taken
  · rename_i unitTaken
    cases taken
    exact takeStringUnit_length unitTaken
  · rename_i unitTaken
    cases taken
    exact takeStringUnit_length unitTaken
  · rename_i unitTaken
    have shorter := takeStringUnit_length unitTaken
    split at taken
    · cases taken
    · split at taken
      · split at taken
        · rename_i lowTaken
          cases taken
          have := takeLowSurrogate_length lowTaken
          omega
        · cases taken
      · cases taken
        exact shorter

/-- Reads a string after its opening mark, with the characters before it in
reverse. -/
def takeString (before : List Char) (text : List Char) :
    Except Problem String :=
  match _taken : takeStringChar text with
  | .error problem => .error problem
  | .ok (none, _) => .ok (.ofList before.reverse)
  | .ok (some char, rest) => takeString (char :: before) rest
termination_by text.length
decreasing_by exact takeStringChar_length (by assumption)

theorem passString_length {text rest : List Char}
    (passed : passString text = .ok rest) : rest.length < text.length := by
  fun_induction passString text with
  | case1 text problem taken => cases passed
  | case2 text after taken =>
      cases passed
      exact takeStringUnit_length taken
  | case3 text char after taken ih =>
      have := takeStringUnit_length taken
      have := ih passed
      omega
  | case4 text value after taken ih =>
      have := takeStringUnit_length taken
      have := ih passed
      omega

end ProbeLifecycle.Json
