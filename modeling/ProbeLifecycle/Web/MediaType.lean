/-!
# Media types

The type of a body is written as a type and a subtype with a slash between
them, and perhaps parameters after semicolons.  Only bodies of a JSON type are
taken: `application/json`, or an application type whose subtype begins or ends,
at its last plus sign, with `json`.
-/

namespace ProbeLifecycle.MediaType

def isTokenChar (char : Char) : Bool :=
  char.isAlphanum || "!#$%&'*+-.^_`|~".toList.contains char

def isQuotedChar (char : Char) : Bool :=
  0x20 ≤ char.toNat && char.toNat < 0x7F

/-- What follows a quoted value and its parameter, given the text after the
opening mark; the value has to have a character before the closing mark. -/
def afterQuoted (started : Bool) : List Char → Option (List Char)
  | [] => none
  | char :: chars =>
      if char = '"' ∧ started then
        match chars.dropWhile (· == ' ') with
        | [] => some []
        | ';' :: chars => some chars
        | _ => none
      else if isQuotedChar char then afterQuoted true chars
      else none

def afterToken (chars : List Char) : Option (List Char) :=
  match chars.dropWhile isTokenChar with
  | [] => some []
  | ';' :: rest =>
      if (chars.takeWhile isTokenChar).isEmpty then none else some rest
  | _ => none

def afterParameter (chars : List Char) : Option (List Char) :=
  if (chars.takeWhile isTokenChar).isEmpty then none
  else
    match chars.dropWhile isTokenChar with
    | '=' :: '"' :: chars => afterQuoted false chars
    | '=' :: chars => afterToken chars
    | _ => none

theorem dropWhile_length_le {α : Type} (test : α → Bool) (list : List α) :
    (list.dropWhile test).length ≤ list.length :=
  (List.dropWhile_suffix test).length_le

theorem afterQuoted_length {started : Bool} {chars rest : List Char}
    (after : afterQuoted started chars = some rest) :
    rest.length ≤ chars.length := by
  induction chars generalizing started with
  | nil => simp [afterQuoted] at after
  | cons char chars ih =>
      unfold afterQuoted at after
      split at after
      · have dropped := dropWhile_length_le (fun char => char == ' ') chars
        split at after
        · cases after
          simp
        · rename_i equal
          cases after
          rw [equal] at dropped
          simp only [List.length_cons] at dropped ⊢
          omega
        · cases after
      · split at after
        · have := ih after
          simp only [List.length_cons]
          omega
        · cases after

theorem afterToken_length {chars rest : List Char}
    (after : afterToken chars = some rest) : rest.length ≤ chars.length := by
  unfold afterToken at after
  have dropped := dropWhile_length_le isTokenChar chars
  split at after
  · cases after
    simp
  · rename_i equal
    split at after
    · cases after
    · cases after
      rw [equal] at dropped
      simp only [List.length_cons] at dropped
      omega
  · cases after

theorem afterParameter_length {chars rest : List Char}
    (after : afterParameter chars = some rest) :
    rest.length < chars.length := by
  unfold afterParameter at after
  have dropped := dropWhile_length_le isTokenChar chars
  split at after
  · cases after
  · split at after
    · rename_i equal
      have := afterQuoted_length after
      rw [equal] at dropped
      simp only [List.length_cons] at dropped
      omega
    · rename_i equal
      have := afterToken_length after
      rw [equal] at dropped
      simp only [List.length_cons] at dropped
      omega
    · cases after

/-- Whether text is a list of parameters; spaces may stand before each. -/
def areParameters (chars : List Char) : Bool :=
  match chars with
  | [] => true
  | char :: rest =>
      if char = ' ' then areParameters rest
      else
        match _after : afterParameter (char :: rest) with
        | some rest => areParameters rest
        | none => false
termination_by chars.length
decreasing_by
  · simp
  · exact afterParameter_length _after

/-- The subtype up to its last plus sign, and what follows that.  A plus sign
at the start is part of the subtype. -/
def splitSuffix (subtype : List Char) : List Char × Option (List Char) :=
  let suffix := (subtype.reverse.takeWhile (· != '+')).reverse
  let before := subtype.take (subtype.length - suffix.length - 1)
  if (subtype.drop 1).contains '+' then (before, some suffix)
  else (subtype, none)

def isJson (value : String) : Bool :=
  let chars := value.toList.map Char.toLower
  match chars.dropWhile isTokenChar with
  | '/' :: rest =>
      let (name, suffix) := splitSuffix (rest.takeWhile isTokenChar)
      let json := "json".toList
      chars.takeWhile isTokenChar == "application".toList &&
        (name == json || suffix == some json) &&
        (match rest.dropWhile isTokenChar with
          | [] => true
          | ';' :: parameters => areParameters parameters
          | _ => false)
  | _ => false

end ProbeLifecycle.MediaType
