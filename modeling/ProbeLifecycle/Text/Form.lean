import ProbeLifecycle.Text.Percent

/-!
# Form encoding

`application/x-www-form-urlencoded` text holds pairs of names and values.
Letters, digits and `*-._` stand for themselves, a space is a plus sign, and
everything else is percent-encoded, so neither separator occurs inside a name
or a value.
-/

namespace ProbeLifecycle.Text

abbrev FormPairs := List (String × String)

def isFormChar (char : Char) : Bool :=
  char.isAlphanum || char == '*' || char == '-' || char == '.' || char == '_'

def formEncodeChar (char : Char) : List Char :=
  if char = ' ' then ['+'] else percentEncodeChar isFormChar char

def formEncode (chars : List Char) : List Char :=
  chars.flatMap formEncodeChar

def formDecode (chars : List Char) : List Char :=
  decodeUtf8Lossy
    (percentDecode (chars.map fun char => if char = '+' then ' ' else char))

def formPair (name value : String) : List Char :=
  formEncode name.toList ++ '=' :: formEncode value.toList

def encodeForm (pairs : FormPairs) : List Char :=
  ['&'].intercalate (pairs.map fun pair => formPair pair.1 pair.2)

/-- The pair written in one piece: the name ends at the first equals sign, and
without one the value is empty. -/
def readFormPair (chars : List Char) : String × String :=
  (.ofList (formDecode (chars.takeWhile (· != '='))),
    .ofList (formDecode ((chars.dropWhile (· != '=')).drop 1)))

/-- Reads the pairs of form-encoded text; empty pieces between ampersands hold
no pair. -/
def decodeForm (chars : List Char) : FormPairs :=
  ((chars.splitOn '&').filter fun piece => !piece.isEmpty).map readFormPair

example :
    encodeForm [("scope", "a b"), ("key", "&=")] = "scope=a+b&key=%26%3D".toList := by
  decide

end ProbeLifecycle.Text
