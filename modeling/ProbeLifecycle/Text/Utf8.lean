/-!
# UTF-8

Bodies and percent-encoded names arrive as bytes.  Decoding runs over them one
byte at a time; a malformed sequence is reported once for its longest prefix
that could still have become a character.  Reading a body puts U+FFFD in its
place, while a cluster identifier with a malformed sequence is refused.
-/

namespace ProbeLifecycle.Text

def utf8Bytes (chars : List Char) : List UInt8 :=
  chars.flatMap String.utf8EncodeChar

/-- A character that has been begun: its bits so far, how many bytes are still
owed, and the bounds that the next byte has to keep. -/
structure PartialChar where
  value : Nat
  owed : Nat
  least : Nat
  greatest : Nat
  deriving DecidableEq, Repr

def PartialChar.next (char : PartialChar) (byte : Nat) : PartialChar where
  value := char.value * 0x40 + byte % 0x40
  owed := char.owed - 1
  least := 0x80
  greatest := 0xBF

/-- What has been read so far: characters and malformed sequences (`none`), the
latest first, and the character under way. -/
structure Utf8State where
  read : List (Option Char) := []
  pending : Option PartialChar := none
  deriving DecidableEq, Repr

def Utf8State.beginChar (read : List (Option Char)) (byte : Nat) : Utf8State :=
  if byte < 0x80 then { read := some (Char.ofNat byte) :: read }
  else if byte < 0xC2 then { read := none :: read }
  else if byte < 0xE0 then { read, pending := some ⟨byte % 0x20, 1, 0x80, 0xBF⟩ }
  else if byte = 0xE0 then { read, pending := some ⟨0, 2, 0xA0, 0xBF⟩ }
  else if byte = 0xED then { read, pending := some ⟨0xD, 2, 0x80, 0x9F⟩ }
  else if byte < 0xF0 then { read, pending := some ⟨byte % 0x10, 2, 0x80, 0xBF⟩ }
  else if byte = 0xF0 then { read, pending := some ⟨0, 3, 0x90, 0xBF⟩ }
  else if byte < 0xF4 then { read, pending := some ⟨byte % 0x8, 3, 0x80, 0xBF⟩ }
  else if byte = 0xF4 then { read, pending := some ⟨4, 3, 0x80, 0x8F⟩ }
  else { read := none :: read }

/-- Reads one byte.  A byte that cannot continue the character under way ends
it as malformed and is then read as a beginning. -/
def Utf8State.feed (state : Utf8State) (byte : UInt8) : Utf8State :=
  match state.pending with
  | none => beginChar state.read byte.toNat
  | some char =>
      if char.least ≤ byte.toNat ∧ byte.toNat ≤ char.greatest then
        let char := char.next byte.toNat
        if char.owed = 0 then { read := some (Char.ofNat char.value) :: state.read }
        else { state with pending := some char }
      else beginChar (none :: state.read) byte.toNat

/-- The characters and malformed sequences read, in order; a character cut off
by the end is malformed. -/
def Utf8State.finish (state : Utf8State) : List (Option Char) :=
  match state.pending with
  | none => state.read.reverse
  | some _ => (none :: state.read).reverse

/-- The characters of a byte sequence, with `none` for each malformed part. -/
def utf8Units (bytes : List UInt8) : List (Option Char) :=
  (bytes.foldl Utf8State.feed {}).finish

/-- The character that stands for a malformed sequence. -/
def replacementChar : Char := '\ufffd'

/-- Decodes bytes, putting U+FFFD for each malformed part. -/
def decodeUtf8Lossy (bytes : List UInt8) : List Char :=
  (utf8Units bytes).map (·.getD replacementChar)

def decodeUtf8? (bytes : List UInt8) : Option (List Char) :=
  (utf8Units bytes).mapM id

def dropByteOrderMark : List UInt8 → List UInt8
  | 0xEF :: 0xBB :: 0xBF :: bytes => bytes
  | bytes => bytes

example : decodeUtf8Lossy [0x61, 0xE2, 0x82, 0x62, 0xC3, 0xA9] = "a\ufffdbé".toList := by
  decide

end ProbeLifecycle.Text
