import Mathlib.Data.Bool.AllAny
import ProbeLifecycle.Proofs.BodyText
import ProbeLifecycle.Http.Message

/-!
# Percent-encoded text

Percent-encoding is undone by decoding, so text that is encoded for a place keeps
its identity there, whatever characters it holds.  What it is written with are the
characters that the place allows, percent signs and hexadecimal digits.
-/

namespace ProbeLifecycle

namespace Text

section Bytes

/-- The characters with which bytes are written. -/
def escapeChars : List Char :=
  ['%', '0', '1', '2', '3', '4', '5', '6', '7', '8', '9', 'A', 'B', 'C', 'D', 'E',
    'F']

theorem upperHexDigit_mem {number : Nat} (small : number < 16) :
    upperHexDigit number ∈ escapeChars := by
  decide +revert

theorem hexValue?_upperHexDigit {number : Nat} (small : number < 16) :
    hexValue? (upperHexDigit number) = some number := by
  decide +revert

theorem mem_percentByte {byte : UInt8} {char : Char}
    (member : char ∈ percentByte byte) : char ∈ escapeChars := by
  have small : byte.toNat < 256 := byte.toNat_lt
  simp only [percentByte, List.mem_cons, List.not_mem_nil, or_false] at member
  rcases member with rfl | rfl | rfl
  · decide
  · exact upperHexDigit_mem (by omega)
  · exact upperHexDigit_mem (by omega)

theorem percentDecode_percentByte (byte : UInt8) (rest : List Char) :
    percentDecode (percentByte byte ++ rest) = byte :: percentDecode rest := by
  have small : byte.toNat < 256 := byte.toNat_lt
  have joined : 16 * (byte.toNat / 16) + byte.toNat % 16 = byte.toNat := by omega
  have escaped : escapedByte? (upperHexDigit (byte.toNat / 16))
      (upperHexDigit (byte.toNat % 16)) = some byte := by
    unfold escapedByte?
    rw [hexValue?_upperHexDigit (by omega), hexValue?_upperHexDigit (by omega)]
    simp [joined]
  simp only [percentByte, List.cons_append, List.nil_append, percentDecode, escaped]

theorem percentDecode_percentBytes (bytes : List UInt8) (rest : List Char) :
    percentDecode (bytes.flatMap percentByte ++ rest) =
      bytes ++ percentDecode rest := by
  induction bytes with
  | nil => rfl
  | cons byte bytes ih =>
      rw [List.flatMap_cons, List.append_assoc, percentDecode_percentByte, ih,
        List.cons_append]

theorem percentDecode_cons {char : Char} (plain : char ≠ '%') (rest : List Char) :
    percentDecode (char :: rest) =
      String.utf8EncodeChar char ++ percentDecode rest := by
  rw [percentDecode]
  intro high low chars isPercent
  exact absurd isPercent plain

end Bytes

section Texts

variable {keep : Char → Bool}

theorem mem_percentEncode {chars : List Char} {char : Char}
    (member : char ∈ percentEncode keep chars) :
    (char ∈ chars ∧ keep char = true) ∨ char ∈ escapeChars := by
  obtain ⟨source, inChars, written⟩ := List.mem_flatMap.mp member
  unfold percentEncodeChar at written
  split at written
  · rename_i kept
    obtain rfl := List.mem_singleton.mp written
    exact .inl ⟨inChars, kept⟩
  · obtain ⟨byte, -, escaped⟩ := List.mem_flatMap.mp written
    exact .inr (mem_percentByte escaped)

theorem percentEncode_eq_self {chars : List Char}
    (kept : ∀ char ∈ chars, keep char = true) :
    percentEncode keep chars = chars := by
  induction chars with
  | nil => rfl
  | cons first chars ih =>
      have rest := ih fun char member => kept char (List.mem_cons_of_mem _ member)
      unfold percentEncode at rest ⊢
      rw [List.flatMap_cons, rest, percentEncodeChar,
        if_pos (kept first List.mem_cons_self)]
      rfl

theorem keep_of_mem_percentEncode {chars : List Char} {char : Char}
    (escapes : ∀ char ∈ escapeChars, keep char = true)
    (member : char ∈ percentEncode keep chars) : keep char = true := by
  rcases mem_percentEncode member with ⟨-, kept⟩ | isEscape
  · exact kept
  · exact escapes char isEscape

/-- Decoding undoes encoding where percent signs are encoded. -/
theorem percentDecode_percentEncode (escapes : keep '%' = false)
    (chars : List Char) :
    percentDecode (percentEncode keep chars) = utf8Bytes chars := by
  induction chars with
  | nil => rfl
  | cons char chars ih =>
      unfold percentEncode utf8Bytes at ih ⊢
      rw [List.flatMap_cons, List.flatMap_cons, ← ih]
      unfold percentEncodeChar
      split
      · rename_i kept
        have plain : char ≠ '%' := by
          rintro rfl
          rw [escapes] at kept
          cases kept
        exact percentDecode_cons plain _
      · exact percentDecode_percentBytes _ _

theorem decodeUtf8?_utf8Bytes (chars : List Char) :
    decodeUtf8? (utf8Bytes chars) = some chars := by
  unfold decodeUtf8? utf8Units
  rw [Utf8State.feed_utf8Bytes]
  simpa [Utf8State.finish, List.mapM_map] using
    List.mapM_pure (m := Option) (l := chars) (f := id)

end Texts

end Text

open Text

theorem percentDecoded?_percentEncode {keep : Char → Bool}
    (escapes : keep '%' = false) (chars : List Char) :
    percentDecoded? (.ofList (percentEncode keep chars)) =
      some (.ofList chars) := by
  unfold percentDecoded?
  rw [String.toList_ofList, percentDecode_percentEncode escapes,
    decodeUtf8?_utf8Bytes]
  rfl

end ProbeLifecycle
