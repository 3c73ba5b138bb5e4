import ProbeLifecycle.Http.Reply

/-!
# Text in bodies

The bytes of a text are read back as the text.  A character of several bytes has
a lead byte, which tells how many bytes it owes and bounds the next one, and each
byte after that adds six bits.
-/

namespace ProbeLifecycle

open Text

namespace Text.Utf8State

variable {read : List (Option Char)} {value owed least greatest bits lead : Nat}

theorem toNat_continuation (small : bits < 64) :
    (UInt8.ofNat (bits + 128)).toNat = bits + 128 := by
  rw [UInt8.toNat_ofNat']
  omega

/-- A byte in its bounds adds its six bits to the character under way. -/
theorem feed_more (small : bits < 64) (notLess : least ≤ bits + 128)
    (notGreater : bits + 128 ≤ greatest) :
    feed ⟨read, some ⟨value, owed + 2, least, greatest⟩⟩
        (.ofNat (bits + 128)) =
      ⟨read, some ⟨value * 64 + bits, owed + 1, 128, 191⟩⟩ := by
  have sixBits : (bits + 128) % 64 = bits := by omega
  simp only [feed, toNat_continuation small, notLess, notGreater, and_self,
    if_true, PartialChar.next, sixBits]
  rw [if_neg (by omega)]
  rfl

theorem feed_last (small : bits < 64) (notLess : least ≤ bits + 128)
    (notGreater : bits + 128 ≤ greatest) :
    feed ⟨read, some ⟨value, 1, least, greatest⟩⟩ (.ofNat (bits + 128)) =
      ⟨some (Char.ofNat (value * 64 + bits)) :: read, none⟩ := by
  have sixBits : (bits + 128) % 64 = bits := by omega
  simp only [feed, toNat_continuation small, notLess, notGreater, and_self,
    if_true, PartialChar.next, sixBits]

theorem feed_lead_two (notLess : 2 ≤ lead) (less : lead < 32) :
    feed ⟨read, none⟩ (.ofNat (lead + 192)) =
      ⟨read, some ⟨lead, 1, 128, 191⟩⟩ := by
  have byte : (UInt8.ofNat (lead + 192)).toNat = lead + 192 := by
    rw [UInt8.toNat_ofNat']
    omega
  have fiveBits : (lead + 192) % 32 = lead := by omega
  simp only [feed, byte, beginChar]
  rw [if_neg (by omega), if_neg (by omega), if_pos (by omega), fiveBits]

/-- A lead byte of three: the next byte may not make the character too small or
half of a pair. -/
theorem feed_lead_three (read : List (Option Char)) (less : lead < 16) (small : bits < 64)
    (notOverlong : lead = 0 → 32 ≤ bits) (notSurrogate : lead = 13 → bits < 32) :
    ∃ least greatest, feed ⟨read, none⟩ (.ofNat (lead + 224)) =
        ⟨read, some ⟨lead, 2, least, greatest⟩⟩ ∧
      least ≤ bits + 128 ∧ bits + 128 ≤ greatest := by
  have byte : (UInt8.ofNat (lead + 224)).toNat = lead + 224 := by
    rw [UInt8.toNat_ofNat']
    omega
  have fourBits : (lead + 224) % 16 = lead := by omega
  simp only [feed, byte, beginChar]
  rw [if_neg (by omega), if_neg (by omega), if_neg (by omega), fourBits]
  by_cases isFirst : lead = 0
  · exact ⟨160, 191, by simp [isFirst], by omega, by omega⟩
  · rw [if_neg (by omega)]
    by_cases isSurrogate : lead = 13
    · exact ⟨128, 159, by simp [isSurrogate], by omega, by omega⟩
    · rw [if_neg (by omega), if_pos (by omega)]
      exact ⟨128, 191, rfl, by omega, by omega⟩

/-- A lead byte of four: the next byte may not make the character too small or
too large. -/
theorem feed_lead_four (read : List (Option Char)) (notGreater : lead ≤ 4) (small : bits < 64)
    (notOverlong : lead = 0 → 16 ≤ bits) (inRange : lead = 4 → bits < 16) :
    ∃ least greatest, feed ⟨read, none⟩ (.ofNat (lead + 240)) =
        ⟨read, some ⟨lead, 3, least, greatest⟩⟩ ∧
      least ≤ bits + 128 ∧ bits + 128 ≤ greatest := by
  have byte : (UInt8.ofNat (lead + 240)).toNat = lead + 240 := by
    rw [UInt8.toNat_ofNat']
    omega
  have threeBits : (lead + 240) % 8 = lead := by omega
  simp only [feed, byte, beginChar]
  rw [if_neg (by omega), if_neg (by omega), if_neg (by omega),
    if_neg (by omega), if_neg (by omega), if_neg (by omega), threeBits]
  by_cases isFirst : lead = 0
  · exact ⟨144, 191, by simp [isFirst], by omega, by omega⟩
  · rw [if_neg (by omega)]
    by_cases isLast : lead = 4
    · exact ⟨128, 143, by simp [isLast], by omega, by omega⟩
    · rw [if_pos (by omega)]
      exact ⟨128, 191, rfl, by omega, by omega⟩

section Bytes

variable {code : Nat}

theorem feed_one_byte (less : code < 128) :
    [UInt8.ofNat code].foldl feed ⟨read, none⟩ =
      ⟨some (Char.ofNat code) :: read, none⟩ := by
  have byte : (UInt8.ofNat code).toNat = code := by
    rw [UInt8.toNat_ofNat']
    omega
  simp only [List.foldl_cons, List.foldl_nil, feed, byte, beginChar]
  rw [if_pos less]

theorem feed_two_bytes (notLess : 128 ≤ code) (less : code < 2048) :
    [UInt8.ofNat (code / 64 % 32 + 192), UInt8.ofNat (code % 64 + 128)].foldl
        feed ⟨read, none⟩ =
      ⟨some (Char.ofNat code) :: read, none⟩ := by
  have joined : code / 64 % 32 * 64 + code % 64 = code := by omega
  simp only [List.foldl_cons, List.foldl_nil]
  rw [feed_lead_two (by omega) (by omega),
    feed_last (by omega) (by omega) (by omega), joined]

theorem feed_three_bytes (notLess : 2048 ≤ code) (less : code < 65536)
    (notSurrogate : code < 55296 ∨ 57343 < code) :
    [UInt8.ofNat (code / 4096 % 16 + 224), UInt8.ofNat (code / 64 % 64 + 128),
        UInt8.ofNat (code % 64 + 128)].foldl feed ⟨read, none⟩ =
      ⟨some (Char.ofNat code) :: read, none⟩ := by
  have joined : (code / 4096 % 16 * 64 + code / 64 % 64) * 64 + code % 64 =
      code := by omega
  have small : code / 64 % 64 < 64 := by omega
  have lead_lt : code / 4096 % 16 < 16 := by omega
  obtain ⟨least, greatest, begun, inBounds⟩ :=
    feed_lead_three read lead_lt small (by omega) (by omega)
  simp only [List.foldl_cons, List.foldl_nil]
  rw [begun, feed_more small inBounds.1 inBounds.2,
    feed_last (by omega) (by omega) (by omega), joined]

theorem feed_four_bytes (notLess : 65536 ≤ code) (less : code < 1114112) :
    [UInt8.ofNat (code / 262144 % 8 + 240), UInt8.ofNat (code / 4096 % 64 + 128),
        UInt8.ofNat (code / 64 % 64 + 128), UInt8.ofNat (code % 64 + 128)].foldl
        feed ⟨read, none⟩ =
      ⟨some (Char.ofNat code) :: read, none⟩ := by
  have joined : ((code / 262144 % 8 * 64 + code / 4096 % 64) * 64 +
      code / 64 % 64) * 64 + code % 64 = code := by omega
  have small : code / 4096 % 64 < 64 := by omega
  have lead_le : code / 262144 % 8 ≤ 4 := by omega
  obtain ⟨least, greatest, begun, inBounds⟩ :=
    feed_lead_four read lead_le small (by omega) (by omega)
  simp only [List.foldl_cons, List.foldl_nil]
  rw [begun, feed_more small inBounds.1 inBounds.2,
    feed_more (by omega) (by omega) (by omega),
    feed_last (by omega) (by omega) (by omega), joined]

end Bytes

theorem feed_utf8EncodeChar (char : Char) (read : List (Option Char)) :
    (String.utf8EncodeChar char).foldl feed ⟨read, none⟩ =
      ⟨some char :: read, none⟩ := by
  obtain ⟨code, isCode⟩ : ∃ code, code = char.val.toNat := ⟨_, rfl⟩
  have same : Char.ofNat code = char := by
    rw [isCode]
    exact Char.ofNat_toNat char
  have valid : code < 55296 ∨ 57343 < code ∧ code < 1114112 := by
    rw [isCode]
    exact char.valid
  -- The cases are the numbers of bytes.
  unfold String.utf8EncodeChar
  rw [← isCode, ← same]
  dsimp only
  split
  · exact feed_one_byte (by omega)
  · split
    · exact feed_two_bytes (by omega) (by omega)
    · split
      · exact feed_three_bytes (by omega) (by omega) (by omega)
      · exact feed_four_bytes (by omega) (by omega)

theorem feed_utf8Bytes (chars : List Char) (read : List (Option Char)) :
    (utf8Bytes chars).foldl feed ⟨read, none⟩ =
      ⟨(chars.map some).reverse ++ read, none⟩ := by
  induction chars generalizing read with
  | nil => rfl
  | cons char chars ih =>
      unfold utf8Bytes at ih ⊢
      rw [List.flatMap_cons, List.foldl_append, feed_utf8EncodeChar, ih]
      simp

end Text.Utf8State

/-- The bytes of a text are well formed and read as the text. -/
theorem decodeUtf8Lossy_utf8Bytes (chars : List Char) :
    decodeUtf8Lossy (utf8Bytes chars) = chars := by
  unfold decodeUtf8Lossy utf8Units
  rw [Utf8State.feed_utf8Bytes]
  simp [Utf8State.finish, Function.comp_def]

/-- A text that begins with an ASCII character begins with no byte order mark. -/
theorem dropByteOrderMark_utf8Bytes {first : Char} (ascii : first.toNat < 128)
    (rest : List Char) :
    dropByteOrderMark (utf8Bytes (first :: rest)) = utf8Bytes (first :: rest) := by
  have encoded : String.utf8EncodeChar first = [UInt8.ofNat first.toNat] := by
    unfold String.utf8EncodeChar
    have atMost : first.val.toNat ≤ 127 := by
      change first.toNat ≤ 127
      omega
    simp only [atMost, if_true]
    rfl
  have notMark : UInt8.ofNat first.toNat ≠ 0xEF := by
    intro equal
    have codes := congrArg UInt8.toNat equal
    rw [UInt8.toNat_ofNat'] at codes
    change first.toNat % 256 = 239 at codes
    omega
  unfold utf8Bytes
  rw [List.flatMap_cons, encoded]
  unfold dropByteOrderMark
  split
  · rename_i equal
    exact absurd (List.cons.inj equal).1 notMark
  · rfl

theorem bodyText_utf8Bytes {first : Char} (ascii : first.toNat < 128)
    (rest : List Char) :
    bodyText (utf8Bytes (first :: rest)) = .ofList (first :: rest) := by
  unfold bodyText
  rw [dropByteOrderMark_utf8Bytes ascii, decodeUtf8Lossy_utf8Bytes]

end ProbeLifecycle
