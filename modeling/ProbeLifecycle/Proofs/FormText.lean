import ProbeLifecycle.Proofs.PercentText
import ProbeLifecycle.Text.Form

/-!
# Form-encoded text

What is written for a name or a value stands for it and holds no separator, whatever
characters it is made of.  So a pair that is added after an ampersand is read back as
it is, and the pairs before it stay what they were.
-/

namespace ProbeLifecycle.Text

section Parts

variable {chars : List Char} {char : Char}

/-- What a character of form-encoded text is before percent signs are read. -/
def withoutPlus (char : Char) : Char :=
  if char = '+' then ' ' else char

def isFormCharOrSpace (char : Char) : Bool :=
  char == ' ' || isFormChar char

/-- A plus sign is written for a space only, so spaces are what it is read as. -/
theorem map_withoutPlus_formEncodeChar (char : Char) :
    (formEncodeChar char).map withoutPlus =
      percentEncodeChar isFormCharOrSpace char := by
  by_cases isSpace : char = ' '
  · rw [isSpace]
    rfl
  · simp only [formEncodeChar, percentEncodeChar, isFormCharOrSpace, isSpace,
      beq_iff_eq, Bool.or_eq_true, false_or, if_false]
    split
    · rename_i kept
      have notPlus : char ≠ '+' := by
        rintro rfl
        exact absurd kept (by decide)
      simp [withoutPlus, notPlus]
    · refine (List.map_congr_left fun written member => ?_).trans (List.map_id _)
      obtain ⟨byte, -, inByte⟩ := List.mem_flatMap.mp member
      have notPlus : written ≠ '+' := by
        rintro rfl
        exact absurd (mem_percentByte inByte) (by decide)
      simp [withoutPlus, notPlus]

theorem map_withoutPlus_formEncode (chars : List Char) :
    (formEncode chars).map withoutPlus = percentEncode isFormCharOrSpace chars := by
  unfold formEncode percentEncode
  rw [List.map_flatMap]
  simp only [map_withoutPlus_formEncodeChar]

/-- A name or a value is read back as it was written. -/
@[simp]
theorem formDecode_formEncode (chars : List Char) :
    formDecode (formEncode chars) = chars := by
  change decodeUtf8Lossy (percentDecode ((formEncode chars).map withoutPlus)) = chars
  rw [map_withoutPlus_formEncode, percentDecode_percentEncode (by decide),
    decodeUtf8Lossy_utf8Bytes]

/-- A name or a value is written with characters that stand for themselves, plus
signs and escapes. -/
theorem mem_formEncode (member : char ∈ formEncode chars) :
    isFormChar char = true ∨ char ∈ '+' :: escapeChars := by
  obtain ⟨source, -, written⟩ := List.mem_flatMap.mp member
  unfold formEncodeChar percentEncodeChar at written
  split at written
  · rw [List.mem_singleton.mp written]
    exact .inr List.mem_cons_self
  · split at written
    · rename_i kept
      rw [List.mem_singleton.mp written]
      exact .inl kept
    · obtain ⟨byte, -, inByte⟩ := List.mem_flatMap.mp written
      exact .inr (List.mem_cons_of_mem _ (mem_percentByte inByte))

/-- No separator occurs in what is written for a name or a value. -/
theorem notMem_formEncode {separator : Char} (isSeparator : separator ∈ ['&', '=']) :
    separator ∉ formEncode chars := by
  have unwritten : ∀ separator ∈ ['&', '='], isFormChar separator = false ∧
      separator ∉ '+' :: escapeChars :=
    List.all_iff_forall_prop.mp (by decide)
  obtain ⟨notKept, notEscape⟩ := unwritten separator isSeparator
  intro member
  rcases mem_formEncode member with kept | escape
  · rw [notKept] at kept
    cases kept
  · exact notEscape escape

end Parts

section Pairs

variable (name value : String)

/-- The name of a pair ends at its first equals sign. -/
theorem readFormPair_formPair : readFormPair (formPair name value) = (name, value) := by
  have noEquals : ∀ char ∈ formEncode name.toList, (char != '=') = true := by
    intro char member
    rw [bne_iff_ne]
    rintro rfl
    exact notMem_formEncode (by decide) member
  unfold readFormPair formPair
  rw [List.takeWhile_append_of_pos noEquals, List.dropWhile_append_of_pos noEquals]
  simp

theorem decodeForm_formPair : decodeForm (formPair name value) = [(name, value)] := by
  have noAmpersand : '&' ∉ formPair name value := by
    intro member
    rcases List.mem_append.mp member with inName | inRest
    · exact notMem_formEncode (by decide) inName
    · rcases List.mem_cons.mp inRest with impossible | inValue
      · exact absurd impossible (by decide)
      · exact notMem_formEncode (by decide) inValue
  have notEmpty : (formPair name value).isEmpty = false := by simp [formPair]
  unfold decodeForm
  rw [List.splitOn_eq_singleton noAmpersand]
  simp [notEmpty, readFormPair_formPair]

@[simp]
theorem decodeForm_nil : decodeForm [] = [] := rfl

/-- What stands on the two sides of an ampersand is read on its own. -/
theorem decodeForm_append_ampersand (before after : List Char) :
    decodeForm (before ++ '&' :: after) = decodeForm before ++ decodeForm after := by
  unfold decodeForm
  rw [List.splitOn_append_cons_self, List.filter_append, List.map_append]

/-- Pairs are read back as they were written, in their order. -/
@[simp]
theorem decodeForm_encodeForm (pairs : FormPairs) :
    decodeForm (encodeForm pairs) = pairs := by
  induction pairs with
  | nil => rfl
  | cons pair pairs ih =>
      obtain ⟨name, value⟩ := pair
      cases pairs with
      | nil =>
          have one : encodeForm [(name, value)] = formPair name value := by
            simp [encodeForm]
          rw [one, decodeForm_formPair]
      | cons next pairs =>
          have cut : encodeForm ((name, value) :: next :: pairs) =
              formPair name value ++ '&' :: encodeForm (next :: pairs) := by
            simp [encodeForm]
          rw [cut, decodeForm_append_ampersand, decodeForm_formPair, ih]
          rfl

end Pairs

end ProbeLifecycle.Text
