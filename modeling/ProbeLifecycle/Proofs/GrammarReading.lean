import ProbeLifecycle.Proofs.JsonGrammar
import ProbeLifecycle.Proofs.JsonText

/-!
# Reading spelled JSON

A text that spells a form is cut into the words of the form, whatever white space
stands between them, and is assembled into the node of the form.
-/

namespace ProbeLifecycle.Json

open Text

section Strings

variable {parts : StringForm} {rest : List Char}

@[simp]
theorem inside_nil : StringForm.inside [] rest = '"' :: rest :=
  rfl

@[simp]
theorem inside_cons (part : StringPart) :
    StringForm.inside (part :: parts) rest = part.text ++ StringForm.inside parts rest := by
  simp [StringForm.inside]

theorem takeCodeUnit_spelled {first second third fourth : Char}
    (hexadecimal : ∀ digit ∈ [first, second, third, fourth], (hexValue? digit).isSome) :
    ∃ value, ∀ rest, takeCodeUnit (first :: second :: third :: fourth :: rest) =
      .ok (value, rest) := by
  simp only [List.mem_cons, List.not_mem_nil, or_false, forall_eq_or_imp, forall_eq,
    Option.isSome_iff_exists] at hexadecimal
  obtain ⟨⟨a, isA⟩, ⟨b, isB⟩, ⟨c, isC⟩, ⟨d, isD⟩⟩ := hexadecimal
  refine ⟨((a * 16 + b) * 16 + c) * 16 + d, fun rest => ?_⟩
  simp only [takeCodeUnit, isA, isB, isC, isD]

theorem takeStringUnit_part (part : StringPart) :
    ∃ unit, unit ≠ .close ∧ ∀ rest, takeStringUnit (part.text ++ rest) = .ok (unit, rest) := by
  cases part with
  | plain char notMark notBackslash notControl =>
      refine ⟨.char char, by simp, fun rest => ?_⟩
      simp [StringPart.text, takeStringUnit, notMark, notBackslash, notControl]
  | escape letter known =>
      obtain ⟨char, escaped⟩ := Option.isSome_iff_exists.mp known
      have notCodeUnit : letter ≠ 'u' := by
        rintro rfl
        cases escaped
      refine ⟨.char char, by simp, fun rest => ?_⟩
      simp [StringPart.text, takeStringUnit, notCodeUnit, escaped]
  | codeUnit first second third fourth hexadecimal =>
      obtain ⟨value, taken⟩ := takeCodeUnit_spelled hexadecimal
      refine ⟨.codeUnit value, by simp, fun rest => ?_⟩
      simp [StringPart.text, takeStringUnit, taken]

theorem passString_inside (parts : StringForm) (rest : List Char) :
    passString (parts.inside rest) = .ok rest := by
  induction parts with
  | nil => exact passString_written [] rest
  | cons part parts ih =>
      obtain ⟨unit, notClose, taken⟩ := takeStringUnit_part part
      rw [inside_cons, passString_unit (taken _) notClose, ih]

/-- Whether the second half of a pair follows does not depend on what stands after the
closing mark. -/
theorem takeLowSurrogate_inside (parts : StringForm) :
    (∀ rest, takeLowSurrogate (parts.inside rest) = .error .malformed) ∨
      ∃ value after, after.length < parts.length ∧
        ∀ rest, takeLowSurrogate (parts.inside rest) =
          .ok (value, StringForm.inside after rest) := by
  cases parts with
  | nil => exact .inl fun rest => rfl
  | cons part parts =>
      cases part with
      | plain char notMark notBackslash notControl =>
          left
          intro rest
          simp only [inside_cons, StringPart.text, List.singleton_append]
          unfold takeLowSurrogate
          split <;> simp_all
      | escape letter known =>
          left
          intro rest
          have notCodeUnit : letter ≠ 'u' := by
            rintro rfl
            cases known
          simp only [inside_cons, StringPart.text, List.cons_append, List.nil_append]
          unfold takeLowSurrogate
          split <;> simp_all
      | codeUnit first second third fourth hexadecimal =>
          obtain ⟨value, taken⟩ := takeCodeUnit_spelled hexadecimal
          simp only [inside_cons, StringPart.text, List.cons_append, List.nil_append,
            takeLowSurrogate, taken]
          by_cases isLow : isLowSurrogate value = true
          · exact .inr ⟨value, parts, by simp, fun rest => by rw [if_pos isLow]⟩
          · exact .inl fun rest => by rw [if_neg isLow]

/-- The next character of a string does not depend on what stands after the closing
mark. -/
theorem takeStringChar_inside (part : StringPart) (parts : StringForm) :
    (∀ rest, takeStringChar (StringForm.inside (part :: parts) rest) =
        .error .malformed) ∨
      ∃ char after, after.length ≤ parts.length ∧
        ∀ rest, takeStringChar (StringForm.inside (part :: parts) rest) =
          .ok (some char, StringForm.inside after rest) := by
  obtain ⟨unit, notClose, taken⟩ := takeStringUnit_part part
  simp only [takeStringChar, inside_cons, taken]
  cases unit with
  | close => exact absurd rfl notClose
  | char char => exact .inr ⟨char, parts, Nat.le_refl _, fun rest => rfl⟩
  | codeUnit value =>
      dsimp only
      by_cases isLow : isLowSurrogate value = true
      · exact .inl fun rest => by rw [if_pos isLow]
      · simp only [if_neg isLow]
        by_cases isHigh : isHighSurrogate value = true
        · simp only [if_pos isHigh]
          rcases takeLowSurrogate_inside parts with none | ⟨low, after, shorter, low_taken⟩
          · exact .inl fun rest => by rw [none]
          · exact .inr ⟨_, after, Nat.le_of_lt shorter, fun rest => by rw [low_taken]⟩
        · exact .inr ⟨_, parts, Nat.le_refl _, fun rest => by rw [if_neg isHigh]⟩

theorem takeString_error {before text : List Char} {problem : Problem}
    (failed : takeStringChar text = .error problem) :
    takeString before text = .error problem := by
  rw [takeString]
  split
  · simp_all
  · simp_all
  · simp_all

theorem takeString_inside (before : List Char) (parts : StringForm) (rest : List Char) :
    takeString before (parts.inside rest) = takeString before (parts.inside []) := by
  -- A pair of code units is one character, so the rest is shorter by one part or two.
  induction length : parts.length using Nat.strongRecOn generalizing before parts with
  | _ size ih =>
      cases parts with
      | nil =>
          have closed := fun rest => takeString_written before [] rest
          exact (closed rest).trans (closed []).symm
      | cons part parts =>
          rcases takeStringChar_inside part parts with
            failed | ⟨char, after, shorter, taken⟩
          · rw [takeString_error (failed rest), takeString_error (failed [])]
          · rw [takeString_char (taken rest), takeString_char (taken [])]
            refine ih after.length ?_ _ after rfl
            rw [← length, List.length_cons]
            omega

theorem takeStringToken_inside (parts : StringForm) (rest : List Char) :
    takeStringToken (parts.inside rest) = (.string parts.lexeme, rest) := by
  rw [takeStringToken, passString_inside, takeString_inside]
  rfl

theorem hexadecimal_controlDigits {char : Char} (isControl : char.toNat < 32) :
    ∀ digit ∈ '0' :: '0' :: controlDigits char, (hexValue? digit).isSome := by
  have high := hexValue?_digitChar (show char.toNat / 16 < 16 by omega)
  have low := hexValue?_digitChar (show char.toNat % 16 < 16 by omega)
  have zero : hexValue? '0' = some 0 := rfl
  simp [controlDigits, high, low, zero]

def StringPart.ofChar (char : Char) : StringPart :=
  if isMark : char = '"' then .escape '"' rfl
  else if isBackslash : char = '\\' then .escape '\\' rfl
  else if isControl : char.toNat < 32 then
    .codeUnit '0' '0' (Nat.digitChar (char.toNat / 16)) (Nat.digitChar (char.toNat % 16))
      (hexadecimal_controlDigits isControl)
  else .plain char isMark isBackslash isControl

def StringForm.ofString (value : String) : StringForm :=
  value.toList.map StringPart.ofChar

theorem takeStringChar_ofChar (char : Char) (rest : List Char) :
    takeStringChar ((StringPart.ofChar char).text ++ rest) = .ok (some char, rest) := by
  unfold StringPart.ofChar
  split_ifs with isMark isBackslash isControl
  · subst isMark
    rfl
  · subst isBackslash
    rfl
  · obtain ⟨notLow, notHigh⟩ := control_notSurrogate isControl
    have taken := takeCodeUnit_controlDigits isControl rest
    simp only [controlDigits, List.cons_append, List.nil_append] at taken
    simp [StringPart.text, takeStringChar, takeStringUnit, taken, notLow, notHigh,
      Char.ofNat_toNat]
  · simp [StringPart.text, takeStringChar, takeStringUnit, isMark, isBackslash, isControl]

theorem takeString_ofChar (before chars : List Char) :
    takeString before (StringForm.inside (chars.map StringPart.ofChar) []) =
      .ok (.ofList (before.reverse ++ chars)) := by
  induction chars generalizing before with
  | nil =>
      rw [List.append_nil]
      exact (takeString_written before [] []).trans (by rw [List.append_nil])
  | cons char chars ih =>
      rw [List.map_cons, inside_cons, takeString_char (takeStringChar_ofChar char _), ih,
        List.reverse_cons, List.append_assoc, List.singleton_append]

theorem lexeme_ofString (value : String) :
    (StringForm.ofString value).lexeme = .ofValue value := by
  unfold StringForm.lexeme StringForm.ofString
  rw [takeString_ofChar]
  simp [Lexeme.ofValue]

end Strings

section Numbers

/-- No number goes on with this text. -/
def EndsNumber (rest : List Char) : Prop :=
  ∀ char ∈ rest.head?, char.isDigit = false ∧ char ≠ '.' ∧ char ≠ 'e' ∧ char ≠ 'E'

theorem takeDigits_append {digits rest : List Char} (areDigits : AreDigits digits)
    (ends : ∀ char ∈ rest.head?, char.isDigit = false) :
    takeDigits (digits ++ rest) = (digits, rest) := by
  have none_left : rest.takeWhile Char.isDigit = [] ∧ rest.dropWhile Char.isDigit = rest := by
    cases rest with
    | nil => exact ⟨rfl, rfl⟩
    | cons char rest =>
        have notDigit := ends char rfl
        simp [notDigit]
  rw [takeDigits, List.takeWhile_append_of_pos areDigits.2,
    List.dropWhile_append_of_pos areDigits.2, none_left.1, none_left.2, List.append_nil]

theorem takeExponent_text {exponent : ExponentForm} {rest : List Char}
    (ends : EndsNumber rest) :
    takeExponent (exponent.sign.toList ++ exponent.digits ++ rest) =
      ((exponent.sign == some '-', exponent.digits), rest) := by
  have taken := takeDigits_append exponent.areDigits fun char isHead => (ends char isHead).1
  obtain ⟨mark, sign, digits, isMark, isSign, areDigits⟩ := exponent
  cases sign with
  | some char =>
      rcases isSign char rfl with rfl | rfl
      · simp [takeExponent, taken]
      · simp [takeExponent, taken]
  | none =>
      obtain ⟨nonempty, isDigit⟩ := areDigits
      cases digits with
      | nil => exact absurd rfl nonempty
      | cons digit digits =>
          have digit_ne : ∀ char, char.isDigit = false → digit ≠ char := by
            rintro char notDigit rfl
            rw [isDigit digit List.mem_cons_self] at notDigit
            cases notDigit
          have notPlus := digit_ne '+' rfl
          have notMinus := digit_ne '-' rfl
          simp only [Option.toList_none, List.nil_append, List.cons_append] at taken ⊢
          unfold takeExponent
          split <;> simp_all

variable {form : NumberForm} {rest : List Char}

theorem withExponent_text (ends : EndsNumber rest) {numeral : Numeral}
    (unread : numeral.exponent = none) :
    numeral.withExponent (form.exponentText ++ rest) =
      ({ numeral with exponent := form.numeral.exponent }, rest) := by
  have whole : { numeral with exponent := none } = numeral := by
    cases numeral
    cases unread
    rfl
  cases isExponent : form.exponent with
  | none =>
      simp only [NumberForm.exponentText, NumberForm.numeral, isExponent, Option.map_none,
        whole, List.nil_append]
      cases rest with
      | nil => rfl
      | cons char rest =>
          obtain ⟨-, -, notSmall, notLarge⟩ := ends char rfl
          simp [Numeral.withExponent, notSmall, notLarge]
  | some exponent =>
      have taken := @takeExponent_text exponent rest ends
      simp only [NumberForm.exponentText, NumberForm.numeral, isExponent, Option.map_some,
        ExponentForm.text, List.cons_append, Numeral.withExponent, exponent.isMark, if_true,
        taken]

/-- What follows the digits of a number is no digit and, but for a fraction, no point. -/
theorem head_exponentText (ends : EndsNumber rest) :
    ∀ char ∈ (form.exponentText ++ rest).head?, char.isDigit = false ∧ char ≠ '.' := by
  intro char isHead
  unfold NumberForm.exponentText at isHead
  cases isExponent : form.exponent with
  | none =>
      rw [isExponent] at isHead
      obtain ⟨notDigit, notPoint, -⟩ := ends char isHead
      exact ⟨notDigit, notPoint⟩
  | some exponent =>
      simp only [isExponent, ExponentForm.text, List.cons_append, List.head?_cons,
        Option.mem_some_iff] at isHead
      subst isHead
      rcases exponent.isMark with isMark | isMark
      · rw [isMark]
        decide
      · rw [isMark]
        decide

theorem withFraction_text (ends : EndsNumber rest) {numeral : Numeral}
    (unread : numeral.fraction = none ∧ numeral.exponent = none) :
    numeral.withFraction (form.fractionText ++ (form.exponentText ++ rest)) =
      ({ numeral with
        fraction := form.fraction
        exponent := form.numeral.exponent }, rest) := by
  have head := @head_exponentText form rest ends
  cases isFraction : form.fraction with
  | some digits =>
      have areDigits := form.fractionDigits digits isFraction
      have taken := takeDigits_append areDigits fun char isHead => (head char isHead).1
      have nonempty : digits.isEmpty = false := by
        simpa using areDigits.1
      simp only [NumberForm.fractionText, isFraction, List.cons_append,
        Numeral.withFraction, taken, nonempty, Bool.false_eq_true, if_false]
      exact withExponent_text ends unread.2
  | none =>
      have read := @withExponent_text form rest ends numeral unread.2
      simp only [NumberForm.fractionText, isFraction, List.nil_append]
      obtain ⟨negative, integer, fraction, exponent⟩ := numeral
      obtain ⟨rfl, rfl⟩ := unread
      rw [← read]
      unfold Numeral.withFraction
      split
      · rename_i after equal
        rw [equal] at head
        exact absurd rfl (head '.' rfl).2
      · rfl

theorem takeUnsigned_text (ends : EndsNumber rest) (negative : Bool) :
    Numeral.takeUnsigned negative (form.unsignedText ++ rest) =
      ({ form.numeral with negative := negative }, rest) := by
  have notDigit : ∀ char ∈ (form.fractionText ++ (form.exponentText ++ rest)).head?,
      char.isDigit = false := by
    intro char isHead
    cases isFraction : form.fraction with
    | none =>
        simp only [NumberForm.fractionText, isFraction, List.nil_append] at isHead
        exact (head_exponentText ends char isHead).1
    | some digits =>
        simp only [NumberForm.fractionText, isFraction, List.cons_append, List.head?_cons,
          Option.mem_some_iff] at isHead
        subst isHead
        rfl
  have taken := takeDigits_append form.integerDigits notDigit
  have nonempty : form.integer.isEmpty = false := by
    simpa using form.integerDigits.1
  have read := @withFraction_text form rest ends ⟨negative, form.integer, none, none⟩
    ⟨rfl, rfl⟩
  simp only [NumberForm.unsignedText, List.append_assoc, Numeral.takeUnsigned, taken,
    nonempty, Bool.false_eq_true, if_false, read]
  rfl

theorem take_text (ends : EndsNumber rest) :
    Numeral.take (form.text ++ rest) = (form.numeral, rest) := by
  have unsigned := @takeUnsigned_text form rest ends
  cases isNegative : form.negative with
  | true =>
      have same : { form.numeral with negative := true } = form.numeral := by
        simp [NumberForm.numeral, isNegative]
      simp only [NumberForm.text, isNegative, if_true, List.cons_append, Numeral.take,
        unsigned, same]
  | false =>
      have same : { form.numeral with negative := false } = form.numeral := by
        simp [NumberForm.numeral, isNegative]
      have notMinus : ∀ after, form.unsignedText ++ rest ≠ '-' :: after := by
        obtain ⟨nonempty, areDigits⟩ := form.integerDigits
        obtain ⟨digit, digits, integer⟩ := List.exists_cons_of_ne_nil nonempty
        intro after equal
        have isDigit := areDigits digit (by simp [integer])
        simp only [NumberForm.unsignedText, integer, List.cons_append,
          List.cons.injEq] at equal
        rw [equal.1] at isDigit
        cases isDigit
      simp only [NumberForm.text, isNegative, Bool.false_eq_true, if_false]
      unfold Numeral.take
      split
      · rename_i after equal
        exact absurd equal (notMinus after)
      · rw [unsigned, same]

/-- A number is well formed, whatever follows it. -/
theorem lexeme_text (rest : List Char) :
    form.numeral.lexeme rest = form.lexeme ∧ form.lexeme.fault = none := by
  have noLeadingZero : form.numeral.hasLeadingZero = false := by
    by_cases isZero : form.integer.head? = some '0'
    · have alone := form.noLeadingZero isZero
      simp [Numeral.hasLeadingZero, NumberForm.numeral, alone]
    · simp [Numeral.hasLeadingZero, NumberForm.numeral, isZero]
  have hasInteger : form.integer.isEmpty = false := by
    simpa using form.integerDigits.1
  have hasFraction : form.fraction ≠ some [] :=
    fun isFraction => (form.fractionDigits [] isFraction).1 rfl
  have hasExponent : form.numeral.exponent.any (·.2.isEmpty) = false := by
    cases isExponent : form.exponent with
    | none => simp [NumberForm.numeral, isExponent]
    | some exponent =>
        simpa [NumberForm.numeral, isExponent] using exponent.areDigits.1
  have hasDigits : form.numeral.lacksDigits = false := by
    rw [Numeral.lacksDigits, hasExponent]
    simp [NumberForm.numeral, hasInteger, hasFraction]
  unfold NumberForm.lexeme Numeral.lexeme
  rw [noLeadingZero, hasDigits]
  simp only [Bool.false_eq_true, if_false, true_and]
  split
  · rfl
  · rfl

/-- A number is one token, unless it goes on. -/
theorem takeNumberToken_text (ends : EndsNumber rest) :
    takeNumberToken (form.text ++ rest) = (.number form.lexeme, rest) := by
  obtain ⟨sameLexeme, wellFormed⟩ := @lexeme_text form rest
  simp only [takeNumberToken, take_text ends, sameLexeme, wellFormed, Option.isSome_none,
    Bool.false_eq_true, if_false]

end Numbers

section Words

variable {words : List Word} {text : List Char}

theorem tokens_blanks {blanks : List Char}
    (areBlank : ∀ char ∈ blanks, isBlankChar char = true) (rest : List Char) :
    tokens (blanks ++ rest) = tokens rest := by
  induction blanks with
  | nil => rfl
  | cons char blanks ih =>
      obtain ⟨isBlank, areBlank⟩ := List.forall_mem_cons.mp areBlank
      rw [List.cons_append, tokens, tokensAfter, if_pos isBlank]
      exact ih areBlank

theorem tokens_nil : tokens [] = [] := by
  rw [tokens, tokensAfter]
  rfl

def StartsNumber (char : Char) : Prop :=
  char = '-' ∨ char.isDigit = true

theorem StartsNumber.ne {char other : Char} (starts : StartsNumber char)
    (notMinus : other ≠ '-') (notDigit : other.isDigit = false) : char ≠ other := by
  rintro rfl
  rcases starts with isMinus | isDigit
  · exact notMinus isMinus
  · rw [notDigit] at isDigit
    cases isDigit

theorem StartsNumber.takeToken_eq {char : Char} (starts : StartsNumber char)
    (rest : List Char) : takeToken char rest = takeNumberToken (char :: rest) := by
  have ne : ∀ other, other ≠ '-' → other.isDigit = false → char ≠ other :=
    fun _ => starts.ne
  have notToken : punctuation? char = none := by
    simp [punctuation?, ne]
  have notLiteral : literal? char = none := by
    simp [literal?, ne]
  have notString : char ≠ '"' := ne _ (by decide) rfl
  have begins : char = '-' ∨ char.isDigit = true := starts
  rw [takeToken, notToken, notLiteral]
  dsimp only
  rw [if_neg notString, if_pos begins]

theorem StartsNumber.isBlankChar_eq {char : Char} (starts : StartsNumber char) :
    isBlankChar char = false := by
  have ne : ∀ other, other ≠ '-' → other.isDigit = false → char ≠ other :=
    fun _ => starts.ne
  simp [isBlankChar, ne]

theorem exists_startsNumber (form : NumberForm) :
    ∃ char after, form.text = char :: after ∧ StartsNumber char := by
  obtain ⟨nonempty, areDigits⟩ := form.integerDigits
  obtain ⟨digit, digits, integer⟩ := List.exists_cons_of_ne_nil nonempty
  cases isNegative : form.negative with
  | true => exact ⟨'-', _, by rw [NumberForm.text, if_pos isNegative], .inl rfl⟩
  | false =>
      refine ⟨digit, digits ++ (form.fractionText ++ form.exponentText), ?_, .inr ?_⟩
      · simp [NumberForm.text, isNegative, NumberForm.unsignedText, integer]
      · exact areDigits digit (by simp [integer])

theorem tokens_number {form : NumberForm} {rest : List Char} (ends : EndsNumber rest) :
    tokens (form.text ++ rest) = .number form.lexeme :: tokens rest := by
  obtain ⟨char, after, begins, starts⟩ := exists_startsNumber form
  have token := @takeNumberToken_text form rest ends
  rw [begins, List.cons_append] at token ⊢
  rw [tokens_cons starts.isBlankChar_eq, starts.takeToken_eq, token]

theorem tokens_word {word : Word} {rest : List Char}
    (ends : word.isNumber = true → EndsNumber rest) :
    tokens (word.text ++ rest) = word.token :: tokens rest := by
  cases word with
  | openArray => exact tokens_punctuation rfl rfl rest
  | closeArray => exact tokens_punctuation rfl rfl rest
  | openObject => exact tokens_punctuation rfl rfl rest
  | closeObject => exact tokens_punctuation rfl rfl rest
  | comma => exact tokens_punctuation rfl rfl rest
  | colon => exact tokens_punctuation rfl rfl rest
  | null => exact tokens_literal rfl rfl rfl (fun _ => rfl) rest
  | bool value =>
      cases value with
      | true => exact tokens_literal rfl rfl rfl (fun _ => rfl) rest
      | false => exact tokens_literal rfl rfl rfl (fun _ => rfl) rest
  | number form => exact tokens_number (ends rfl)
  | string form =>
      have token : takeToken '"' (form.inside rest) = (.string form.lexeme, rest) :=
        takeStringToken_inside form rest
      have whole : Word.text (.string form) ++ rest = '"' :: form.inside rest := by
        simp [Word.text, StringForm.inside]
      rw [whole, tokens_cons rfl, token]
      rfl

theorem endsNumber_of_spaced (spaced : Spaced words text)
    (isMark : ∀ word ∈ words.head?, word.isMark = true) : EndsNumber text := by
  have blank_ends : ∀ char, isBlankChar char = true →
      char.isDigit = false ∧ char ≠ '.' ∧ char ≠ 'e' ∧ char ≠ 'E' := by
    intro char isBlank
    simp only [isBlankChar, Bool.or_eq_true, beq_iff_eq] at isBlank
    rcases isBlank with ((rfl | rfl) | rfl) | rfl <;> decide
  intro char isHead
  cases spaced with
  | finished areBlank => exact blank_ends char (areBlank char (List.mem_of_head? isHead))
  | @word blanks rest word words areBlank spaced =>
      cases blanks with
      | cons blank blanks =>
          obtain rfl : blank = char := by simpa using isHead
          exact blank_ends blank (areBlank blank List.mem_cons_self)
      | nil =>
          have isMark := isMark word rfl
          cases word <;> cases isMark <;>
            (obtain rfl := Option.some.inj isHead; decide)

/-- A text is cut into its words, whatever white space stands between them. -/
theorem tokens_spaced (spaced : Spaced words text) (separated : Separated words) :
    tokens text = words.map Word.token := by
  induction spaced with
  | finished areBlank =>
      have skipped := tokens_blanks areBlank []
      rw [List.append_nil, tokens_nil] at skipped
      exact skipped
  | word areBlank spaced ih =>
      obtain ⟨isMark, separated⟩ := List.isChain_cons.mp separated
      rw [tokens_blanks areBlank, tokens_word, ih separated, List.map_cons]
      intro isNumber
      exact endsNumber_of_spaced spaced fun next isNext => isMark next isNext isNumber

end Words

/-- Words are a value: where a value is awaited, or the first item of an array, they are
read as the node, whatever follows them. -/
structure ReadAs (words : List Word) (node : Node) : Prop where
  value : ∀ frames rest,
    Document.assemble (.reading frames .value) (words.map Word.token ++ rest) =
      .assemble (.settle node frames) rest
  firstItem : ∀ frames rest,
    Document.assemble (.reading frames .firstItem) (words.map Word.token ++ rest) =
      .assemble (.settle node (.array [] :: frames)) rest

section Containers

variable {items : List Form} {members : MemberForms}

theorem assemble_items (readAs : ∀ item ∈ items, ReadAs item.words item.node)
    (frames : List Frame) (before : List Node) (rest : List Token) :
    Document.assemble (.reading frames (.afterItem before))
        (((itemWords items).flatMap (.comma :: ·)).map Word.token ++
          .closeArray :: rest) =
      .assemble (.settle (.array (before.reverse ++ itemNodes items) .closed) frames)
        rest := by
  induction items generalizing before with
  | nil =>
      simp only [itemWords, itemNodes, List.flatMap_nil, List.map_nil, List.nil_append,
        List.append_nil]
      rfl
  | cons item items ih =>
      obtain ⟨readAsItem, readAsItems⟩ := List.forall_mem_cons.mp readAs
      simp only [itemWords, itemNodes, List.flatMap_cons, List.map_append, List.map_cons,
        List.cons_append, List.append_assoc]
      change Document.assemble (.reading (.array before :: frames) .value) _ = _
      rw [readAsItem.value]
      have read := ih readAsItems (item.node :: before)
      rw [List.reverse_cons, List.append_assoc] at read
      exact read

theorem assemble_array (readAs : ∀ item ∈ items, ReadAs item.words item.node)
    (frames : List Frame) (rest : List Token) :
    Document.assemble (.reading frames .firstItem)
        ((commaSeparated (itemWords items)).map Word.token ++ .closeArray :: rest) =
      .assemble (.settle (.array (itemNodes items) .closed) frames) rest := by
  cases items with
  | nil => rfl
  | cons item items =>
      obtain ⟨readAsItem, readAsItems⟩ := List.forall_mem_cons.mp readAs
      simp only [itemWords, itemNodes, commaSeparated, List.map_append, List.append_assoc]
      rw [readAsItem.firstItem]
      exact assemble_items readAsItems frames [item.node] rest

theorem assemble_value {value : Form} (readAs : ReadAs value.words value.node)
    (key : Lexeme String) (frames : List Frame) (before : Members) (rest : List Token) :
    Document.assemble (.reading frames (.colon before key))
        (.colon :: (value.words.map Word.token ++ rest)) =
      .assemble (.reading frames (.afterMember ((key, value.node) :: before))) rest :=
  readAs.value (.member before key :: frames) rest

theorem assemble_members (readAs : ∀ member ∈ members, ReadAs member.2.words member.2.node)
    (frames : List Frame) (before : Members) (rest : List Token) :
    Document.assemble (.reading frames (.afterMember before))
        (((memberWords members).flatMap (.comma :: ·)).map Word.token ++
          .closeObject :: rest) =
      .assemble
        (.settle (.object (before.reverse ++ formNodes members) .closed) frames) rest := by
  induction members generalizing before with
  | nil =>
      simp only [memberWords, formNodes, List.flatMap_nil, List.map_nil, List.nil_append,
        List.append_nil]
      rfl
  | cons member members ih =>
      obtain ⟨key, value⟩ := member
      obtain ⟨readAsValue, readAsMembers⟩ := List.forall_mem_cons.mp readAs
      simp only [memberWords, formNodes, List.flatMap_cons, List.map_append, List.map_cons,
        List.cons_append, List.append_assoc]
      change Document.assemble (.reading frames (.colon before key.lexeme)) _ = _
      refine (assemble_value readAsValue key.lexeme frames before _).trans ?_
      have read := ih readAsMembers ((key.lexeme, value.node) :: before)
      rw [List.reverse_cons, List.append_assoc] at read
      exact read

theorem assemble_object (readAs : ∀ member ∈ members, ReadAs member.2.words member.2.node)
    (frames : List Frame) (rest : List Token) :
    Document.assemble (.reading frames .firstKey)
        ((commaSeparated (memberWords members)).map Word.token ++ .closeObject :: rest) =
      .assemble (.settle (.object (formNodes members) .closed) frames) rest := by
  cases members with
  | nil => rfl
  | cons member members =>
      obtain ⟨key, value⟩ := member
      obtain ⟨readAsValue, readAsMembers⟩ := List.forall_mem_cons.mp readAs
      simp only [memberWords, formNodes, commaSeparated, List.map_append, List.map_cons,
        List.cons_append, List.append_assoc]
      change Document.assemble (.reading frames (.colon [] key.lexeme)) _ = _
      refine (assemble_value readAsValue key.lexeme frames [] _).trans ?_
      exact assemble_members readAsMembers frames [(key.lexeme, value.node)] rest

end Containers

theorem readAs_number (form : NumberForm) :
    ReadAs [.number form] (.number form.lexeme) := by
  have wellFormed : form.lexeme.fault = none := (lexeme_text []).2
  constructor
  · intro frames rest
    simp [Document.assemble, Word.token, Progress.step, Progress.beginValue, Progress.leaf,
      wellFormed]
  · intro frames rest
    simp [Document.assemble, Word.token, Progress.step, Progress.beginValue, Progress.leaf,
      wellFormed]

theorem readAs_array {items : List Form}
    (readAs : ∀ item ∈ items, ReadAs item.words item.node) :
    ReadAs (Form.array items).words (Form.array items).node := by
  have begins : ∀ rest, (Form.array items).words.map Word.token ++ rest =
      .openArray ::
        ((commaSeparated (itemWords items)).map Word.token ++ .closeArray :: rest) := by
    intro rest
    simp [Form.words, Word.token]
  constructor
  · intro frames rest
    rw [begins]
    exact assemble_array readAs frames rest
  · intro frames rest
    rw [begins]
    exact assemble_array readAs (.array [] :: frames) rest

theorem readAs_object {members : MemberForms}
    (readAs : ∀ member ∈ members, ReadAs member.2.words member.2.node) :
    ReadAs (Form.object members).words (Form.object members).node := by
  have begins : ∀ rest, (Form.object members).words.map Word.token ++ rest =
      .openObject ::
        ((commaSeparated (memberWords members)).map Word.token ++ .closeObject :: rest) := by
    intro rest
    simp [Form.words, Word.token]
  constructor
  · intro frames rest
    rw [begins]
    exact assemble_object readAs frames rest
  · intro frames rest
    rw [begins]
    exact assemble_object readAs (.array [] :: frames) rest

mutual

/-- The words of a form are read as its node. -/
theorem Form.readAs : (form : Form) → ReadAs form.words form.node
  | .null => ⟨fun _ _ => rfl, fun _ _ => rfl⟩
  | .bool _ => ⟨fun _ _ => rfl, fun _ _ => rfl⟩
  | .number form => readAs_number form
  | .string _ => ⟨fun _ _ => rfl, fun _ _ => rfl⟩
  | .array items => readAs_array (readAs_items items)
  | .object members => readAs_object (readAs_members members)

theorem readAs_items : (items : List Form) →
    ∀ item ∈ items, ReadAs item.words item.node
  | [] => by simp
  | item :: items => List.forall_mem_cons.mpr ⟨item.readAs, readAs_items items⟩

theorem readAs_members : (members : List (StringForm × Form)) →
    ∀ member ∈ members, ReadAs member.2.words member.2.node
  | [] => by simp
  | (_, value) :: members =>
      List.forall_mem_cons.mpr ⟨value.readAs, readAs_members members⟩

end

def Form.text (form : Form) : String :=
  .ofList (form.words.flatMap Word.text)

theorem Form.spells_text (form : Form) : form.Spells form.text := by
  have spaced : ∀ words : List Word, Spaced words (words.flatMap Word.text) := by
    intro words
    induction words with
    | nil => exact .finished (by simp)
    | cons word words ih => exact @Spaced.word [] _ word words (by simp) ih
  rw [Spells, text, String.toList_ofList]
  exact spaced form.words

section Texts

variable {form : Form} {text : String}

/-- A text that spells a form is read as its node, and nothing follows. -/
theorem Form.Spells.ofText (spells : form.Spells text) :
    Document.ofText text = ⟨form.node, false⟩ := by
  have read := form.readAs.value [] []
  rw [List.append_nil, ← tokens_spaced spells form.separated] at read
  exact read

/-- What a text that spells a form is decoded as depends on the form alone. -/
theorem Form.Spells.decode_eq {α : Type} (spells : form.Spells text)
    (read : Node → Except Problem α) :
    decode read text = read form.node := by
  unfold decode
  rw [spells.ofText]
  dsimp only
  cases read form.node with
  | error problem => rfl
  | ok value => rfl

end Texts

end ProbeLifecycle.Json
