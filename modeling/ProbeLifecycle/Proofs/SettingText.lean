import Mathlib.Data.Bool.AllAny
import Mathlib.Data.List.Induction
import ProbeLifecycle.Proofs.TrimmedText
import ProbeLifecycle.Settings

/-!
# Texts of numbers and flags

A setting is read from what is left of its text without the white space around it.  A
number is then written in decimal, with any number of zeros and at most one plus sign
before it, and a flag by its name.  These texts are accepted and no others, and each of
them gives the number or the flag that is written there.
-/

namespace ProbeLifecycle.Text

/-- A text with white space around it, if any. -/
def Padded (core text : String) : Prop :=
  ∃ before after, isBlank before = true ∧ isBlank after = true ∧
    text = before ++ core ++ after

/-- A number in decimal with zeros before it, perhaps after a plus sign. -/
def numeral (signed : Bool) (zeros number : Nat) : String :=
  (if signed then "+" else "") ++ .ofList (List.replicate zeros '0') ++ number.repr

def WritesNumber (number : Nat) (text : String) : Prop :=
  ∃ signed zeros, Padded (numeral signed zeros number) text

def flagName (flag : Bool) : String :=
  if flag then "true" else "false"

def WritesFlag (flag : Bool) (text : String) : Prop :=
  Padded (flagName flag) text

section Trimming

variable {core text : String}

/-- What is left of a text is what the white space has been put around. -/
theorem trim_eq_iff (bare : ∀ char ∈ core.toList, isWhiteSpace char = false) :
    trim text = core ↔ Padded core text := by
  constructor
  · rintro rfl
    obtain ⟨before, after, blankBefore, blankAfter, cut⟩ :=
      exists_stripEnds_padded isWhiteSpace text.toList
    refine ⟨.ofList before, .ofList after, ?_, ?_, ?_⟩
    · simpa [isBlank] using blankBefore
    · simpa [isBlank] using blankAfter
    · rw [← String.toList_inj, cut]
      simp [trim]
  · rintro ⟨before, after, blankBefore, blankAfter, rfl⟩
    have left : stripEnds isWhiteSpace (before.toList ++ (core.toList ++ after.toList)) =
        core.toList :=
      stripEnds_padded (List.all_eq_true.mp blankBefore) (List.all_eq_true.mp blankAfter)
        (fun first isFirst => bare first (List.mem_of_head? isFirst))
        (fun last isLast => bare last (List.mem_of_getLast? isLast))
    rw [← String.toList_inj, trim, String.toList_ofList, ← left]
    simp

end Trimming

section Digits

variable {digits : List Char} {number zeros : Nat}

theorem digitChar_digitValue {digit : Char} (isDigit : digit.isDigit = true) :
    digitValue digit < 10 ∧ (digitValue digit).digitChar = digit := by
  obtain ⟨lower, upper⟩ := toNat_of_isDigit isDigit
  have all : ∀ code < 58, 48 ≤ code →
      (code - '0'.toNat).digitChar = Char.ofNat code := by decide
  refine ⟨?_, ?_⟩
  · change digit.toNat - 48 < 10
    omega
  · rw [digitValue, all digit.toNat upper lower, Char.ofNat_toNat]

theorem digitsValue_concat (digits : List Char) (digit : Char) :
    digitsValue (digits ++ [digit]) = 10 * digitsValue digits + digitValue digit := by
  simp [digitsValue, List.foldl_append]

theorem digitsValue_zeros (zeros number : Nat) :
    digitsValue (List.replicate zeros '0' ++ Nat.toDigits 10 number) = number := by
  change Nat.ofDigitChars 10 _ 0 = number
  rw [Nat.ofDigitChars_append, Nat.ofDigitChars_replicate_zero, Nat.mul_zero,
    Nat.ofDigitChars_ten_toDigits]

/-- One more digit makes a number with as many zeros before it, or, after zeros only,
with one more of them. -/
theorem exists_zeros_concat (zeros number : Nat) {digit : Char}
    (isDigit : digit.isDigit = true) :
    ∃ more, List.replicate zeros '0' ++ Nat.toDigits 10 number ++ [digit] =
      List.replicate more '0' ++ Nat.toDigits 10 (10 * number + digitValue digit) := by
  obtain ⟨small, same⟩ := digitChar_digitValue isDigit
  have isLast : Nat.toDigits 10 (digitValue digit) = [digit] := by
    rw [Nat.toDigits_of_lt_base small, same]
  rcases Nat.eq_zero_or_pos number with rfl | positive
  · refine ⟨zeros + 1, ?_⟩
    rw [Nat.mul_zero, Nat.zero_add, isLast, List.replicate_succ']
    rfl
  · refine ⟨zeros, ?_⟩
    rw [← Nat.toDigits_append_toDigits (by decide) positive small, isLast,
      List.append_assoc]

theorem exists_zeros (notEmpty : digits ≠ []) (areDigits : digits.all Char.isDigit = true) :
    ∃ zeros, digits =
      List.replicate zeros '0' ++ Nat.toDigits 10 (digitsValue digits) := by
  induction digits using List.reverseRecOn with
  | nil => exact absurd rfl notEmpty
  | append_singleton digits digit ih =>
      rw [List.all_append, Bool.and_eq_true] at areDigits
      obtain ⟨areDigits, isLast⟩ := areDigits
      have isDigit : digit.isDigit = true := by simpa using isLast
      rw [digitsValue_concat]
      by_cases none : digits = []
      · obtain ⟨small, same⟩ := digitChar_digitValue isDigit
        refine ⟨0, ?_⟩
        rw [none]
        change [digit] = Nat.toDigits 10 (0 + digitValue digit)
        rw [Nat.zero_add, Nat.toDigits_of_lt_base small, same]
      · obtain ⟨zeros, written⟩ := ih none areDigits
        obtain ⟨more, joined⟩ := exists_zeros_concat zeros (digitsValue digits) isDigit
        exact ⟨more, by rw [← joined, ← written]⟩

theorem isDigit_of_mem_zeros {char : Char}
    (member : char ∈ List.replicate zeros '0' ++ Nat.toDigits 10 number) :
    char.isDigit = true := by
  rcases List.mem_append.mp member with isZero | isDigit
  · rw [List.eq_of_mem_replicate isZero]
    rfl
  · exact Nat.isDigit_of_mem_toDigits (by decide) (by decide) isDigit

end Digits

section Numbers

variable {largest number : Nat} {text : String}

theorem toList_numeral (signed : Bool) (zeros number : Nat) :
    (numeral signed zeros number).toList =
      (if signed then ['+'] else []) ++
        (List.replicate zeros '0' ++ Nat.toDigits 10 number) := by
  cases signed <;> simp [numeral, Nat.repr_eq_ofList_toDigits]

/-- What is read as a number is one in decimal, with a sign or without. -/
theorem decimal?_eq_some :
    decimal? largest text = some number ↔
      number ≤ largest ∧ ∃ signed zeros, text = numeral signed zeros number := by
  have readDigits : ∀ digits : List Char,
      (if !digits.isEmpty ∧ digits.all Char.isDigit ∧ digitsValue digits ≤ largest then
        some (digitsValue digits) else none) = some number ↔
      number ≤ largest ∧ ∃ zeros,
        digits = List.replicate zeros '0' ++ Nat.toDigits 10 number := by
    intro digits
    rw [Option.ite_none_right_eq_some]
    constructor
    · rintro ⟨⟨notEmpty, areDigits, isSmall⟩, same⟩
      obtain rfl := Option.some.inj same
      exact ⟨isSmall, exists_zeros (by simpa using notEmpty) areDigits⟩
    · rintro ⟨isSmall, zeros, rfl⟩
      rw [digitsValue_zeros]
      refine ⟨⟨by simp [Nat.toDigits_ne_nil], ?_, isSmall⟩, rfl⟩
      exact List.all_eq_true.mpr fun char => isDigit_of_mem_zeros
  have isWritten : ∀ signed zeros, text = numeral signed zeros number ↔
      text.toList = (if signed then ['+'] else []) ++
        (List.replicate zeros '0' ++ Nat.toDigits 10 number) := by
    intro signed zeros
    rw [← toList_numeral, String.toList_inj]
  simp only [isWritten, Bool.exists_bool]
  unfold decimal?
  dsimp only
  split
  · rename_i digits chars
    -- After a plus sign the digits follow; they do not begin with one.
    rw [readDigits, chars]
    constructor
    · rintro ⟨isSmall, zeros, same⟩
      exact ⟨isSmall, .inr ⟨zeros, by rw [same]; rfl⟩⟩
    · rintro ⟨isSmall, ⟨zeros, same⟩ | ⟨zeros, same⟩⟩
      · have isDigit : '+'.isDigit = true := by
          apply isDigit_of_mem_zeros
          simp only [Bool.false_eq_true, if_false, List.nil_append] at same
          rw [← same]
          exact List.mem_cons_self
        cases isDigit
      · exact ⟨isSmall, zeros, (List.cons.inj same).2⟩
  · rename_i unsigned
    rw [readDigits]
    constructor
    · rintro ⟨isSmall, zeros, same⟩
      exact ⟨isSmall, .inl ⟨zeros, same⟩⟩
    · rintro ⟨isSmall, ⟨zeros, same⟩ | ⟨zeros, same⟩⟩
      · exact ⟨isSmall, zeros, same⟩
      · exact absurd same (unsigned _)

/-- The number that a setting gives, if it is not too large, is the one that is written
in its text. -/
theorem decimal?_trim_eq_some :
    decimal? largest (trim text) = some number ↔
      number ≤ largest ∧ WritesNumber number text := by
  have bare : ∀ signed zeros, ∀ char ∈ (numeral signed zeros number).toList,
      isWhiteSpace char = false := by
    intro signed zeros char member
    have digitsBare : ∀ code < 58, 48 ≤ code →
        isWhiteSpace (Char.ofNat code) = false := by decide
    rw [toList_numeral, List.mem_append] at member
    rcases member with isSign | isDigit
    · cases signed with
      | false => cases isSign
      | true =>
          rw [List.mem_singleton.mp isSign]
          rfl
    · obtain ⟨lower, upper⟩ := toNat_of_isDigit (isDigit_of_mem_zeros isDigit)
      rw [← char.ofNat_toNat]
      exact digitsBare char.toNat upper lower
  unfold WritesNumber
  simp only [decimal?_eq_some, trim_eq_iff (bare _ _)]

end Numbers

theorem flag?_trim_eq_some {flag : Bool} {text : String} :
    Settings.flag? (trim text) = some flag ↔ WritesFlag flag text := by
  have bare : ∀ char ∈ (flagName flag).toList, isWhiteSpace char = false :=
    List.all_iff_forall_prop.mp (by cases flag <;> decide)
  unfold WritesFlag
  rw [← trim_eq_iff bare]
  unfold Settings.flag?
  by_cases isTrue : trim text = "true"
  · cases flag <;> simp [isTrue, flagName]
  · cases flag <;> simp [isTrue, flagName]

end ProbeLifecycle.Text
