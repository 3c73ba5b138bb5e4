import Mathlib.Data.List.TakeWhile
import ProbeLifecycle.Proofs.GrammarReading
import ProbeLifecycle.Proofs.RecordReading

/-!
# What is read is spelled

The grammar leaves out no text that is read.  A token without a fault is the text of a
word.  While a text is read, what has been read so far are the words of the containers
under way; so when it has been read to the end without a problem, these are the words of
a form.
-/

namespace ProbeLifecycle.Json

open Text

section Strings

variable {text rest : List Char}

theorem takeCodeUnit_eq_ok {value : Nat} (taken : takeCodeUnit text = .ok (value, rest)) :
    ∃ first second third fourth, text = first :: second :: third :: fourth :: rest ∧
      ∀ digit ∈ [first, second, third, fourth], (hexValue? digit).isSome := by
  unfold takeCodeUnit at taken
  split at taken
  · rename_i first second third fourth after
    split at taken
    · rename_i isFirst isSecond isThird isFourth
      cases taken
      refine ⟨first, second, third, fourth, rfl, ?_⟩
      simp [isFirst, isSecond, isThird, isFourth]
    · cases taken
  · cases taken

/-- A unit of a string is its closing mark or the text of a part. -/
theorem takeStringUnit_eq_ok {unit : StringUnit}
    (taken : takeStringUnit text = .ok (unit, rest)) :
    unit = .close ∧ text = '"' :: rest ∨
      unit ≠ .close ∧ ∃ part : StringPart, text = part.text ++ rest := by
  unfold takeStringUnit at taken
  split at taken
  · cases taken
  · rename_i char after
    split at taken
    · rename_i isMark
      cases taken
      exact .inl ⟨rfl, by rw [isMark]⟩
    · rename_i notMark
      right
      split at taken
      · rename_i isBackslash
        subst isBackslash
        split at taken
        · cases taken
        · rename_i letter after
          split at taken
          · rename_i isCodeUnit
            subst isCodeUnit
            split at taken
            · rename_i value after takenUnit
              cases taken
              obtain ⟨first, second, third, fourth, rfl, hexadecimal⟩ :=
                takeCodeUnit_eq_ok takenUnit
              exact ⟨by simp, .codeUnit first second third fourth hexadecimal, rfl⟩
            · cases taken
          · split at taken
            · rename_i escaped
              cases taken
              exact ⟨by simp, .escape letter (by rw [escaped]; rfl), rfl⟩
            · cases taken
      · rename_i notBackslash
        split at taken
        · cases taken
        · rename_i notControl
          cases taken
          exact ⟨by simp, .plain char notMark notBackslash notControl, rfl⟩

theorem passString_eq_ok (passed : passString text = .ok rest) :
    ∃ parts : StringForm, text = parts.inside rest := by
  fun_induction passString text with
  | case1 text problem taken => cases passed
  | case2 text after taken =>
      cases passed
      obtain ⟨-, rfl⟩ | ⟨notClose, -⟩ := takeStringUnit_eq_ok taken
      · exact ⟨[], rfl⟩
      · exact absurd rfl notClose
  | case3 text char after taken ih =>
      obtain ⟨isClose, -⟩ | ⟨-, part, rfl⟩ := takeStringUnit_eq_ok taken
      · cases isClose
      · obtain ⟨parts, rfl⟩ := ih passed
        exact ⟨part :: parts, (inside_cons part).symm⟩
  | case4 text value after taken ih =>
      obtain ⟨isClose, -⟩ | ⟨-, part, rfl⟩ := takeStringUnit_eq_ok taken
      · cases isClose
      · obtain ⟨parts, rfl⟩ := ih passed
        exact ⟨part :: parts, (inside_cons part).symm⟩

end Strings

section Numbers

variable {numeral : Numeral} {text : List Char}

theorem takeDigits_append_eq (text : List Char) :
    (takeDigits text).1 ++ (takeDigits text).2 = text :=
  List.takeWhile_append_dropWhile

theorem areDigits_takeDigits (some_taken : (takeDigits text).1.isEmpty = false) :
    AreDigits (takeDigits text).1 :=
  ⟨by simpa using some_taken, fun _ isTaken => List.mem_takeWhile_imp isTaken⟩

/-- An exponent is read after its mark if it has digits. -/
theorem exists_exponentForm {mark : Char} (isMark : mark = 'e' ∨ mark = 'E')
    (some_taken : (takeExponent text).1.2.isEmpty = false) :
    ∃ exponent : ExponentForm, mark :: text = exponent.text ++ (takeExponent text).2 ∧
      (exponent.sign == some '-', exponent.digits) = (takeExponent text).1 := by
  unfold takeExponent at some_taken ⊢
  split at some_taken
  · rename_i after
    refine ⟨⟨mark, some '+', _, isMark, by simp, areDigits_takeDigits some_taken⟩, ?_, rfl⟩
    simp [ExponentForm.text, takeDigits_append_eq]
  · rename_i after
    refine ⟨⟨mark, some '-', _, isMark, by simp, areDigits_takeDigits some_taken⟩, ?_, rfl⟩
    simp [ExponentForm.text, takeDigits_append_eq]
  · refine ⟨⟨mark, none, _, isMark, by simp, areDigits_takeDigits some_taken⟩, ?_, rfl⟩
    simp [ExponentForm.text, takeDigits_append_eq]

theorem withExponent_spelled (unread : numeral.exponent = none)
    (complete : (numeral.withExponent text).1.exponent.any (·.2.isEmpty) = false) :
    ∃ exponent : Option ExponentForm,
      text = exponent.elim [] ExponentForm.text ++ (numeral.withExponent text).2 ∧
        (numeral.withExponent text).1 = { numeral with
          exponent := exponent.map fun exponent =>
            (exponent.sign == some '-', exponent.digits) } := by
  have whole : { numeral with exponent := none } = numeral := by
    cases numeral
    cases unread
    rfl
  unfold Numeral.withExponent at complete ⊢
  split at complete
  · exact ⟨none, rfl, whole.symm⟩
  · rename_i char rest
    by_cases isMark : char = 'e' ∨ char = 'E'
    · rw [if_pos isMark] at complete ⊢
      obtain ⟨exponent, spelled, same⟩ := exists_exponentForm isMark complete
      exact ⟨some exponent, spelled, by rw [← same]; rfl⟩
    · rw [if_neg isMark] at complete ⊢
      exact ⟨none, rfl, whole.symm⟩

theorem lacksDigits_eq_false : numeral.lacksDigits = false ↔
    numeral.integer ≠ [] ∧ numeral.fraction ≠ some [] ∧
      numeral.exponent.any (·.2.isEmpty) = false := by
  simp [Numeral.lacksDigits, and_assoc]

theorem withFraction_spelled (unread : numeral.fraction = none ∧ numeral.exponent = none)
    (complete : (numeral.withFraction text).1.lacksDigits = false) :
    ∃ (fraction : Option (List Char)) (exponent : Option ExponentForm),
      (∀ digits ∈ fraction, AreDigits digits) ∧
        text = fraction.elim [] ('.' :: ·) ++
          (exponent.elim [] ExponentForm.text ++ (numeral.withFraction text).2) ∧
        (numeral.withFraction text).1 = { numeral with
          fraction := fraction
          exponent := exponent.map fun exponent =>
            (exponent.sign == some '-', exponent.digits) } := by
  obtain ⟨negative, integer, fraction, exponent⟩ := numeral
  obtain ⟨rfl, rfl⟩ := unread
  unfold Numeral.withFraction at complete ⊢
  split at complete
  · rename_i rest
    dsimp only at complete ⊢
    cases none_taken : (takeDigits rest).1.isEmpty with
    | true =>
        rw [none_taken, if_pos rfl, List.isEmpty_iff.mp none_taken] at complete
        exact absurd rfl (lacksDigits_eq_false.mp complete).2.1
    | false =>
        rw [none_taken, if_neg Bool.false_ne_true] at complete
        obtain ⟨-, -, complete⟩ := lacksDigits_eq_false.mp complete
        obtain ⟨exponent, spelled, same⟩ := withExponent_spelled rfl complete
        refine ⟨some (takeDigits rest).1, exponent, ?_, ?_, ?_⟩
        · rintro digits ⟨⟩
          exact areDigits_takeDigits none_taken
        · rw [if_neg Bool.false_ne_true, ← spelled]
          simp [takeDigits_append_eq]
        · rw [if_neg Bool.false_ne_true, same]
  · rename_i notPoint
    obtain ⟨-, -, complete⟩ := lacksDigits_eq_false.mp complete
    obtain ⟨exponent, spelled, same⟩ := withExponent_spelled rfl complete
    exact ⟨none, exponent, by simp, spelled, same⟩

theorem takeUnsigned_spelled {negative : Bool}
    (complete : (Numeral.takeUnsigned negative text).1.lacksDigits = false)
    (noLeadingZero : (Numeral.takeUnsigned negative text).1.hasLeadingZero = false) :
    ∃ form : NumberForm, form.negative = negative ∧
      form.numeral = (Numeral.takeUnsigned negative text).1 ∧
      text = form.unsignedText ++ (Numeral.takeUnsigned negative text).2 := by
  unfold Numeral.takeUnsigned at complete noLeadingZero ⊢
  dsimp only at complete noLeadingZero ⊢
  cases none_taken : (takeDigits text).1.isEmpty with
  | true =>
      rw [none_taken, if_pos rfl, List.isEmpty_iff.mp none_taken] at complete
      exact absurd rfl (lacksDigits_eq_false.mp complete).1
  | false =>
      rw [none_taken, if_neg Bool.false_ne_true] at complete noLeadingZero
      obtain ⟨fraction, exponent, fractionDigits, spelled, same⟩ :=
        withFraction_spelled ⟨rfl, rfl⟩ complete
      rw [same] at noLeadingZero
      have alone : (takeDigits text).1.head? = some '0' → (takeDigits text).1.length = 1 := by
        intro isZero
        have nonempty : (takeDigits text).1 ≠ [] := by simpa using none_taken
        have := List.length_pos_iff.mpr nonempty
        simp [Numeral.hasLeadingZero, isZero] at noLeadingZero
        omega
      refine ⟨⟨negative, (takeDigits text).1, fraction, exponent,
        areDigits_takeDigits none_taken, alone, fractionDigits⟩, rfl, ?_, ?_⟩
      · rw [if_neg Bool.false_ne_true, same]
        rfl
      · have rest := congrArg ((takeDigits text).1 ++ ·) spelled
        rw [takeDigits_append_eq] at rest
        rw [if_neg Bool.false_ne_true]
        refine rest.trans ?_
        cases fraction <;> cases exponent <;>
          simp [NumberForm.unsignedText, NumberForm.fractionText, NumberForm.exponentText]

theorem take_eq (text : List Char) :
    (∃ rest, text = '-' :: rest ∧ Numeral.take text = Numeral.takeUnsigned true rest) ∨
      Numeral.take text = Numeral.takeUnsigned false text := by
  unfold Numeral.take
  split
  · exact .inl ⟨_, rfl, rfl⟩
  · exact .inr rfl

theorem exists_numberForm
    (faultless : ((Numeral.take text).1.lexeme (Numeral.take text).2).fault = none) :
    ∃ form : NumberForm, form.numeral = (Numeral.take text).1 ∧
      text = form.text ++ (Numeral.take text).2 := by
  have complete : (Numeral.take text).1.lacksDigits = false ∧
      (Numeral.take text).1.hasLeadingZero = false := by
    unfold Numeral.lexeme at faultless
    split at faultless
    · cases faultless
    · rename_i noLeadingZero
      split at faultless
      · cases faultless
      · rename_i hasDigits
        exact ⟨by simpa using hasDigits, by simpa using noLeadingZero⟩
  obtain ⟨complete, noLeadingZero⟩ := complete
  rcases take_eq text with ⟨rest, rfl, taken⟩ | taken
  · rw [taken] at complete noLeadingZero ⊢
    obtain ⟨form, isNegative, same, spelled⟩ := takeUnsigned_spelled complete noLeadingZero
    refine ⟨form, same, ?_⟩
    rw [NumberForm.text, if_pos isNegative, List.cons_append, ← spelled]
  · rw [taken] at complete noLeadingZero ⊢
    obtain ⟨form, isNegative, same, spelled⟩ := takeUnsigned_spelled complete noLeadingZero
    refine ⟨form, same, ?_⟩
    rw [NumberForm.text, isNegative, if_neg Bool.false_ne_true]
    exact spelled

end Numbers

section Words

variable {words : List Word} {text : List Char}

/-- A token that is read where a value is awaited. -/
def Token.IsSound : Token → Prop
  | .number lexeme => lexeme.fault = none
  | .string lexeme => lexeme.fault = none
  | .misspelt _ => False
  | _ => True

theorem spell_eq_ok {letters rest after : List Char}
    (spelt : spell letters rest = .ok after) : rest = letters ++ after := by
  fun_induction spell letters rest with
  | case1 rest =>
      cases spelt
      rfl
  | case2 => cases spelt
  | case3 letters char rest ih => rw [ih spelt, List.cons_append]
  | case4 => cases spelt

/-- The token at the start of a text, with what follows it, is a word. -/
def BeginsWithWord (text : List Char) (taken : Token × List Char) : Prop :=
  ∃ word : Word, word.token = taken.1 ∧ text = word.text ++ taken.2

theorem beginsWithWord_mark {char : Char} {token : Token} {rest : List Char}
    (isMark : punctuation? char = some token) :
    BeginsWithWord (char :: rest) (token, rest) := by
  unfold punctuation? at isMark
  split_ifs at isMark with first second third fourth fifth sixth
  · exact ⟨.openArray, Option.some.inj isMark, by rw [first]; rfl⟩
  · exact ⟨.closeArray, Option.some.inj isMark, by rw [second]; rfl⟩
  · exact ⟨.openObject, Option.some.inj isMark, by rw [third]; rfl⟩
  · exact ⟨.closeObject, Option.some.inj isMark, by rw [fourth]; rfl⟩
  · exact ⟨.comma, Option.some.inj isMark, by rw [fifth]; rfl⟩
  · exact ⟨.colon, Option.some.inj isMark, by rw [sixth]; rfl⟩

theorem beginsWithWord_literal {char : Char} {token : Token} {letters rest : List Char}
    (isLiteral : literal? char = some (token, letters))
    (sound : (takeLiteral token letters rest).1.IsSound) :
    BeginsWithWord (char :: rest) (takeLiteral token letters rest) := by
  have whole : ∃ word : Word, word.token = token ∧ word.text = char :: letters := by
    unfold literal? at isLiteral
    split_ifs at isLiteral with isNull isTrue isFalse
    · cases isLiteral
      exact ⟨.null, rfl, by rw [isNull]; rfl⟩
    · cases isLiteral
      exact ⟨.bool true, rfl, by rw [isTrue]; rfl⟩
    · cases isLiteral
      exact ⟨.bool false, rfl, by rw [isFalse]; rfl⟩
  obtain ⟨word, sameToken, sameText⟩ := whole
  unfold takeLiteral at sound ⊢
  cases spelt : spell letters rest with
  | error problem =>
      rw [spelt] at sound
      exact sound.elim
  | ok after => exact ⟨word, sameToken, by rw [sameText, spell_eq_ok spelt]; rfl⟩

theorem beginsWithWord_string {rest : List Char}
    (sound : (takeStringToken rest).1.IsSound) :
    BeginsWithWord ('"' :: rest) (takeStringToken rest) := by
  cases passed : passString rest with
  | error problem =>
      rw [takeStringToken, passed] at sound
      cases sound
  | ok after =>
      obtain ⟨parts, rfl⟩ := passString_eq_ok passed
      rw [takeStringToken_inside]
      exact ⟨.string parts, rfl, by simp [Word.text, StringForm.inside]⟩

theorem beginsWithWord_number (sound : (takeNumberToken text).1.IsSound) :
    BeginsWithWord text (takeNumberToken text) := by
  have faultless :
      ((Numeral.take text).1.lexeme (Numeral.take text).2).fault = none := sound
  obtain ⟨form, sameNumeral, spelled⟩ := exists_numberForm faultless
  refine ⟨.number form, ?_, ?_⟩
  · simp only [takeNumberToken, ← sameNumeral, (lexeme_text _).1]
    rfl
  · simp only [takeNumberToken, faultless]
    exact spelled

theorem beginsWithWord {char : Char} {rest : List Char}
    (sound : (takeToken char rest).1.IsSound) :
    BeginsWithWord (char :: rest) (takeToken char rest) := by
  unfold takeToken at sound ⊢
  cases isMark : punctuation? char with
  | some token => exact beginsWithWord_mark isMark
  | none =>
      cases isLiteral : literal? char with
      | some literal =>
          rw [isMark, isLiteral] at sound
          exact beginsWithWord_literal isLiteral sound
      | none =>
          rw [isMark, isLiteral] at sound
          dsimp only at sound ⊢
          split_ifs at sound ⊢ with isQuote isNumber
          · subst isQuote
            exact beginsWithWord_string sound
          · exact beginsWithWord_number sound
          · exact sound.elim

theorem Spaced.blank {char : Char} (isBlank : isBlankChar char = true)
    (spaced : Spaced words text) : Spaced words (char :: text) := by
  cases spaced with
  | finished areBlank => exact .finished (List.forall_mem_cons.mpr ⟨isBlank, areBlank⟩)
  | word areBlank spaced =>
      exact .word (List.forall_mem_cons.mpr ⟨isBlank, areBlank⟩) spaced

/-- A text consists of words, unless a token with a fault follows them. -/
theorem exists_words (text : List Char) :
    ∃ words later, tokens text = words.map Word.token ++ later ∧
      (later = [] → Spaced words text) ∧ ∀ token ∈ later.head?, ¬ token.IsSound := by
  -- Every token takes one character at least.
  induction length : text.length using Nat.strongRecOn generalizing text with
  | _ size ih =>
      cases text with
      | nil => exact ⟨[], [], tokens_nil, fun _ => .finished (by simp), by simp⟩
      | cons char rest =>
          rw [List.length_cons] at length
          cases isBlank : isBlankChar char with
          | true =>
              have skipped : tokens (char :: rest) = tokens rest :=
                @tokens_blanks [char] (by simpa using isBlank) rest
              obtain ⟨words, later, sameTokens, spaced, unsound⟩ := ih _ (by omega) rest rfl
              rw [skipped]
              exact ⟨words, later, sameTokens, fun atEnd => (spaced atEnd).blank isBlank,
                unsound⟩
          | false =>
              rw [tokens_cons isBlank]
              by_cases sound : (takeToken char rest).1.IsSound
              · have shorter := takeToken_length char rest
                obtain ⟨word, sameToken, spelled⟩ := beginsWithWord sound
                obtain ⟨words, later, sameTokens, spaced, unsound⟩ :=
                  ih _ (by omega) (takeToken char rest).2 rfl
                refine ⟨word :: words, later, ?_, fun atEnd => ?_, unsound⟩
                · rw [sameTokens, List.map_cons, sameToken, List.cons_append]
                · rw [spelled]
                  exact @Spaced.word [] _ _ _ (by simp) (spaced atEnd)
              · refine ⟨[], _, rfl, by simp, ?_⟩
                rintro token ⟨⟩
                exact sound

end Words

section Refusals

variable {token : Token} {node : Node} {problem : Problem}

/-- Reading has stopped at a problem. -/
inductive Refused : Progress → Prop where
  | stopped {root : Node} {problem : Problem} (refused : root.pass = .error problem) :
      Refused (.stopped root)

theorem pass_unwind (refused : node.pass = .error problem) (frames : List Frame) :
    (node.unwind problem frames).pass = .error problem := by
  induction frames generalizing node with
  | nil => exact refused
  | cons frame frames ih =>
      cases frame with
      | array items => exact ih rfl
      | member members key => exact ih rfl

theorem pass_withoutValue (problem : Problem) (frames : List Frame) :
    (Node.withoutValue problem frames).pass = .error problem := by
  cases frames with
  | nil => rfl
  | cons frame frames =>
      cases frame with
      | array items => exact pass_unwind rfl frames
      | member members key => exact pass_unwind rfl frames

/-- What has not been read to its end is not passed over. -/
theorem pass_stop (awaiting : Awaiting) (frames : List Frame) (problem : Problem) :
    (awaiting.stop frames problem).pass = .error problem := by
  cases awaiting with
  | value => exact pass_withoutValue problem frames
  | firstItem => exact pass_withoutValue problem (.array [] :: frames)
  | colon members key => exact pass_withoutValue problem (.member members key :: frames)
  | _ => exact pass_unwind rfl frames

theorem refused_stop (awaiting : Awaiting) (frames : List Frame) :
    Refused (.stopped (awaiting.stop frames .malformed)) :=
  .stopped (pass_stop awaiting frames .malformed)

theorem refused_beginValue (unsound : ¬ token.IsSound) (frames : List Frame) :
    Refused (.beginValue frames token) := by
  cases token with
  | number lexeme =>
      obtain ⟨problem, faulty⟩ := Option.ne_none_iff_exists'.mp unsound
      rw [Progress.beginValue, faulty]
      exact .stopped (pass_unwind (by simp [Node.pass, faulty]) frames)
  | string lexeme =>
      obtain ⟨problem, faulty⟩ := Option.ne_none_iff_exists'.mp unsound
      rw [Progress.beginValue, faulty]
      exact .stopped (pass_unwind (by simp [Node.pass, faulty]) frames)
  | misspelt problem => exact .stopped (pass_unwind rfl frames)
  | _ => exact absurd trivial unsound

theorem refused_beginMember {key : Lexeme String}
    (unsound : ¬ (Token.string key).IsSound) (frames : List Frame) (before : Members) :
    Refused (.beginMember frames before key) := by
  obtain ⟨problem, faulty⟩ := Option.ne_none_iff_exists'.mp unsound
  rw [Progress.beginMember, faulty]
  exact .stopped (pass_withoutValue problem _)

theorem refused_step (unsound : ¬ token.IsSound) (frames : List Frame)
    (awaiting : Awaiting) : Refused (.step frames awaiting token) := by
  -- Marks have no faults, so a container neither goes on nor ends here.
  have notMark : ∀ {mark : Token}, mark.IsSound → token ≠ mark := by
    rintro mark sound rfl
    exact unsound sound
  cases awaiting with
  | value => exact refused_beginValue unsound frames
  | firstItem =>
      cases token with
      | closeArray => exact absurd rfl (notMark trivial)
      | _ => exact refused_beginValue unsound (.array [] :: frames)
  | afterItem items =>
      cases token with
      | comma => exact absurd rfl (notMark trivial)
      | closeArray => exact absurd rfl (notMark trivial)
      | _ => exact refused_stop (.afterItem items) frames
  | firstKey =>
      cases token with
      | string key => exact refused_beginMember unsound frames []
      | closeObject => exact absurd rfl (notMark trivial)
      | _ => exact refused_stop .firstKey frames
  | nextKey before =>
      cases token with
      | string key => exact refused_beginMember unsound frames before
      | _ => exact refused_stop (.nextKey before) frames
  | colon before key =>
      cases token with
      | colon => exact absurd rfl (notMark trivial)
      | _ => exact refused_stop (.colon before key) frames
  | afterMember before =>
      cases token with
      | comma => exact absurd rfl (notMark trivial)
      | closeObject => exact absurd rfl (notMark trivial)
      | _ => exact refused_stop (.afterMember before) frames

end Refusals

section Reading

variable {word : Word} {words outer : List Word} {frames : List Frame}
  {awaiting : Awaiting}

def commaTerminated (parts : List (List Word)) : List Word :=
  parts.flatMap (· ++ [.comma])

/-- The words of a container under way, up to the value awaited in it. -/
inductive FrameWords : Frame → List Word → Prop where
  | array (items : List Form) :
      FrameWords (.array (itemNodes items).reverse)
        (.openArray :: commaTerminated (itemWords items))
  | member (members : MemberForms) (key : StringForm) :
      FrameWords (.member (formNodes members).reverse key.lexeme)
        (.openObject :: (commaTerminated (memberWords members) ++ [.string key, .colon]))

/-- The words of the containers under way, outermost first. -/
inductive FramesWords : List Frame → List Word → Prop where
  | nil : FramesWords [] []
  | cons {frame : Frame} {frames : List Frame} {words outer : List Word}
      (first : FrameWords frame words) (rest : FramesWords frames outer) :
      FramesWords (frame :: frames) (outer ++ words)

/-- The words of the innermost container, up to the token that is awaited. -/
inductive AwaitingWords : Awaiting → List Word → Prop where
  | value : AwaitingWords .value []
  | firstItem : AwaitingWords .firstItem [.openArray]
  | afterItem (items : List Form) (item : Form) :
      AwaitingWords (.afterItem (item.node :: (itemNodes items).reverse))
        (.openArray :: (commaTerminated (itemWords items) ++ item.words))
  | firstKey : AwaitingWords .firstKey [.openObject]
  | nextKey (members : MemberForms) :
      AwaitingWords (.nextKey (formNodes members).reverse)
        (.openObject :: commaTerminated (memberWords members))
  | colon (members : MemberForms) (key : StringForm) :
      AwaitingWords (.colon (formNodes members).reverse key.lexeme)
        (.openObject :: (commaTerminated (memberWords members) ++ [.string key]))
  | afterMember (members : MemberForms) (key : StringForm) (value : Form) :
      AwaitingWords
        (.afterMember ((key.lexeme, value.node) :: (formNodes members).reverse))
        (.openObject :: (commaTerminated (memberWords members) ++
          .string key :: .colon :: value.words))

/-- How far a text has been read after some of its words. -/
inductive ProgressWords : Progress → List Word → Prop where
  | reading {frames : List Frame} {awaiting : Awaiting} {outer words : List Word}
      (framesWords : FramesWords frames outer)
      (awaitingWords : AwaitingWords awaiting words) :
      ProgressWords (.reading frames awaiting) (outer ++ words)
  | complete (form : Form) : ProgressWords (.complete form.node) form.words
  | refused {progress : Progress} {words : List Word} (refused : Refused progress) :
      ProgressWords progress words

theorem commaTerminated_append_singleton (parts : List (List Word)) (last : List Word) :
    commaTerminated (parts ++ [last]) = commaTerminated parts ++ (last ++ [.comma]) := by
  simp [commaTerminated]

theorem commaSeparated_append_singleton (parts : List (List Word)) (last : List Word) :
    commaSeparated (parts ++ [last]) = commaTerminated parts ++ last := by
  have later : ∀ parts : List (List Word),
      (parts ++ [last]).flatMap (.comma :: ·) = .comma :: (commaTerminated parts ++ last) := by
    intro parts
    induction parts with
    | nil => simp [commaTerminated]
    | cons part parts ih =>
        rw [List.cons_append, List.flatMap_cons, ih]
        simp [commaTerminated]
  cases parts with
  | nil => simp [commaTerminated, commaSeparated]
  | cons part parts =>
      rw [List.cons_append, commaSeparated, later]
      simp [commaTerminated]

section LastOne

variable (items : List Form) (item : Form) (members : MemberForms) (key : StringForm)
  (value : Form)

theorem itemWords_append_singleton :
    itemWords (items ++ [item]) = itemWords items ++ [item.words] := by
  simp [itemWords_eq]

theorem itemNodes_append_singleton :
    itemNodes (items ++ [item]) = itemNodes items ++ [item.node] := by
  simp [itemNodes_eq]

theorem memberWords_append_singleton :
    memberWords (members ++ [(key, value)]) =
      memberWords members ++ [.string key :: .colon :: value.words] := by
  simp [memberWords_eq]

theorem formNodes_append_singleton :
    formNodes (members ++ [(key, value)]) =
      formNodes members ++ [(key.lexeme, value.node)] := by
  simp [formNodes_eq]

end LastOne

/-- A value that is complete is put into the container around it. -/
theorem progressWords_settle (framesWords : FramesWords frames outer) (form : Form) :
    ProgressWords (.settle form.node frames) (outer ++ form.words) := by
  cases framesWords with
  | nil => exact .complete form
  | cons first rest =>
      cases first with
      | array items =>
          rw [List.append_assoc]
          exact .reading rest (.afterItem items form)
      | member members key =>
          rw [List.append_assoc, List.cons_append, List.append_assoc]
          exact .reading rest (.afterMember members key form)

theorem progressWords_beginValue (framesWords : FramesWords frames outer) (word : Word) :
    ProgressWords (.beginValue frames word.token) (outer ++ [word]) := by
  cases word with
  | openArray => exact .reading framesWords .firstItem
  | openObject => exact .reading framesWords .firstKey
  | null => exact progressWords_settle framesWords .null
  | bool value => exact progressWords_settle framesWords (.bool value)
  | number form =>
      have wellFormed : form.lexeme.fault = none := (lexeme_text []).2
      rw [Word.token, Progress.beginValue, wellFormed]
      exact progressWords_settle framesWords (.number form)
  | string form => exact progressWords_settle framesWords (.string form)
  | _ => exact .refused (refused_stop .value frames)

/-- One word is read. -/
theorem ProgressWords.step (read : ProgressWords (.reading frames awaiting) words)
    (word : Word) : ProgressWords (.step frames awaiting word.token) (words ++ [word]) := by
  cases read with
  | refused refused => cases refused
  | @reading _ _ outer inner framesWords awaitingWords =>
      cases awaitingWords with
      | value =>
          rw [List.append_nil]
          exact progressWords_beginValue framesWords word
      | firstItem =>
          have begins := progressWords_beginValue
            (.cons (.array []) framesWords : FramesWords (.array [] :: frames) _) word
          cases word with
          | closeArray =>
              rw [List.append_assoc]
              exact progressWords_settle framesWords (.array [])
          | _ => exact begins
      | afterItem items item =>
          rw [List.append_assoc, List.cons_append, List.append_assoc]
          cases word with
          | comma =>
              have frame := FrameWords.array (items ++ [item])
              rw [itemNodes_append_singleton, List.reverse_append, itemWords_append_singleton,
                commaTerminated_append_singleton] at frame
              have inside := ProgressWords.reading (.cons frame framesWords) .value
              rw [List.append_nil] at inside
              exact inside
          | closeArray =>
              have settled := progressWords_settle framesWords (.array (items ++ [item]))
              rw [Form.node, itemNodes_append_singleton, Form.words,
                itemWords_append_singleton, commaSeparated_append_singleton,
                List.append_assoc] at settled
              simpa [Progress.step, Word.token] using settled
          | _ => exact .refused (refused_stop (.afterItem _) frames)
      | firstKey =>
          rw [List.append_assoc]
          cases word with
          | string key => exact .reading framesWords (.colon [] key)
          | closeObject => exact progressWords_settle framesWords (.object [])
          | _ => exact .refused (refused_stop .firstKey frames)
      | nextKey members =>
          rw [List.append_assoc]
          cases word with
          | string key => exact .reading framesWords (.colon members key)
          | _ => exact .refused (refused_stop (.nextKey _) frames)
      | colon members key =>
          cases word with
          | colon =>
              have inside := ProgressWords.reading
                (.cons (.member members key) framesWords) .value
              rw [List.append_nil] at inside
              rw [List.append_assoc, List.cons_append, List.append_assoc]
              exact inside
          | _ => exact .refused (refused_stop (.colon _ _) frames)
      | afterMember members key value =>
          rw [List.append_assoc, List.cons_append, List.append_assoc]
          cases word with
          | comma =>
              have goesOn := AwaitingWords.nextKey (members ++ [(key, value)])
              rw [formNodes_append_singleton, List.reverse_append,
                memberWords_append_singleton, commaTerminated_append_singleton] at goesOn
              exact .reading framesWords goesOn
          | closeObject =>
              have settled := progressWords_settle framesWords
                (.object (members ++ [(key, value)]))
              rw [Form.node, formNodes_append_singleton, Form.words,
                memberWords_append_singleton, commaSeparated_append_singleton,
                List.append_assoc] at settled
              simpa [Progress.step, Word.token] using settled
          | _ => exact .refused (refused_stop (.afterMember _) frames)

/-- What is read to its end without a problem is read as a form. -/
theorem ProgressWords.assemble {progress : Progress} {before : List Word}
    (read : ProgressWords progress before) {words : List Word} {later : List Token}
    (unsound : ∀ token ∈ later.head?, ¬ token.IsSound)
    (passes :
      (Document.assemble progress (words.map Word.token ++ later)).root.pass = .ok ())
    (whole : (Document.assemble progress (words.map Word.token ++ later)).trailing = false) :
    later = [] ∧ ∃ form : Form, form.words = before ++ words ∧
      form.node = (Document.assemble progress (words.map Word.token ++ later)).root := by
  induction words generalizing progress before with
  | nil =>
      cases read with
      | @reading frames awaiting outer inner framesWords awaitingWords =>
          cases later with
          | nil => cases (pass_stop awaiting frames .unfinished).symm.trans passes
          | cons token later =>
              have refused := refused_step (unsound token rfl) frames awaiting
              rw [List.map_nil, List.nil_append, Document.assemble] at passes
              generalize Progress.step frames awaiting token = progress at refused passes
              obtain ⟨refused⟩ := refused
              simp [Document.assemble, refused] at passes
      | complete form =>
          cases later with
          | nil => exact ⟨rfl, form, (List.append_nil _).symm, rfl⟩
          | cons token later => cases whole
      | refused refused =>
          obtain ⟨refused⟩ := refused
          simp [Document.assemble, refused] at passes
  | cons word words ih =>
      cases read with
      | @reading frames awaiting outer inner framesWords awaitingWords =>
          have read := (ProgressWords.reading framesWords awaitingWords).step word
          obtain ⟨atEnd, form, sameWords, sameNode⟩ := ih read passes whole
          rw [List.append_assoc] at sameWords
          exact ⟨atEnd, form, sameWords, sameNode⟩
      | complete form => cases whole
      | refused refused =>
          obtain ⟨refused⟩ := refused
          simp [Document.assemble, refused] at passes

end Reading

section Texts

variable {text : String}

/-- A text of one value that can be passed over is spelled by a form. -/
theorem exists_spells (passes : (Document.ofText text).root.pass = .ok ())
    (whole : (Document.ofText text).trailing = false) :
    ∃ form : Form, form.Spells text ∧ form.node = (Document.ofText text).root := by
  obtain ⟨words, later, sameTokens, spaced, unsound⟩ := exists_words text.toList
  have read : ProgressWords (.reading [] .value) [] := .reading .nil .value
  simp only [Document.ofText, sameTokens] at passes whole ⊢
  obtain ⟨atEnd, form, sameWords, sameNode⟩ := read.assemble unsound passes whole
  refine ⟨form, ?_, sameNode⟩
  rw [Form.Spells, sameWords]
  exact spaced atEnd

def IsObjectText (text : String) : Prop :=
  ∃ blanks rest, (∀ char ∈ blanks, isBlankChar char = true) ∧
    text.toList = blanks ++ '\x7b' :: rest

theorem Form.Spells.exists_object {form : Form} (spells : form.Spells text)
    (isObject : IsObjectText text) : ∃ members, form = .object members := by
  obtain ⟨blanks, rest, areBlank, begins⟩ := isObject
  have sameTokens := tokens_spaced spells form.separated
  have brace : tokens ('\x7b' :: rest) = .openObject :: tokens rest :=
    tokens_punctuation rfl rfl rest
  rw [begins, tokens_blanks areBlank, brace] at sameTokens
  cases form with
  | object members => exact ⟨members, rfl⟩
  | _ => cases sameTokens

theorem exists_spells_object {α : Type} {shape : Shape α} {value : α}
    (decoded : decode shape.reader text = .ok value) (isObject : IsObjectText text) :
    ∃ members, (Form.object members).Spells text := by
  obtain ⟨read, whole⟩ := decode_eq_ok.mp decoded
  obtain ⟨form, spells, -⟩ := exists_spells (Shape.pass_of_reader read) whole
  obtain ⟨members, rfl⟩ := spells.exists_object isObject
  exact ⟨members, spells⟩

end Texts

end ProbeLifecycle.Json
