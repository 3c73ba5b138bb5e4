import Mathlib.Data.List.TakeWhile
import Mathlib.Data.Nat.Digits.Defs
import ProbeLifecycle.Url.Ipv6

/-!
# IPv6 addresses as they are written

The normal form of an address is read as the same eight pieces, so reading an address
in normal form gives it back.  A run of zeros that is left out is as long as what is
missing, since there always are eight pieces.
-/

namespace ProbeLifecycle

namespace Text

variable {char : Char}

theorem mem_intercalate {separator : Char} {words : List (List Char)}
    (member : char ∈ [separator].intercalate words) :
    char = separator ∨ ∃ word ∈ words, char ∈ word := by
  induction words with
  | nil => cases member
  | cons first words ih =>
      cases words with
      | nil => exact .inr ⟨first, List.mem_cons_self, by simpa using member⟩
      | cons second words =>
          rw [List.intercalate_cons_cons, List.append_assoc, List.mem_append,
            List.mem_append, List.mem_singleton] at member
          rcases member with inFirst | isSeparator | inRest
          · exact .inr ⟨first, List.mem_cons_self, inFirst⟩
          · exact .inl isSeparator
          · rcases ih inRest with isSeparator | ⟨word, inWords, inWord⟩
            · exact .inl isSeparator
            · exact .inr ⟨word, List.mem_cons_of_mem _ inWords, inWord⟩

theorem exists_of_mem_toDigits {base number : Nat} (proper : 1 < base)
    (member : char ∈ Nat.toDigits base number) :
    ∃ digit < base, char = digit.digitChar := by
  induction number using Nat.strong_induction_on with
  | _ number ih =>
      rw [Nat.toDigits_eq_if proper] at member
      split at member
      · rename_i small
        exact ⟨number, small, List.mem_singleton.mp member⟩
      · rename_i large
        rcases List.mem_append.mp member with before | last
        · exact ih _ (Nat.div_lt_self (by omega) proper) before
        · exact ⟨number % base, Nat.mod_lt _ (by omega), List.mem_singleton.mp last⟩

end Text

namespace Ipv6

open Text

def pieceDigits : List Char :=
  ['0', '1', '2', '3', '4', '5', '6', '7', '8', '9', 'a', 'b', 'c', 'd', 'e', 'f']

section Pieces

variable {piece : Nat} {pieces : List Nat} {chars : List Char} {char : Char}

/-- One more digit after a value, if both are there. -/
def addDigit (value : Option Nat) (char : Char) : Option Nat :=
  match value, hexValue? char with
  | some value, some digit => some (16 * value + digit)
  | _, _ => none

theorem digitChar_mem (small : piece < 16) : piece.digitChar ∈ pieceDigits := by
  decide +revert

theorem toDigits_ofDigits (piece : Nat) :
    (Nat.toDigits 16 piece).foldl addDigit (some 0) = some piece := by
  induction piece using Nat.strong_induction_on with
  | _ piece ih =>
      rw [Nat.toDigits_eq_if (by decide)]
      split
      · rename_i small
        simp [addDigit, hexValue?_digitChar small]
      · rename_i large
        rw [List.foldl_append, ih _ (by omega)]
        have last := hexValue?_digitChar (Nat.mod_lt piece (by decide : 0 < 16))
        simp [addDigit, last, Nat.div_add_mod]

theorem mem_pieceDigits (member : char ∈ Nat.toDigits 16 piece) :
    char ∈ pieceDigits := by
  obtain ⟨digit, small, rfl⟩ := exists_of_mem_toDigits (by decide) member
  exact digitChar_mem small

theorem piece?_toDigits (small : piece < 65536) :
    piece? (Nat.toDigits 16 piece) = some piece := by
  have short : (Nat.toDigits 16 piece).length ≤ 4 :=
    (Nat.length_toDigits_le_iff (by decide) (by decide)).mpr small
  unfold piece?
  rw [if_neg]
  · exact toDigits_ofDigits piece
  · simp [Nat.toDigits_ne_nil, short]

theorem addDigits_none (chars : List Char) : chars.foldl addDigit none = none := by
  induction chars with
  | nil => rfl
  | cons char chars ih => exact ih

theorem addDigits_lt {value result : Nat}
    (read : chars.foldl addDigit (some value) = some result) :
    result < (value + 1) * 16 ^ chars.length := by
  induction chars generalizing value with
  | nil =>
      obtain rfl := Option.some.inj read
      simp
  | cons char chars ih =>
      rw [List.foldl_cons] at read
      cases isDigit : hexValue? char with
      | none =>
          simp only [addDigit, isDigit] at read
          change chars.foldl addDigit none = _ at read
          rw [addDigits_none] at read
          cases read
      | some digit =>
          simp only [addDigit, isDigit] at read
          have small := hexValue?_lt isDigit
          calc
            result < (16 * value + digit + 1) * 16 ^ chars.length := ih read
            _ ≤ ((value + 1) * 16) * 16 ^ chars.length :=
              Nat.mul_le_mul_right _ (by omega)
            _ = (value + 1) * 16 ^ (char :: chars).length := by
              rw [List.length_cons, Nat.pow_succ', Nat.mul_assoc]

theorem piece?_lt (read : piece? chars = some piece) : piece < 65536 := by
  unfold piece? at read
  rw [Option.ite_none_left_eq_some] at read
  obtain ⟨short, read⟩ := read
  have below := addDigits_lt read
  have atMost : 16 ^ chars.length ≤ 16 ^ 4 :=
    Nat.pow_le_pow_right (by decide) (by omega)
  omega

end Pieces

section Gaps

variable {word : List Char} {words : List (List Char)}

theorem splitAtGap_word (plain : ∀ char ∈ word, char ≠ ':') (rest : List Char) :
    splitAtGap (word ++ rest) =
      (splitAtGap rest).map fun halves => (word ++ halves.1, halves.2) := by
  induction word with
  | nil => simp
  | cons char word ih =>
      rw [List.cons_append, splitAtGap, ih fun other member =>
        plain other (List.mem_cons_of_mem _ member)]
      · simp [Function.comp_def]
      · intro after isColon
        exact absurd isColon (plain char List.mem_cons_self)

theorem splitAtGap_colon {chars : List Char} (single : chars.head? ≠ some ':') :
    splitAtGap (':' :: chars) =
      (splitAtGap chars).map fun halves => (':' :: halves.1, halves.2) := by
  rw [splitAtGap]
  rintro after - rfl
  exact single rfl

theorem splitAtGap_words
    (isWord : ∀ word ∈ words, word ≠ [] ∧ ∀ char ∈ word, char ≠ ':')
    (rest : List Char) :
    splitAtGap ([':'].intercalate words ++ rest) = (splitAtGap rest).map
      fun halves => ([':'].intercalate words ++ halves.1, halves.2) := by
  induction words with
  | nil => simp
  | cons first words ih =>
      have plain := (isWord first List.mem_cons_self).2
      cases words with
      | nil => simpa using splitAtGap_word plain rest
      | cons second words =>
          have joined : [':'].intercalate (first :: second :: words) =
              first ++ ':' :: [':'].intercalate (second :: words) := by
            simp
          have single : ([':'].intercalate (second :: words) ++ rest).head? ≠
              some ':' := by
            obtain ⟨notEmpty, plain⟩ := isWord second (by simp)
            obtain ⟨char, second, rfl⟩ := List.exists_cons_of_ne_nil notEmpty
            cases words <;> simpa using plain char (by simp)
          rw [joined, List.append_assoc, splitAtGap_word plain, List.cons_append,
            splitAtGap_colon single,
            ih fun word member => isWord word (List.mem_cons_of_mem _ member)]
          simp [Function.comp_def]

end Gaps

section Groups

variable {pieces : List Nat}

def piecesChars (pieces : List Nat) : List Char :=
  [':'].intercalate (pieces.map (Nat.toDigits 16))

theorem toList_piecesText (pieces : List Nat) :
    (piecesText pieces).toList = piecesChars pieces := by
  unfold piecesText piecesChars
  rw [String.toList_intercalate, List.map_map]
  simp [Function.comp_def]

theorem isWord_toDigits {word : List Char}
    (member : word ∈ pieces.map (Nat.toDigits 16)) :
    word ≠ [] ∧ ∀ char ∈ word, char ≠ ':' := by
  obtain ⟨piece, -, rfl⟩ := List.mem_map.mp member
  refine ⟨Nat.toDigits_ne_nil, ?_⟩
  rintro char isDigit rfl
  exact absurd (mem_pieceDigits isDigit) (by decide)

theorem mem_piecesChars {char : Char} (member : char ∈ piecesChars pieces) :
    char = ':' ∨ char ∈ pieceDigits := by
  rcases mem_intercalate member with isColon | ⟨word, isPiece, inWord⟩
  · exact .inl isColon
  · obtain ⟨piece, -, rfl⟩ := List.mem_map.mp isPiece
    exact .inr (mem_pieceDigits inWord)

theorem splitAtGap_piecesChars (pieces : List Nat) (rest : List Char) :
    splitAtGap (piecesChars pieces ++ rest) = (splitAtGap rest).map
      fun halves => (piecesChars pieces ++ halves.1, halves.2) :=
  splitAtGap_words (fun _ member => isWord_toDigits member) rest

theorem pieces?_toDigits (notEmpty : pieces ≠ [])
    (small : ∀ piece ∈ pieces, piece < 65536) (atEnd : Bool) :
    pieces? atEnd (pieces.map (Nat.toDigits 16)) = some pieces := by
  induction pieces with
  | nil => exact absurd rfl notEmpty
  | cons piece pieces ih =>
      have read := piece?_toDigits (small piece List.mem_cons_self)
      cases pieces with
      | nil =>
          have noDot : (Nat.toDigits 16 piece).contains '.' = false := by
            rw [List.contains_eq_mem, decide_eq_false_iff_not]
            intro isDigit
            exact absurd (mem_pieceDigits isDigit) (by decide)
          simp only [List.map_cons, List.map_nil, pieces?, noDot, Bool.and_false,
            Bool.false_eq_true, if_false, read, Option.map_some]
      | cons second pieces =>
          have rest := ih (List.cons_ne_nil _ _) fun other member =>
            small other (List.mem_cons_of_mem _ member)
          simp only [List.map_cons] at rest ⊢
          simp only [pieces?, read, rest]

theorem group?_piecesChars (small : ∀ piece ∈ pieces, piece < 65536) (atEnd : Bool) :
    group? atEnd (piecesChars pieces) = some pieces := by
  cases isEmpty : pieces with
  | nil => rfl
  | cons first rest =>
      have notEmpty : pieces ≠ [] := isEmpty ▸ List.cons_ne_nil _ _
      rw [← isEmpty]
      have split : (piecesChars pieces).splitOn ':' =
          pieces.map (Nat.toDigits 16) :=
        List.splitOn_intercalate _
          (fun word member isColon => (isWord_toDigits member).2 _ isColon rfl)
          (by simpa using notEmpty)
      have written : piecesChars pieces ≠ [] := by
        intro none
        rw [none, List.splitOn_nil] at split
        exact (isWord_toDigits (split ▸ List.mem_singleton_self [])).1 rfl
      unfold group?
      rw [if_neg (by simpa using written), split]
      exact pieces?_toDigits notEmpty small atEnd

end Groups

section Runs

variable {pieces : List Nat} {start : Nat} {best : Nat × Nat}

theorem take_zeroRun (pieces : List Nat) :
    pieces.take (zeroRun pieces) = List.replicate (zeroRun pieces) 0 := by
  rw [List.eq_replicate_iff]
  constructor
  · rw [List.length_take, Nat.min_eq_left]
    exact (List.takeWhile_sublist _).length_le
  · intro piece member
    unfold zeroRun at member
    rw [← List.prefix_iff_eq_take.mp (List.takeWhile_prefix _)] at member
    simpa using List.mem_takeWhile_imp member

/-- The longest run of zeros is the best one so far or all zeros from some place on. -/
theorem longestZeroRun_cases (start : Nat) (best : Nat × Nat) (pieces : List Nat) :
    longestZeroRun start best pieces = best ∨
      ∃ skipped, longestZeroRun start best pieces =
        (start + skipped, zeroRun (pieces.drop skipped)) := by
  induction pieces generalizing start best with
  | nil => exact .inl rfl
  | cons piece pieces ih =>
      rw [longestZeroRun]
      rcases ih (start + 1)
        (if best.2 < zeroRun (piece :: pieces) then (start, zeroRun (piece :: pieces))
          else best) with isBest | ⟨skipped, isLater⟩
      · rw [isBest]
        split
        · exact .inr ⟨0, rfl⟩
        · exact .inl rfl
      · refine .inr ⟨skipped + 1, ?_⟩
        rw [isLater, List.drop_succ_cons]
        congr 1
        omega

/-- Pieces are those before a run of zeros, the zeros and those after it. -/
theorem cut_zeroRun (skipped : Nat) (pieces : List Nat) :
    pieces.take skipped ++ List.replicate (zeroRun (pieces.drop skipped)) 0 ++
      pieces.drop (skipped + zeroRun (pieces.drop skipped)) = pieces := by
  rw [← take_zeroRun, ← List.drop_drop, List.append_assoc, List.take_append_drop,
    List.take_append_drop]

end Runs

section Addresses

variable {chars : List Char} {pieces : List Nat} {host : String}

/-- The eight pieces of an address. -/
structure IsAddress (pieces : List Nat) : Prop where
  length : pieces.length = 8
  small : ∀ piece ∈ pieces, piece < 65536

theorem exists_of_mapM {read : List Char → Option Nat} {words : List (List Char)}
    {values : List Nat} {value : Nat} (all : words.mapM read = some values)
    (member : value ∈ values) : ∃ word ∈ words, read word = some value := by
  induction words generalizing values with
  | nil =>
      obtain rfl := Option.some.inj all
      cases member
  | cons word words ih =>
      rw [List.mapM_cons] at all
      simp only [Option.bind_eq_bind, Option.bind_eq_some_iff, Option.pure_def,
        Option.some.injEq] at all
      obtain ⟨first, isFirst, rest, isRest, rfl⟩ := all
      rcases List.mem_cons.mp member with rfl | inRest
      · exact ⟨word, List.mem_cons_self, isFirst⟩
      · obtain ⟨later, inWords, isLater⟩ := ih isRest inRest
        exact ⟨later, List.mem_cons_of_mem _ inWords, isLater⟩

theorem byte?_le {byte : Nat} (read : byte? chars = some byte) : byte ≤ 255 := by
  unfold byte? at read
  rw [Option.ite_none_left_eq_some] at read
  simpa using (Option.filter_eq_some_iff.mp read.2).2

theorem embeddedIpv4?_small (read : embeddedIpv4? chars = some pieces) :
    ∀ piece ∈ pieces, piece < 65536 := by
  unfold embeddedIpv4? at read
  split at read
  · rename_i first second third fourth bytes
    have byte : ∀ byte ∈ [first, second, third, fourth], byte ≤ 255 := by
      intro byte member
      obtain ⟨word, -, read⟩ := exists_of_mapM bytes member
      exact byte?_le read
    obtain rfl := Option.some.inj read
    simp only [List.mem_cons, List.not_mem_nil, or_false] at byte ⊢
    have one := byte first (.inl rfl)
    have two := byte second (.inr (.inl rfl))
    have three := byte third (.inr (.inr (.inl rfl)))
    have four := byte fourth (.inr (.inr (.inr rfl)))
    omega
  · cases read

theorem pieces?_small {atEnd : Bool} {words : List (List Char)}
    (read : pieces? atEnd words = some pieces) : ∀ piece ∈ pieces, piece < 65536 := by
  induction words generalizing pieces with
  | nil =>
      obtain rfl := Option.some.inj read
      simp
  | cons first rest ih =>
      cases rest with
      | nil =>
          rw [pieces?] at read
          split at read
          · exact embeddedIpv4?_small read
          · obtain ⟨piece, isPiece, rfl⟩ := Option.map_eq_some_iff.mp read
            simpa using piece?_lt isPiece
      | cons second rest =>
          rw [pieces?] at read
          · split at read
            · rename_i piece others isPiece isRest
              obtain rfl := Option.some.inj read
              simpa using ⟨piece?_lt isPiece, ih isRest⟩
            · cases read
          · exact List.cons_ne_nil _ _

theorem group?_small {atEnd : Bool} (read : group? atEnd chars = some pieces) :
    ∀ piece ∈ pieces, piece < 65536 := by
  unfold group? at read
  split at read
  · obtain rfl := Option.some.inj read
    simp
  · exact pieces?_small read

theorem isAddress_of_address? (read : address? chars = some pieces) :
    IsAddress pieces := by
  unfold address? at read
  split at read
  · split at read
    · rename_i all group
      rw [Option.ite_none_right_eq_some] at read
      obtain ⟨length, same⟩ := read
      obtain rfl := Option.some.inj same
      exact ⟨length, group?_small group⟩
    · cases read
  · split at read
    · rename_i before after groupBefore groupAfter
      rw [Option.ite_none_right_eq_some] at read
      obtain ⟨short, same⟩ := read
      obtain rfl := Option.some.inj same
      refine ⟨?_, fun piece member => ?_⟩
      · simp only [List.length_append, List.length_replicate]
        omega
      · rcases List.mem_append.mp member with inFront | inAfter
        · rcases List.mem_append.mp inFront with inBefore | inZeros
          · exact group?_small groupBefore piece inBefore
          · rw [List.eq_of_mem_replicate inZeros]
            decide
        · exact group?_small groupAfter piece inAfter
    · cases read

def insideChars (pieces : List Nat) : List Char :=
  let run := longestZeroRun 0 (0, 1) pieces
  if run.2 < 2 then piecesChars pieces
  else
    piecesChars (pieces.take run.1) ++
      ':' :: ':' :: piecesChars (pieces.drop (run.1 + run.2))

theorem toList_text (pieces : List Nat) :
    (text pieces).toList = '[' :: insideChars pieces ++ [']'] := by
  unfold text insideChars
  dsimp only
  split
  · simp [toList_piecesText]
  · simp [toList_piecesText]

theorem address?_piecesChars (address : IsAddress pieces) :
    address? (piecesChars pieces) = some pieces := by
  have whole : splitAtGap (piecesChars pieces) = none := by
    simpa [splitAtGap] using splitAtGap_piecesChars pieces []
  unfold address?
  rw [whole]
  dsimp only
  rw [group?_piecesChars address.small]
  exact if_pos address.length

/-- A gap stands for the zeros that are missing. -/
theorem address?_gap {before after : List Nat} {count : Nat} (isGap : 0 < count)
    (address : IsAddress (before ++ List.replicate count 0 ++ after)) :
    address? (piecesChars before ++ ':' :: ':' :: piecesChars after) =
      some (before ++ List.replicate count 0 ++ after) := by
  have small := address.small
  have length := address.length
  simp only [List.mem_append, List.length_append, List.length_replicate] at small length
  have missing : 8 - before.length - after.length = count := by omega
  unfold address?
  rw [splitAtGap_piecesChars]
  simp only [splitAtGap, Option.map_some, List.append_nil]
  rw [group?_piecesChars fun piece member => small piece (.inl (.inl member)),
    group?_piecesChars fun piece member => small piece (.inr member)]
  dsimp only
  rw [if_pos (by omega), missing]

theorem IsAddress.address?_insideChars (address : IsAddress pieces) :
    address? (insideChars pieces) = some pieces := by
  unfold insideChars
  dsimp only
  split
  · exact address?_piecesChars address
  · rename_i long
    -- The search begins with a run of one piece, which is too short to be left out.
    rcases longestZeroRun_cases 0 (0, 1) pieces with isFirst | ⟨skipped, isRun⟩
    · rw [isFirst] at long
      exact absurd (by decide) long
    · rw [isRun] at long ⊢
      have cut := cut_zeroRun skipped pieces
      have read := address?_gap (by omega) (cut.symm ▸ address)
      rw [cut] at read
      rw [Nat.zero_add]
      exact read

/-- What is read between brackets is written with digits and colons between them, and
is read as it is written. -/
theorem written_of_read (read : Ipv6.read chars = .ok host) :
    ∃ inside, host.toList = '[' :: inside ++ [']'] ∧
      (∀ char ∈ inside, char = ':' ∨ char ∈ pieceDigits) ∧
      Ipv6.read inside = .ok host := by
  unfold Ipv6.read at read
  split at read
  · rename_i pieces isRead
    obtain rfl := Except.ok.inj read
    have address := isAddress_of_address? isRead
    refine ⟨insideChars pieces, toList_text pieces, ?_, ?_⟩
    · intro char member
      unfold insideChars at member
      dsimp only at member
      split at member
      · exact mem_piecesChars member
      · rcases List.mem_append.mp member with before | gap
        · exact mem_piecesChars before
        · rcases List.mem_cons.mp gap with rfl | gap
          · exact .inl rfl
          · rcases List.mem_cons.mp gap with rfl | after
            · exact .inl rfl
            · exact mem_piecesChars after
    · rw [Ipv6.read, address.address?_insideChars]
  · cases read

end Addresses

end Ipv6

end ProbeLifecycle
