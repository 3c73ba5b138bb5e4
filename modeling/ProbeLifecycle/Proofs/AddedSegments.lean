import ProbeLifecycle.Proofs.PercentText
import ProbeLifecycle.Url.Path

/-!
# Segments that are added to a path

Adding a text to a path has four results.  A plain dot segment adds nothing; a text
that turns into one only when ignored characters are left out leads to the place
above, or to a slash at the end; every other text becomes one more segment, which
stands for the text without its ignored characters.  So a text keeps its identity
exactly if it is no dot segment and has no ignored characters.
-/

namespace ProbeLifecycle.Path

open Text

def significant (text : String) : String :=
  .ofList (text.toList.filter fun char => !isIgnoredChar char)

/-- A text that a segment can stand for as it is. -/
def IsLiteral (text : String) : Prop :=
  (∀ char ∈ text.toList, isIgnoredChar char = false) ∧ text ≠ "." ∧ text ≠ ".."

instance (text : String) : Decidable (IsLiteral text) :=
  -- The characters of the text are gone through, not all that there are.
  haveI := List.decidableBAll (fun char => isIgnoredChar char = false) text.toList
  inferInstanceAs (Decidable (_ ∧ _))

section Encoding

variable {text other : String}

theorem significant_eq_self :
    significant text = text ↔ ∀ char ∈ text.toList, isIgnoredChar char = false := by
  unfold significant
  rw [← String.toList_inj, String.toList_ofList, List.filter_eq_self]
  simp

theorem IsLiteral.significant_eq (literal : IsLiteral text) :
    significant text = text :=
  significant_eq_self.mpr literal.1

/-- A segment stands for the text that it was made of, less what is ignored. -/
theorem percentDecoded?_encodeSegment (text : String) :
    percentDecoded? (encodeSegment text) = some (significant text) :=
  percentDecoded?_percentEncode (by decide) _

theorem encodeSegment_eq_iff :
    encodeSegment text = encodeSegment other ↔
      significant text = significant other := by
  constructor
  · intro equal
    have decoded := percentDecoded?_encodeSegment text
    rw [equal, percentDecoded?_encodeSegment other] at decoded
    exact (Option.some.inj decoded).symm
  · intro equal
    have kept := congrArg String.toList equal
    simp only [significant, String.toList_ofList] at kept
    unfold encodeSegment
    rw [kept]

/-- A segment that stands for the whole text, and for no dots, is a literal one. -/
theorem isLiteral_of_encodeSegment (notHere : significant text ≠ ".")
    (notAbove : significant text ≠ "..")
    (decoded : percentDecoded? (encodeSegment text) = some text) :
    IsLiteral text := by
  rw [percentDecoded?_encodeSegment] at decoded
  have kept : significant text = text := Option.some.inj decoded
  rw [kept] at notHere notAbove
  exact ⟨significant_eq_self.mp kept, notHere, notAbove⟩

theorem isSingleDot_encodeSegment :
    isSingleDot (encodeSegment text) = true ↔ significant text = "." := by
  constructor
  · intro isDot
    have decodes : ∀ form ∈ dotForms, percentDecoded? form = some "." := by
      decide +kernel
    have decoded := decodes _ (List.contains_iff_mem.mp isDot)
    rw [percentDecoded?_encodeSegment] at decoded
    exact Option.some.inj decoded
  · intro isDot
    have same : encodeSegment text = encodeSegment "." :=
      encodeSegment_eq_iff.mpr isDot
    rw [same]
    decide +kernel

theorem isDoubleDot_encodeSegment :
    isDoubleDot (encodeSegment text) = true ↔ significant text = ".." := by
  constructor
  · intro isDots
    have decodes : ∀ first ∈ dotForms, ∀ second ∈ dotForms,
        percentDecoded? (first ++ second) = some ".." := by
      decide +kernel
    unfold isDoubleDot at isDots
    simp only [List.any_eq_true, beq_iff_eq] at isDots
    obtain ⟨first, memberFirst, second, memberSecond, equal⟩ := isDots
    have decoded := decodes first memberFirst second memberSecond
    rw [← equal, percentDecoded?_encodeSegment] at decoded
    exact Option.some.inj decoded
  · intro isDots
    have same : encodeSegment text = encodeSegment ".." :=
      encodeSegment_eq_iff.mpr isDots
    rw [same]
    decide +kernel

theorem encodeSegment_eq_empty :
    encodeSegment text = "" ↔ significant text = "" := by
  have same : encodeSegment text = encodeSegment "" ↔
      significant text = significant "" :=
    encodeSegment_eq_iff
  exact same

end Encoding

/-- What adding a text to a path leaves. -/
inductive Adds (path : Path) (text : String) : Path → Prop where
  | nothing (isDots : text = "." ∨ text = "..") : Adds path text path
  | above (isNotPlain : text ≠ "..") (hidden : significant text = "..") :
      Adds path text ⟨parent path.base, ""⟩
  | slash (isNotPlain : text ≠ ".")
      (hidden : significant text = "." ∨ significant text = "") :
      Adds path text ⟨path.base, ""⟩
  | segment (notAbove : significant text ≠ "..") (notHere : significant text ≠ ".")
      (notEmpty : significant text ≠ "") :
      Adds path text ⟨path.base, encodeSegment text⟩

theorem adds_push (path : Path) (text : String) :
    path.Adds text (path.push text) := by
  unfold push
  by_cases isDots : text = "." ∨ text = ".."
  · rw [if_pos isDots]
    exact .nothing isDots
  · rw [if_neg isDots]
    -- The plain dots are passed over first, the hidden ones resolved after that.
    obtain ⟨notDot, notDots⟩ := not_or.mp isDots
    unfold ending
    by_cases above : significant text = ".."
    · rw [if_pos (isDoubleDot_encodeSegment.mpr above)]
      exact .above notDots above
    · rw [if_neg (mt isDoubleDot_encodeSegment.mp above)]
      by_cases here : significant text = "."
      · rw [if_pos (isSingleDot_encodeSegment.mpr here)]
        exact .slash notDot (.inl here)
      · rw [if_neg (mt isSingleDot_encodeSegment.mp here)]
        by_cases empty : significant text = ""
        · rw [encodeSegment_eq_empty.mpr empty]
          exact .slash notDot (.inr empty)
        · exact .segment above here empty

section Literals

variable {path : Path} {before : List String} {text segment : String}

theorem push_of_isLiteral (literal : IsLiteral text) :
    path.push text = ⟨path.base, encodeSegment text⟩ := by
  have kept := literal.significant_eq
  obtain ⟨-, notDot, notDots⟩ := literal
  have adds := path.adds_push text
  generalize path.push text = pushed at adds ⊢
  cases adds with
  | nothing isDots => exact absurd isDots (not_or.mpr ⟨notDot, notDots⟩)
  | above isNotPlain hidden => exact absurd (kept.symm.trans hidden) notDots
  | slash isNotPlain hidden =>
      rcases hidden with isDot | empty
      · exact absurd (kept.symm.trans isDot) notDot
      · rw [encodeSegment_eq_empty.mpr empty]
  | segment notAbove notHere notEmpty => rfl

/-- A text that is added leaves a segment that stands for it only if it is literal
and nothing before it is lost. -/
theorem isLiteral_of_base_push (notEmpty : text ≠ "")
    (enough : path.base.length ≤ before.length)
    (place : (path.push text).base = before ++ [segment])
    (decoded : percentDecoded? segment = some text) :
    IsLiteral text ∧ path.base = before := by
  have not_slash : ∀ front, (Path.mk front "").base ≠ before ++ [segment] := by
    intro front ends
    unfold base at ends
    split at ends
    · simp at ends
    · obtain ⟨-, isEmpty⟩ := List.append_inj' ends rfl
      rw [← List.singleton_inj.mp isEmpty] at decoded
      exact notEmpty (Option.some.inj decoded).symm
  have adds := path.adds_push text
  generalize path.push text = pushed at adds place
  cases adds with
  | nothing isDots =>
      rw [place, List.length_append, List.length_singleton] at enough
      exact absurd enough (Nat.not_succ_le_self _)
  | above isNotPlain hidden => exact absurd place (not_slash _)
  | slash isNotPlain hidden => exact absurd place (not_slash _)
  | segment notAbove notHere isSegment =>
      have notRoot : Path.mk path.base (encodeSegment text) ≠ root := by
        intro isRoot
        have isEmpty : encodeSegment text = "" := congrArg Path.last isRoot
        exact isSegment (encodeSegment_eq_empty.mp isEmpty)
      rw [base, if_neg notRoot] at place
      obtain ⟨sameBase, sameSegment⟩ := List.append_inj' place rfl
      rw [← List.singleton_inj.mp sameSegment] at decoded
      exact ⟨isLiteral_of_encodeSegment notHere notAbove decoded, sameBase⟩

end Literals

end ProbeLifecycle.Path
