import Mathlib.Data.List.DropRight
import ProbeLifecycle.Text.WhiteSpace

/-!
# Trimmed text

What is dropped from the ends of a text is as much as can be dropped.  A text that has
nothing to drop at its ends is therefore what is left of it, however much is put
around it, and every text is what is left of it with something put around it.
-/

namespace ProbeLifecycle.Text

section Ends

variable {drop : Char → Bool} {chars before core after : List Char}

/-- What can be dropped makes no difference at the end of a text. -/
theorem stripEnd_append (dropped : ∀ char ∈ after, drop char = true) :
    stripEnd drop (chars ++ after) = stripEnd drop chars := by
  have droppedToo : ∀ char ∈ after.reverse, drop char = true := by simpa using dropped
  unfold stripEnd
  rw [List.reverse_append, List.dropWhile_append_of_pos droppedToo]

theorem stripEnd_eq_self (kept : ∀ last ∈ chars.getLast?, drop last = false) :
    stripEnd drop chars = chars := by
  change chars.rdropWhile drop = chars
  rw [List.rdropWhile_eq_self_iff]
  intro notEmpty dropped
  have isLast := List.getLast?_eq_some_getLast notEmpty
  rw [kept _ isLast] at dropped
  cases dropped

theorem kept_of_stripEnd (drop : Char → Bool) (chars : List Char) :
    ∀ last ∈ (stripEnd drop chars).getLast?, drop last = false := by
  intro last isLast
  have notEmpty : chars.rdropWhile drop ≠ [] := by
    intro empty
    change last ∈ (chars.rdropWhile drop).getLast? at isLast
    rw [empty] at isLast
    cases isLast
  have kept := List.rdropWhile_last_not drop chars notEmpty
  obtain rfl : (chars.rdropWhile drop).getLast notEmpty = last :=
    Option.some.inj ((List.getLast?_eq_some_getLast notEmpty).symm.trans isLast)
  exact Bool.eq_false_iff.mpr kept

/-- What is dropped from the end of a text. -/
theorem exists_stripEnd_append (drop : Char → Bool) (chars : List Char) :
    ∃ after, (∀ char ∈ after, drop char = true) ∧
      chars = stripEnd drop chars ++ after :=
  ⟨chars.rtakeWhile drop, fun _ => List.mem_rtakeWhile_imp,
    List.rdropWhile_append_rtakeWhile.symm⟩

/-- What is left of a text that has nothing to drop at its ends, when something that can
be dropped is put around it. -/
theorem stripEnds_padded (droppedBefore : ∀ char ∈ before, drop char = true)
    (droppedAfter : ∀ char ∈ after, drop char = true)
    (firstKept : ∀ first ∈ core.head?, drop first = false)
    (lastKept : ∀ last ∈ core.getLast?, drop last = false) :
    stripEnds drop (before ++ (core ++ after)) = core := by
  change stripEnd drop ((before ++ (core ++ after)).dropWhile drop) = core
  rw [List.dropWhile_append_of_pos droppedBefore]
  cases core with
  | nil => rw [List.nil_append, List.dropWhile_eq_nil_iff.mpr droppedAfter]; rfl
  | cons first core =>
      have kept : drop first = false := firstKept first rfl
      rw [List.cons_append, List.dropWhile_cons_of_neg (by simp [kept]),
        ← List.cons_append, stripEnd_append droppedAfter, stripEnd_eq_self lastKept]

theorem stripEnds_eq_self (kept : ∀ char ∈ chars, drop char = false) :
    stripEnds drop chars = chars := by
  have whole : stripEnds drop ([] ++ (chars ++ [])) = chars :=
    stripEnds_padded (List.forall_mem_nil _) (List.forall_mem_nil _)
      (fun first isFirst => kept first (List.mem_of_head? isFirst))
      (fun last isLast => kept last (List.mem_of_getLast? isLast))
  rwa [List.nil_append, List.append_nil] at whole

/-- Every text is what is left of it, with something that can be dropped around it. -/
theorem exists_stripEnds_padded (drop : Char → Bool) (chars : List Char) :
    ∃ before after, (∀ char ∈ before, drop char = true) ∧
      (∀ char ∈ after, drop char = true) ∧
      chars = before ++ (stripEnds drop chars ++ after) := by
  obtain ⟨after, dropped, rest⟩ := exists_stripEnd_append drop (chars.dropWhile drop)
  refine ⟨chars.takeWhile drop, after, fun char => List.mem_takeWhile_imp, dropped, ?_⟩
  change chars = _ ++ (stripEnd drop (chars.dropWhile drop) ++ after)
  rw [← rest, List.takeWhile_append_dropWhile]

end Ends

end ProbeLifecycle.Text
