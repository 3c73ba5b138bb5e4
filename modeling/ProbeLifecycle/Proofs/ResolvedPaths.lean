import ProbeLifecycle.Proofs.WrittenPaths

/-!
# Paths without dots

The dots in a path are resolved when it is read or added to, so no segment of a path
names a place.  The text of such a path is read as the path.
-/

namespace ProbeLifecycle

open Text

namespace Path

/-- A segment that names no place. -/
def IsOrdinary (segment : String) : Prop :=
  isSingleDot segment = false ∧ isDoubleDot segment = false

/-- A path in which the dots have been resolved. -/
def IsResolved (path : Path) : Prop :=
  ∀ segment ∈ path.segments, IsOrdinary segment

section Resolved

variable {path : Path} {segments before middle : List String} {last segment : String}

theorem isOrdinary_empty : IsOrdinary "" :=
  ⟨by decide, by decide⟩

theorem isOrdinary_descend (ordinary : ∀ segment ∈ before, IsOrdinary segment)
    (next : String) : ∀ segment ∈ descend before next, IsOrdinary segment := by
  intro segment member
  unfold descend at member
  split at member
  · exact ordinary segment (mem_parent member)
  · split at member
    · exact ordinary segment member
    · rename_i notDoubleDot notSingleDot
      rcases List.mem_append.mp member with inBefore | isNext
      · exact ordinary segment inBefore
      · rw [List.mem_singleton.mp isNext]
        exact ⟨by simpa using notSingleDot, by simpa using notDoubleDot⟩

theorem isResolved_ending (ordinary : ∀ segment ∈ before, IsOrdinary segment)
    (next : String) : (ending before next).IsResolved := by
  have of_mk : ∀ {front last}, (∀ segment ∈ front, IsOrdinary segment) →
      IsOrdinary last → (Path.mk front last).IsResolved := by
    intro front last inFront isLast segment member
    rcases List.mem_append.mp member with earlier | same
    · exact inFront segment earlier
    · rw [List.mem_singleton.mp same]
      exact isLast
  unfold ending
  split
  · exact of_mk (fun segment member => ordinary segment (mem_parent member))
      isOrdinary_empty
  · split
    · exact of_mk ordinary isOrdinary_empty
    · rename_i notDoubleDot notSingleDot
      exact of_mk ordinary ⟨by simpa using notSingleDot, by simpa using notDoubleDot⟩

theorem isResolved_walk (ordinary : ∀ segment ∈ before, IsOrdinary segment)
    (segments : List String) : (walk before segments).IsResolved := by
  induction segments generalizing before with
  | nil =>
      intro segment member
      rcases List.mem_append.mp member with inBefore | isLast
      · exact ordinary segment inBefore
      · rw [List.mem_singleton.mp isLast]
        exact isOrdinary_empty
  | cons first rest ih =>
      cases rest with
      | nil => exact isResolved_ending ordinary first
      | cons second rest => exact ih (isOrdinary_descend ordinary first)

theorem isResolved_ofChars (chars : List Char) : (ofChars chars).IsResolved :=
  isResolved_walk (by simp) _

theorem walk_of_isOrdinary (ordinary : ∀ segment ∈ middle, IsOrdinary segment)
    (isLast : IsOrdinary last) (before : List String) :
    walk before (middle ++ [last]) = ⟨before ++ middle, last⟩ := by
  induction middle generalizing before with
  | nil => simp [walk, ending, isLast.1, isLast.2]
  | cons first middle ih =>
      obtain ⟨notSingleDot, notDoubleDot⟩ := ordinary first List.mem_cons_self
      rw [List.cons_append, walk, descend, notDoubleDot, notSingleDot]
      · simp [ih fun segment member => ordinary segment (List.mem_cons_of_mem _ member)]
      · simp

theorem IsResolved.popIfEmpty (resolved : path.IsResolved) :
    path.popIfEmpty.IsResolved :=
  fun segment member => resolved segment (mem_popIfEmpty member)

theorem IsResolved.extend (resolved : path.IsResolved) (texts : List String) :
    (path.extend texts).IsResolved := by
  unfold Path.extend
  induction texts generalizing path with
  | nil => exact resolved
  | cons text texts ih =>
      refine ih ?_
      unfold push
      split
      · exact resolved
      · refine isResolved_ending (fun segment member => ?_) _
        exact resolved segment (mem_base member)

theorem ofChars_chars (clean : path.IsClean) (resolved : path.IsResolved) :
    ofChars (path.chars.drop 1) = path := by
  have kept : ∀ char ∈ path.chars.drop 1, isPathChar char = true ∧ char ≠ '\\' :=
    fun char member => clean.mem_chars (List.mem_of_mem_drop member)
  have slashes : (path.chars.drop 1).map
      (fun char => if char = '\\' then '/' else char) = path.chars.drop 1 :=
    (List.map_congr_left fun char member => if_neg (kept char member).2).trans
      (List.map_id _)
  have pieces : ((path.chars.drop 1).splitOn '/').map
      (fun piece => String.ofList (percentEncode isPathChar piece)) =
        path.segments := by
    rw [← clean.shown_eq]
    refine List.map_congr_left fun piece inSplit => ?_
    rw [percentEncode_eq_self fun char member =>
      (kept char (mem_of_mem_splitOn inSplit member).1).1]
  unfold ofChars
  dsimp only
  rw [slashes, pieces]
  obtain ⟨before, last⟩ := path
  refine walk_of_isOrdinary (fun segment member => ?_) ?_ []
  · exact resolved segment (List.mem_append_left _ member)
  · exact resolved last (List.mem_append_right _ List.mem_cons_self)

end Resolved

end Path

end ProbeLifecycle
