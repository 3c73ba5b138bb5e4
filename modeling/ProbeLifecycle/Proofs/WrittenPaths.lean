import ProbeLifecycle.Proofs.AddedSegments
import ProbeLifecycle.Url.Basic

/-!
# Paths as they are written

A path is written with a slash before each segment.  As long as no segment holds a
slash, the segments can be read off the text, and as long as none holds the mark of
a query or a fragment, the path ends where it should.  Paths that are read keep to
this, and adding a text to one does too, whatever the text.
-/

namespace ProbeLifecycle

open Text

section Kept

variable {escaped : List Char} {char other : Char}

theorem ne_of_visibleExcept
    (kept : visibleExcept escaped char = true) (listed : other ∈ escaped) :
    char ≠ other := by
  rintro rfl
  rw [visibleExcept, Bool.and_eq_true, Bool.not_eq_true', List.contains_eq_mem,
    decide_eq_false_iff_not] at kept
  exact kept.2 listed

theorem lt_of_visibleExcept
    (kept : visibleExcept escaped char = true) (listed : ' ' ∈ escaped) :
    0x20 < char.toNat := by
  have notSpace := ne_of_visibleExcept kept listed
  rw [visibleExcept, isVisibleAscii, Bool.and_eq_true, Bool.and_eq_true,
    decide_eq_true_eq] at kept
  refine Nat.lt_of_le_of_ne kept.1.1 fun isSpace => notSpace ?_
  exact Char.toNat_inj.mp isSpace.symm

end Kept

namespace Path

/-- Text that is one segment of a path wherever it is written. -/
def IsCleanSegment (segment : String) : Prop :=
  ∀ char ∈ segment.toList, isPathChar char = true ∧ char ≠ '/' ∧ char ≠ '\\'

def IsClean (path : Path) : Prop :=
  ∀ segment ∈ path.segments, IsCleanSegment segment

/-- The segments that the text of a path shows. -/
def shown (path : Path) : List String :=
  ((path.chars.drop 1).splitOn '/').map String.ofList

def withoutEmptyEnd (segments : List String) : List String :=
  if segments.getLast? = some "" then segments.dropLast else segments

section Segments

variable {path : Path} {segment text : String} {segments before : List String}

theorem withoutEmptyEnd_segments (path : Path) :
    withoutEmptyEnd path.segments =
      if path.last = "" then path.before else path.segments := by
  simp [withoutEmptyEnd, Path.segments]

theorem isCleanSegment_empty : IsCleanSegment "" := by
  simp [IsCleanSegment]

theorem isClean_escape {char : Char} (escape : char ∈ escapeChars) :
    isPathChar char = true ∧ char ≠ '/' ∧ char ≠ '\\' := by
  have all : ∀ char ∈ escapeChars, isPathChar char = true ∧ char ≠ '/' ∧ char ≠ '\\' :=
    List.all_iff_forall_prop.mp (by decide)
  exact all char escape

theorem isClean_segmentChar {char : Char} (kept : isSegmentChar char = true) :
    isPathChar char = true ∧ char ≠ '/' ∧ char ≠ '\\' := by
  simp only [isSegmentChar, isPathChar, visibleExcept, Bool.and_eq_true,
    Bool.not_eq_true', List.contains_eq_mem, decide_eq_false_iff_not,
    List.mem_cons, List.not_mem_nil, or_false, not_or] at kept ⊢
  simp [kept]

theorem isCleanSegment_encodeSegment (text : String) :
    IsCleanSegment (encodeSegment text) := by
  intro char member
  unfold encodeSegment at member
  rw [String.toList_ofList] at member
  rcases mem_percentEncode member with ⟨-, kept⟩ | escape
  · exact isClean_segmentChar kept
  · exact isClean_escape escape

theorem mem_parent (member : segment ∈ parent segments) : segment ∈ segments := by
  unfold parent at member
  split at member
  · split at member
    · exact member
    · exact (List.dropLast_sublist segments).subset member
  · cases member

theorem mem_descend (member : segment ∈ descend segments text) :
    segment ∈ segments ∨ segment = text := by
  unfold descend at member
  split at member
  · exact .inl (mem_parent member)
  · split at member
    · exact .inl member
    · simpa using member

theorem mem_ending (member : segment ∈ (ending before text).segments) :
    segment ∈ before ∨ segment = text ∨ segment = "" := by
  have of_mk : ∀ {front last}, segment ∈ (Path.mk front last).segments →
      segment ∈ front ∨ segment = last := by
    intro front last member
    simpa [Path.segments] using member
  unfold ending at member
  split at member
  · rcases of_mk member with inParent | empty
    · exact .inl (mem_parent inParent)
    · exact .inr (.inr empty)
  · split at member
    · rcases of_mk member with inBefore | empty
      · exact .inl inBefore
      · exact .inr (.inr empty)
    · rcases of_mk member with inBefore | equal
      · exact .inl inBefore
      · exact .inr (.inl equal)

/-- Going through segments leaves no others, besides the empty one. -/
theorem mem_walk (member : segment ∈ (walk before segments).segments) :
    segment ∈ before ∨ segment ∈ segments ∨ segment = "" := by
  induction segments generalizing before with
  | nil => simpa [walk, Path.segments] using member
  | cons first rest ih =>
      cases rest with
      | nil =>
          rcases mem_ending member with inBefore | equal | empty
          · exact .inl inBefore
          · exact .inr (.inl (by simp [equal]))
          · exact .inr (.inr empty)
      | cons second rest =>
          rcases ih member with inDescent | inRest | empty
          · rcases mem_descend inDescent with inBefore | equal
            · exact .inl inBefore
            · exact .inr (.inl (by simp [equal]))
          · exact .inr (.inl (List.mem_cons_of_mem _ inRest))
          · exact .inr (.inr empty)

theorem mem_of_mem_splitOn {separator char : Char} {chars piece : List Char}
    (inSplit : piece ∈ chars.splitOn separator) (member : char ∈ piece) :
    char ∈ chars ∧ char ≠ separator := by
  induction chars generalizing piece with
  | nil =>
      rw [List.splitOn_nil, List.mem_singleton] at inSplit
      subst inSplit
      cases member
  | cons first chars ih =>
      rw [List.splitOn_cons_eq_if_modifyHead] at inSplit
      split at inSplit
      · rcases List.mem_cons.mp inSplit with rfl | later
        · cases member
        · have inRest := ih later member
          exact ⟨List.mem_cons_of_mem _ inRest.1, inRest.2⟩
      · rename_i notSeparator
        cases split : chars.splitOn separator with
        | nil => exact absurd split (List.splitOn_ne_nil _ _)
        | cons head pieces =>
            rw [split] at ih inSplit
            rcases List.mem_cons.mp inSplit with rfl | later
            · rcases List.mem_cons.mp member with rfl | inHead
              · exact ⟨List.mem_cons_self, by simpa using notSeparator⟩
              · have inRest := ih List.mem_cons_self inHead
                exact ⟨List.mem_cons_of_mem _ inRest.1, inRest.2⟩
            · have inRest := ih (List.mem_cons_of_mem _ later) member
              exact ⟨List.mem_cons_of_mem _ inRest.1, inRest.2⟩

theorem isClean_ofChars (chars : List Char) : (ofChars chars).IsClean := by
  intro segment member
  rcases mem_walk member with none | inPieces | rfl
  · cases none
  · obtain ⟨piece, inSplit, rfl⟩ := List.mem_map.mp inPieces
    intro char written
    rw [String.toList_ofList] at written
    rcases mem_percentEncode written with ⟨inPiece, kept⟩ | escape
    · obtain ⟨inChars, notSlash⟩ := mem_of_mem_splitOn inSplit inPiece
      refine ⟨kept, notSlash, ?_⟩
      rintro rfl
      obtain ⟨source, -, isBackslash⟩ := List.mem_map.mp inChars
      split at isBackslash
      · cases isBackslash
      · rename_i notBackslash
        exact notBackslash isBackslash
    · exact isClean_escape escape
  · exact isCleanSegment_empty

theorem mem_popIfEmpty (member : segment ∈ path.popIfEmpty.segments) :
    segment ∈ path.segments := by
  unfold Path.popIfEmpty at member
  split at member
  · split at member
    · rename_i last isLast
      obtain ⟨front, before_eq⟩ := List.getLast?_eq_some_iff.mp isLast
      simp only [Path.segments, before_eq, List.dropLast_concat] at member ⊢
      exact List.mem_append_left _ member
    · exact member
  · exact member

theorem IsClean.popIfEmpty (clean : path.IsClean) : path.popIfEmpty.IsClean :=
  fun segment member => clean segment (mem_popIfEmpty member)

theorem mem_base (member : segment ∈ path.base) : segment ∈ path.segments := by
  unfold base at member
  split at member
  · cases member
  · exact member

theorem IsClean.push (clean : path.IsClean) (text : String) :
    (path.push text).IsClean := by
  unfold Path.push
  split
  · exact clean
  · intro segment member
    rcases mem_ending member with inBase | rfl | rfl
    · exact clean segment (mem_base inBase)
    · exact isCleanSegment_encodeSegment text
    · exact isCleanSegment_empty

theorem IsClean.extend (clean : path.IsClean) (texts : List String) :
    (path.extend texts).IsClean := by
  unfold Path.extend
  induction texts generalizing path with
  | nil => exact clean
  | cons text texts ih => exact ih (clean.push text)

end Segments

section Texts

variable {path : Path}

/-- The text of a path, less its first slash, joins the segments by slashes. -/
theorem chars_eq (path : Path) :
    path.chars = '/' :: ['/'].intercalate (path.segments.map String.toList) := by
  have joined : ∀ (first : String) (rest : List String),
      (first :: rest).flatMap (fun segment => '/' :: segment.toList) =
        '/' :: ['/'].intercalate ((first :: rest).map String.toList) := by
    intro first rest
    induction rest generalizing first with
    | nil => simp
    | cons second rest ih =>
        rw [List.flatMap_cons, ih second]
        simp
  unfold chars
  obtain ⟨before, last⟩ := path
  cases before with
  | nil => exact joined _ _
  | cons first before => exact joined _ _

theorem IsClean.shown_eq (clean : path.IsClean) : path.shown = path.segments := by
  unfold shown
  rw [chars_eq, List.drop_one, List.tail_cons, List.splitOn_intercalate]
  · simp [Function.comp_def]
  · intro chars member inside
    obtain ⟨segment, inSegments, rfl⟩ := List.mem_map.mp member
    exact (clean segment inSegments '/' inside).2.1 rfl
  · simp [Path.segments]

theorem IsClean.mem_chars (clean : path.IsClean) {char : Char}
    (member : char ∈ path.chars) : isPathChar char = true ∧ char ≠ '\\' := by
  obtain ⟨segment, inSegments, written⟩ := List.mem_flatMap.mp member
  rcases List.mem_cons.mp written with rfl | inSegment
  · decide
  · have kept := clean segment inSegments char inSegment
    exact ⟨kept.1, kept.2.2⟩

theorem IsClean.unmarked (clean : path.IsClean) :
    ∀ char ∈ path.chars, char ≠ '?' ∧ char ≠ '#' := by
  intro char member
  have kept := (clean.mem_chars member).1
  exact ⟨ne_of_visibleExcept kept (by decide), ne_of_visibleExcept kept (by decide)⟩

end Texts

end Path

end ProbeLifecycle
