import ProbeLifecycle.Probe.Collection
import ProbeLifecycle.Proofs.WrittenAddresses

/-!
# Collections that are accepted

The address of a collection is the base address itself or the base address with
three more segments.  Its path is clean and is never just slashes, so what is added
to it comes after all of its segments, but for a single empty one at the end.
-/

namespace ProbeLifecycle

open Text

/-- Addresses that differ in their paths only are told apart by these. -/
theorem Url.text_inj_path {url : Url} {path other : Path} :
    { url with path := path }.text = { url with path := other }.text ↔
      path.chars = other.chars := by
  simp only [text, target, credentialsText, ← String.toList_inj,
    String.toList_append, String.toList_ofList, List.append_assoc,
    List.append_cancel_left_eq, List.append_cancel_right_eq]

theorem Url.shown_eq_of_text_eq {url : Url} {path other : Path}
    (equal : { url with path := path }.text = { url with path := other }.text) :
    path.shown = other.shown := by
  unfold Path.shown
  rw [text_inj_path.mp equal]

namespace Path

variable {path : Path}

theorem segments_popIfEmpty (notRoot : path ≠ root) :
    path.popIfEmpty.segments = withoutEmptyEnd path.segments := by
  rw [withoutEmptyEnd_segments]
  obtain ⟨before, last⟩ := path
  unfold popIfEmpty
  by_cases empty : last = ""
  · simp only [empty, if_true]
    cases isLast : before.getLast? with
    | none =>
        rw [List.getLast?_eq_none_iff.mp isLast, empty] at notRoot
        exact absurd rfl notRoot
    | some final =>
        obtain ⟨front, rfl⟩ := List.getLast?_eq_some_iff.mp isLast
        simp [Path.segments]
  · simp only [empty, if_false]

/-- What is added to a path comes after its segments, less an empty one at the end.
Two slashes are an exception: one is taken off and the other is replaced. -/
theorem base_popIfEmpty (notTwoSlashes : path ≠ ⟨[""], ""⟩) :
    path.popIfEmpty.base = withoutEmptyEnd path.segments := by
  by_cases isRoot : path = root
  · rw [isRoot]
    rfl
  · have popped := segments_popIfEmpty isRoot
    unfold base
    rw [if_neg, popped]
    -- Only two slashes are one slash without an empty segment at the end.
    intro poppedRoot
    rw [poppedRoot, withoutEmptyEnd_segments] at popped
    obtain ⟨before, last⟩ := path
    split at popped
    · rename_i empty
      exact notTwoSlashes (Path.mk.injEq .. ▸ ⟨popped.symm, empty⟩)
    · rename_i notEmpty
      obtain ⟨-, isLast⟩ := List.append_inj' popped rfl
      exact notEmpty (List.singleton_inj.mp isLast).symm

/-- A path to which segments are added after all of its own, less an empty one at
the end. -/
structure IsProper (path : Path) : Prop where
  clean : path.IsClean
  notRoot : path ≠ root
  notTwoSlashes : path ≠ ⟨[""], ""⟩

namespace IsProper

variable (proper : path.IsProper)
include proper

theorem segments_eq :
    path.popIfEmpty.segments = withoutEmptyEnd path.shown := by
  rw [proper.clean.shown_eq, segments_popIfEmpty proper.notRoot]

theorem base_eq : path.popIfEmpty.base = withoutEmptyEnd path.shown := by
  rw [proper.clean.shown_eq, base_popIfEmpty proper.notTwoSlashes]

end IsProper

end Path

namespace Collection

/-- The address that the text of a base address gives, if it is one of the web. -/
def baseUrl? (base : String) : Option Url :=
  match Address.read (.ofList (stripEnd (· == '/') base.toList)) with
  | .ok (.web url) => some url
  | _ => none

section Resolving

variable {base tenant : String} {site url : Url} {collection : Collection}

theorem isWritten_baseUrl (given : baseUrl? base = some site) : site.IsWritten := by
  unfold baseUrl? at given
  split at given
  · rename_i read
    cases given
    exact Url.isWritten_of_read read
  · cases given

theorem isClean_baseUrl (given : baseUrl? base = some site) : site.path.IsClean :=
  (isWritten_baseUrl given).clean

/-- The address of a collection is that of the base if its path names probes, and
otherwise has the tenant's segments added. -/
theorem resolve_eq_ok :
    resolve base tenant = .ok url ↔
      ∃ site, baseUrl? base = some site ∧
        ((occursIn marker.toList site.path.chars = true ∧ url = site) ∨
          (occursIn marker.toList site.path.chars = false ∧ tenant ≠ "" ∧
            url = site.extendPath (segments tenant))) := by
  unfold resolve baseUrl?
  generalize Address.read _ = read
  cases read with
  | error reason => simp
  | ok address =>
      cases address with
      | other => simp
      | web site =>
          simp only [Option.some.injEq, exists_eq_left']
          cases named : occursIn marker.toList site.path.chars with
          | true => simp [eq_comm]
          | false =>
              by_cases noTenant : tenant = ""
              · simp [noTenant]
              · simp [noTenant, site.cannotBeBase_eq_false, eq_comm]

theorem segments_extend (path : Path) (tenant : String) :
    (path.extend (segments tenant)).segments =
      (path.push tenant).base ++ ["metrics", "probes"] := by
  have metrics : Path.IsLiteral "metrics" := by decide
  have probes : Path.IsLiteral "probes" := by decide
  have encoded : Path.encodeSegment "metrics" = "metrics" := by decide
  have encodedToo : Path.encodeSegment "probes" = "probes" := by decide
  change (((path.push tenant).push "metrics").push "probes").segments = _
  rw [Path.push_of_isLiteral metrics, Path.push_of_isLiteral probes, encoded,
    encodedToo]
  simp [Path.base, Path.segments, Path.root]

theorem isProper_of_ofBase (accepted : ofBase base tenant = .ok collection) :
    collection.url.path.IsProper := by
  have resolved : resolve base tenant = .ok collection.url := by
    unfold ofBase at accepted
    cases resolved : resolve base tenant with
    | error error => simp [resolved, Except.map] at accepted
    | ok url =>
        rw [resolved] at accepted
        cases accepted
        rfl
  obtain ⟨site, given, ⟨named, isSite⟩ | ⟨-, -, isExtended⟩⟩ :=
    resolve_eq_ok.mp resolved
  · rw [isSite]
    refine ⟨isClean_baseUrl given, ?_, ?_⟩
    · intro isRoot
      rw [isRoot] at named
      exact absurd named (by decide)
    · intro isTwoSlashes
      rw [isTwoSlashes] at named
      exact absurd named (by decide)
  · have isExtension := segments_extend site.path.popIfEmpty tenant
    rw [isExtended]
    have last : ∀ path, path.last = "" → site.path.popIfEmpty.extend
        (segments tenant) ≠ path := by
      rintro path empty rfl
      have isLast := congrArg List.getLast? isExtension
      simp [Path.segments, empty] at isLast
    exact ⟨(isClean_baseUrl given).popIfEmpty.extend _, last _ rfl, last _ rfl⟩

end Resolving

end Collection

end ProbeLifecycle
