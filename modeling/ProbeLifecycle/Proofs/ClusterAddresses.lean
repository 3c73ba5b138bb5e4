import ProbeLifecycle.Probe.Client
import ProbeLifecycle.Proofs.AcceptedCollections

/-!
# Addresses of clusters

To terminate the probe of a cluster, a request goes to the place that the cluster's
identifier names in the collection.  For literal identifiers this is one segment
below the collection and different for different clusters.  No identifier changes
anything of the address but its path.  Of those that are not literal, some share an
address, and some lead out of the collection.
-/

namespace ProbeLifecycle

open ProbeLifecycle.Path Text

/-- The address with one more slash at the end of its path. -/
def Url.slashed (url : Url) : Url :=
  { url with path := ⟨url.path.segments, ""⟩ }

/-- The address to which a cluster's termination goes is one segment below the
collection, and this stands for the cluster. -/
structure ProbeClient.SetsApart (client : ProbeClient) (clusterId : String) :
    Prop where
  below : ∃ segment,
    (client.callUrl (.terminate clusterId)).path.shown =
        withoutEmptyEnd client.collection.url.path.shown ++ [segment] ∧
      percentDecoded? segment = some clusterId
  notCollection :
    (client.callUrl (.terminate clusterId)).text ≠ client.collection.url.text
  notSlashed :
    (client.callUrl (.terminate clusterId)).text ≠
      client.collection.url.slashed.text

/-- An address differs from another in its path only, and this goes on where the
other path ends, less an empty segment at the end. -/
structure Url.StaysWithin (url whole : Url) : Prop where
  elsewhere : url = { whole with path := url.path }
  unmarked : ∀ char ∈ url.path.chars, char ≠ '?' ∧ char ≠ '#'
  below : withoutEmptyEnd whole.path.shown <+: url.path.shown

/-- Going up from a place does not leave it: the last of its segments is empty, so
that only a slash is lost, or it is like a drive, which is never left. -/
def IsHeld (segments : List String) : Prop :=
  ∃ last, segments.getLast? = some last ∧ (last = "" ∨ isDrive last = true)

section Segments

variable {segments : List String} {segment : String}

theorem withoutEmptyEnd_append_ne (notEmpty : segment ≠ "") :
    withoutEmptyEnd segments ++ [segment] ≠ segments := by
  unfold withoutEmptyEnd
  split
  · rename_i last
    obtain ⟨front, rfl⟩ := List.getLast?_eq_some_iff.mp last
    simpa using notEmpty
  · simp

/-- The place above, with a slash, is still below a place that is held. -/
theorem prefix_parent_iff (nonempty : segments ≠ []) :
    segments <+: parent segments ++ [""] ↔ IsHeld segments := by
  unfold parent IsHeld
  cases isLast : segments.getLast? with
  | none => exact absurd (List.getLast?_eq_none_iff.mp isLast) nonempty
  | some last =>
      obtain ⟨front, rfl⟩ := List.getLast?_eq_some_iff.mp isLast
      cases drive : isDrive last with
      | true => simp [drive]
      | false => simp [drive, List.prefix_append_right_inj]

end Segments

/-- The path at which a text is added to a path, less an empty segment at the end. -/
def Path.below (path : Path) (text : String) : Path :=
  path.popIfEmpty.push text

namespace Path.IsProper

variable {path : Path} {text other : String} (proper : path.IsProper)
include proper

theorem withoutEmptyEnd_ne_nil : withoutEmptyEnd path.shown ≠ [] := by
  rw [← proper.segments_eq]
  simp [Path.segments]

theorem isClean_below (text : String) : (path.below text).IsClean :=
  proper.clean.popIfEmpty.push text

theorem shown_below (literal : IsLiteral text) :
    (path.below text).shown =
      withoutEmptyEnd path.shown ++ [encodeSegment text] := by
  rw [(proper.isClean_below text).shown_eq, below, push_of_isLiteral literal,
    ← proper.base_eq]
  rfl

theorem isLiteral_of_shown_below {segment : String} (notEmpty : text ≠ "")
    (shown : (path.below text).shown = withoutEmptyEnd path.shown ++ [segment])
    (decoded : percentDecoded? segment = some text) : IsLiteral text := by
  rw [(proper.isClean_below text).shown_eq] at shown
  have notRoot : path.below text ≠ root := by
    intro isRoot
    rw [isRoot] at shown
    obtain ⟨-, isEmpty⟩ := List.append_inj' shown rfl
    rw [← List.singleton_inj.mp isEmpty] at decoded
    exact notEmpty (Option.some.inj decoded).symm
  have place : (path.below text).base = withoutEmptyEnd path.shown ++ [segment] := by
    rw [base, if_neg notRoot, shown]
  have enough := Nat.le_of_eq (congrArg List.length proper.base_eq)
  exact (isLiteral_of_base_push notEmpty enough place decoded).1

/-- What a literal text names is neither the place itself nor the place with one
more slash. -/
theorem shown_below_ne (literal : IsLiteral text) (notEmpty : text ≠ "") :
    (path.below text).shown ≠ path.shown ∧
      (path.below text).shown ≠ (Path.mk path.segments "").shown := by
  have segment_ne : encodeSegment text ≠ "" := by
    rw [Ne, encodeSegment_eq_empty, literal.significant_eq]
    exact notEmpty
  have slashed : (Path.mk path.segments "").IsClean := by
    intro segment member
    rcases List.mem_append.mp member with inPath | isLast
    · exact proper.clean segment inPath
    · rw [List.mem_singleton.mp isLast]
      exact isCleanSegment_empty
  rw [proper.shown_below literal]
  constructor
  · exact withoutEmptyEnd_append_ne segment_ne
  · rw [slashed.shown_eq]
    intro equal
    obtain ⟨-, isEmpty⟩ := List.append_inj' equal rfl
    exact segment_ne (List.singleton_inj.mp isEmpty)

theorem shown_below_inj (literal : IsLiteral text) (literalToo : IsLiteral other)
    (equal : (path.below text).shown = (path.below other).shown) :
    text = other := by
  rw [proper.shown_below literal, proper.shown_below literalToo] at equal
  obtain ⟨-, sameSegment⟩ := List.append_inj' equal rfl
  have sameText := encodeSegment_eq_iff.mp (List.singleton_inj.mp sameSegment)
  rwa [literal.significant_eq, literalToo.significant_eq] at sameText

/-- A text leads out of a place exactly if it is two dots only when ignored
characters are left out, and the place is not held. -/
theorem prefix_below_iff (text : String) :
    withoutEmptyEnd path.shown <+: (path.below text).shown ↔
      (text ≠ ".." → significant text = ".." →
        IsHeld (withoutEmptyEnd path.shown)) := by
  rw [(proper.isClean_below text).shown_eq]
  have adds : path.popIfEmpty.Adds text (path.below text) := adds_push _ text
  generalize path.below text = pushed at adds ⊢
  cases adds with
  | nothing isDots =>
      rw [proper.segments_eq]
      refine iff_of_true (List.prefix_refl _) ?_
      rintro notAbove above
      rcases isDots with rfl | rfl
      · exact absurd above (by decide)
      · exact absurd rfl notAbove
  | above isNotPlain hidden =>
      rw [proper.base_eq]
      simp only [Path.segments, prefix_parent_iff proper.withoutEmptyEnd_ne_nil,
        isNotPlain, hidden, ne_eq, not_false_eq_true, true_imp_iff]
  | slash isNotPlain hidden =>
      rw [proper.base_eq]
      refine iff_of_true (List.prefix_append _ _) ?_
      rintro - above
      rw [above] at hidden
      exact absurd hidden (by decide)
  | segment notAbove notHere notEmpty =>
      rw [proper.base_eq]
      refine iff_of_true (List.prefix_append _ _) ?_
      rintro - above
      exact absurd above notAbove

end Path.IsProper

namespace ProbeClient

variable {base tenant : String} {client : ProbeClient} {clusterId other : String}

theorem setsApart_iff (proper : client.collection.url.path.IsProper)
    (notEmpty : clusterId ≠ "") :
    client.SetsApart clusterId ↔ IsLiteral clusterId := by
  constructor
  · rintro ⟨⟨segment, shown, decoded⟩, -, -⟩
    exact proper.isLiteral_of_shown_below notEmpty shown decoded
  · intro literal
    obtain ⟨notCollection, notSlashed⟩ := proper.shown_below_ne literal notEmpty
    refine ⟨⟨_, proper.shown_below literal, ?_⟩, ?_, ?_⟩
    · rw [percentDecoded?_encodeSegment, literal.significant_eq]
    · exact fun equal => notCollection (Url.shown_eq_of_text_eq equal)
    · exact fun equal => notSlashed (Url.shown_eq_of_text_eq equal)

/-- With every accepted client, two clusters are set apart, from each other and
from the collection, exactly if both identifiers are literal: no dot segments and
without the characters that addresses ignore. -/
theorem terminations_apart_iff
    (accepted : Collection.ofBase base tenant = .ok client.collection)
    (differ : clusterId ≠ other) (named : isBlank clusterId = false)
    (namedToo : isBlank other = false) :
    (client.SetsApart clusterId ∧ client.SetsApart other ∧
        (client.callUrl (.terminate clusterId)).text ≠
          (client.callUrl (.terminate other)).text) ↔
      IsLiteral clusterId ∧ IsLiteral other := by
  have proper := Collection.isProper_of_ofBase accepted
  have notEmpty : ∀ id, isBlank id = false → id ≠ "" := by
    rintro id notBlank rfl
    cases notBlank
  rw [setsApart_iff proper (notEmpty _ named),
    setsApart_iff proper (notEmpty _ namedToo)]
  constructor
  · rintro ⟨literal, literalToo, -⟩
    exact ⟨literal, literalToo⟩
  · rintro ⟨literal, literalToo⟩
    refine ⟨literal, literalToo, fun equal => differ ?_⟩
    exact proper.shown_below_inj literal literalToo
      (Url.shown_eq_of_text_eq equal)

set_option maxRecDepth 4000 in
/-- With identifiers of which one is the encoding of the other, and a collection that
ends in a slash. -/
theorem terminations_apart_encoded :
    let client : ProbeClient :=
      ⟨⟨{ scheme := .https, host := "h", path := ⟨["probes"], ""⟩,
          query := some "q" }, "hcp"⟩, none⟩
    Collection.ofBase "https://h/probes/?q" "hcp" = .ok client.collection ∧
      "a/b" ≠ "a%2Fb" ∧ isBlank "a/b" = false ∧ isBlank "a%2Fb" = false ∧
      client.SetsApart "a/b" ∧ client.SetsApart "a%2Fb" ∧
      (client.callUrl (.terminate "a/b")).text ≠
        (client.callUrl (.terminate "a%2Fb")).text := by
  intro client
  have accepted :
      Collection.ofBase "https://h/probes/?q" "hcp" = .ok client.collection :=
    rfl
  have differ : "a/b" ≠ "a%2Fb" := by decide
  have apart := terminations_apart_iff accepted differ (by decide) (by decide)
  exact ⟨accepted, differ, by decide, by decide,
    apart.mpr ⟨by decide, by decide⟩⟩

set_option maxRecDepth 4000 in
/-- Plain dots are no segments, so that the collection itself is addressed, and an
ignored character does not tell identifiers apart. -/
theorem terminations_collide :
    let client : ProbeClient :=
      ⟨⟨{ scheme := .https, host := "h",
          path := ⟨["p", "hcp", "metrics"], "probes"⟩ }, "hcp"⟩, none⟩
    Collection.ofBase "https://h/p" "hcp" = .ok client.collection ∧
      isBlank "." = false ∧ isBlank ".." = false ∧
      client.callUrl (.terminate ".") = client.collection.url ∧
      client.callUrl (.terminate "..") = client.collection.url ∧
      isBlank "a\tb" = false ∧ isBlank "ab" = false ∧
      client.callUrl (.terminate "a\tb") = client.callUrl (.terminate "ab") := by
  exact ⟨rfl, by decide +kernel⟩

/-- With every accepted client, a termination stays within the collection, exactly
unless the identifier becomes two dots only when the characters that addresses
ignore are left out, and the collection is not held. -/
theorem terminate_staysWithin_iff
    (accepted : Collection.ofBase base tenant = .ok client.collection)
    (clusterId : String) :
    (client.callUrl (.terminate clusterId)).StaysWithin client.collection.url ↔
      (clusterId ≠ ".." → significant clusterId = ".." →
        IsHeld (withoutEmptyEnd client.collection.url.path.shown)) := by
  have proper := Collection.isProper_of_ofBase accepted
  rw [← proper.prefix_below_iff clusterId]
  constructor
  · rintro ⟨-, -, below⟩
    exact below
  · intro below
    exact ⟨rfl, (proper.isClean_below clusterId).unmarked, below⟩

set_option maxRecDepth 4000 in
/-- With an identifier that is full of what could be taken for steps and marks. -/
theorem terminate_staysWithin_marks :
    let client : ProbeClient :=
      ⟨⟨{ scheme := .https, host := "h", path := ⟨["probes"], ""⟩,
          query := some "q" }, "hcp"⟩, none⟩
    Collection.ofBase "https://h/probes/?q" "hcp" = .ok client.collection ∧
      (client.callUrl (.terminate "../%2e%2e\\?a#b\té")).StaysWithin
        client.collection.url := by
  intro client
  have accepted :
      Collection.ofBase "https://h/probes/?q" "hcp" = .ok client.collection :=
    rfl
  refine ⟨accepted, (terminate_staysWithin_iff accepted _).mpr ?_⟩
  rintro - above
  exact absurd above (by decide)

set_option maxRecDepth 4000 in
/-- Two dots with a tab between them lead out of the collection. -/
theorem terminate_escapes :
    let client : ProbeClient :=
      ⟨⟨{ scheme := .https, host := "h",
          path := ⟨["p", "hcp", "metrics"], "probes"⟩ }, "hcp"⟩, none⟩
    Collection.ofBase "https://h/p" "hcp" = .ok client.collection ∧
      (client.callUrl (.terminate ".\t.")).text = "https://h/p/hcp/metrics/" ∧
      ¬ withoutEmptyEnd client.collection.url.path.shown <+:
        (client.callUrl (.terminate ".\t.")).path.shown := by
  exact ⟨rfl, by decide +kernel⟩

end ProbeClient

end ProbeLifecycle
