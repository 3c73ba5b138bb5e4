import ProbeLifecycle.Proofs.AcceptedCollections

/-!
# Collections of tenants

With a base address that does not name probes itself, the tenant becomes a segment
of the collection's address.  Literal tenants have collections of their own, below
all of the base address.  Of those that are not literal the segment is lost or
stands for another tenant, so that collections are shared.
-/

namespace ProbeLifecycle

open ProbeLifecycle.Path Text

/-- The address goes on after that of the site, less an empty segment at its end,
with a segment that stands for the tenant and the two that name the probes. -/
def Url.BelongsTo (url : Url) (tenant : String) (site : Url) : Prop :=
  ∃ segment,
    url.path.shown =
        withoutEmptyEnd site.path.shown ++ [segment, "metrics", "probes"] ∧
      percentDecoded? segment = some tenant

namespace Path

variable {path : Path} {text : String}

/-- The place of a text below a path is one segment that stands for it, exactly if
the text is literal and the path is not just two slashes. -/
theorem base_push_iff (notEmpty : text ≠ "") :
    (∃ segment,
        (path.popIfEmpty.push text).base =
            withoutEmptyEnd path.segments ++ [segment] ∧
          percentDecoded? segment = some text) ↔
      IsLiteral text ∧ path ≠ ⟨[""], ""⟩ := by
  constructor
  · rintro ⟨segment, place, decoded⟩
    -- Two slashes keep fewer segments than they should, all others as many.
    have enough : path.popIfEmpty.base.length ≤
        (withoutEmptyEnd path.segments).length := by
      by_cases twoSlashes : path = ⟨[""], ""⟩
      · rw [twoSlashes]
        decide
      · exact Nat.le_of_eq (congrArg List.length (base_popIfEmpty twoSlashes))
    obtain ⟨literal, sameBase⟩ :=
      isLiteral_of_base_push notEmpty enough place decoded
    refine ⟨literal, ?_⟩
    rintro rfl
    exact absurd sameBase (by decide)
  · rintro ⟨literal, notTwoSlashes⟩
    have encoded : encodeSegment text ≠ "" := by
      rw [Ne, encodeSegment_eq_empty, literal.significant_eq]
      exact notEmpty
    refine ⟨encodeSegment text, ?_, ?_⟩
    · rw [push_of_isLiteral literal, base_popIfEmpty notTwoSlashes]
      simp [base, root, encoded, Path.segments]
    · rw [percentDecoded?_encodeSegment, literal.significant_eq]

end Path

namespace Collection

variable {base tenant other : String} {site url urlToo : Url}

theorem resolve_unnamed (given : baseUrl? base = some site)
    (unnamed : occursIn marker.toList site.path.chars = false)
    (resolved : resolve base tenant = .ok url) :
    tenant ≠ "" ∧ url = site.extendPath (segments tenant) := by
  obtain ⟨siteToo, givenToo, found⟩ := resolve_eq_ok.mp resolved
  obtain rfl : site = siteToo := Option.some.inj (given.symm.trans givenToo)
  rcases found with ⟨named, -⟩ | ⟨-, extended⟩
  · rw [unnamed] at named
    cases named
  · exact extended

/-- The collection of a tenant is its own, exactly if the tenant is literal and the
path of the site is not just two slashes. -/
theorem belongsTo_iff (clean : site.path.IsClean) (notEmpty : tenant ≠ "") :
    (site.extendPath (segments tenant)).BelongsTo tenant site ↔
      IsLiteral tenant ∧ site.path ≠ ⟨[""], ""⟩ := by
  have shown : (site.extendPath (segments tenant)).path.shown =
      (site.path.popIfEmpty.push tenant).base ++ ["metrics", "probes"] := by
    rw [← segments_extend]
    exact (clean.popIfEmpty.extend _).shown_eq
  rw [← base_push_iff notEmpty, ← clean.shown_eq]
  refine exists_congr fun segment => and_congr_left fun _ => ?_
  rw [shown, List.append_cons (withoutEmptyEnd _), List.append_cancel_right_eq]

theorem text_ne_of_belongsTo (differ : tenant ≠ other)
    (own : (site.extendPath (segments tenant)).BelongsTo tenant site)
    (ownToo : (site.extendPath (segments other)).BelongsTo other site) :
    (site.extendPath (segments tenant)).text ≠
      (site.extendPath (segments other)).text := by
  intro equal
  obtain ⟨segment, shown, decoded⟩ := own
  obtain ⟨segmentToo, shownToo, decodedToo⟩ := ownToo
  have same : _ ++ [segment, "metrics", "probes"] =
      _ ++ [segmentToo, "metrics", "probes"] :=
    shown.symm.trans ((Url.shown_eq_of_text_eq equal).trans shownToo)
  obtain ⟨-, sameEnd⟩ := List.append_inj' same rfl
  obtain ⟨sameSegment, -⟩ := List.cons.inj sameEnd
  rw [sameSegment, decodedToo] at decoded
  exact differ (Option.some.inj decoded).symm

/-- With a base address that does not name probes, two tenants have collections of
their own, which differ, exactly if both are literal and the path of the base
address is not just two slashes. -/
theorem collections_apart_iff (given : baseUrl? base = some site)
    (unnamed : occursIn marker.toList site.path.chars = false)
    (differ : tenant ≠ other) (resolved : resolve base tenant = .ok url)
    (resolvedToo : resolve base other = .ok urlToo) :
    (url.text ≠ urlToo.text ∧ url.BelongsTo tenant site ∧
        urlToo.BelongsTo other site) ↔
      IsLiteral tenant ∧ IsLiteral other ∧ site.path ≠ ⟨[""], ""⟩ := by
  have clean := isClean_baseUrl given
  obtain ⟨notEmpty, rfl⟩ := resolve_unnamed given unnamed resolved
  obtain ⟨notEmptyToo, rfl⟩ := resolve_unnamed given unnamed resolvedToo
  constructor
  · rintro ⟨-, own, ownToo⟩
    exact ⟨((belongsTo_iff clean notEmpty).mp own).1,
      (belongsTo_iff clean notEmptyToo).mp ownToo⟩
  · rintro ⟨literal, literalToo, notTwoSlashes⟩
    have own := (belongsTo_iff clean notEmpty).mpr ⟨literal, notTwoSlashes⟩
    have ownToo :=
      (belongsTo_iff clean notEmptyToo).mpr ⟨literalToo, notTwoSlashes⟩
    exact ⟨text_ne_of_belongsTo differ own ownToo, own, ownToo⟩

set_option maxRecDepth 4000 in
/-- With tenants of which one is the encoding of the other, and an address that ends
in a slash. -/
theorem collections_apart_encoded :
    let site : Url :=
      { scheme := .https, host := "h", path := ⟨["p"], ""⟩, query := some "q" }
    let url : Url := { site with path := ⟨["p", "a%2Fb", "metrics"], "probes"⟩ }
    let urlToo : Url :=
      { site with path := ⟨["p", "a%252Fb", "metrics"], "probes"⟩ }
    baseUrl? "https://h/p/?q" = some site ∧
      occursIn marker.toList site.path.chars = false ∧ "a/b" ≠ "a%2Fb" ∧
      resolve "https://h/p/?q" "a/b" = .ok url ∧
      resolve "https://h/p/?q" "a%2Fb" = .ok urlToo ∧
      url.text ≠ urlToo.text ∧ url.BelongsTo "a/b" site ∧
      urlToo.BelongsTo "a%2Fb" site := by
  intro site url urlToo
  have given : baseUrl? "https://h/p/?q" = some site := by decide +kernel
  have unnamed : occursIn marker.toList site.path.chars = false := by decide
  have differ : "a/b" ≠ "a%2Fb" := by decide
  have resolved : resolve "https://h/p/?q" "a/b" = .ok url := rfl
  have resolvedToo : resolve "https://h/p/?q" "a%2Fb" = .ok urlToo := rfl
  have apart := collections_apart_iff given unnamed differ resolved resolvedToo
  exact ⟨given, unnamed, differ, resolved, resolvedToo,
    apart.mpr ⟨by decide, by decide, by decide⟩⟩

set_option maxRecDepth 4000 in
/-- Dots are no segments, so that the tenants they name share a collection. -/
theorem collections_collide :
    let site : Url := { scheme := .https, host := "h", path := ⟨[], "p"⟩ }
    let url : Url := { site with path := ⟨["p", "metrics"], "probes"⟩ }
    baseUrl? "https://h/p" = some site ∧
      occursIn marker.toList site.path.chars = false ∧
      resolve "https://h/p" "." = .ok url ∧
      resolve "https://h/p" ".." = .ok url :=
  ⟨by decide +kernel, by decide, rfl, rfl⟩

end Collection

end ProbeLifecycle
