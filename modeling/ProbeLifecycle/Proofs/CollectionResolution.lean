import ProbeLifecycle.Proofs.AcceptedCollections

/-!
# Where collections are

The address of a collection comes from a base address, read without the slashes at its
end, and a tenant.  Whether the base address names probes itself is judged by its path
as it has been read, so what is written in another part of it does not matter, and the
dots in its path have been resolved.  Three faults are found, one after the other.  All
else gives a collection whose address names probes, so that this address leads to the
same collection again, whatever the tenant.
-/

namespace ProbeLifecycle

open Text

theorem occursIn_iff {part chars : List Char} :
    occursIn part chars = true ↔ part <:+: chars := by
  induction chars with
  | nil => simp [occursIn]
  | cons char chars ih =>
      rw [occursIn, Bool.or_eq_true, List.isPrefixOf_iff_prefix, ih,
        List.infix_cons_iff]

/-- The path of an address contains what the path of a collection contains. -/
def Url.NamesProbes (url : Url) : Prop :=
  Collection.marker.toList <:+: url.path.chars

instance (url : Url) : Decidable url.NamesProbes :=
  inferInstanceAs (Decidable (_ <:+: _))

namespace Collection

/-- The text of a base address that is read: no slashes at its end. -/
def baseText (base : String) : String :=
  .ofList (stripEnd (· == '/') base.toList)

/-- A base address and a tenant with which there is a collection. -/
structure IsUsable (base tenant : String) : Prop where
  isAddress : ∃ address, Address.read (baseText base) = .ok address
  isOfWeb : ∃ scheme : WebScheme,
    Address.scheme? (baseText base) = some scheme.name
  named : (∃ site, Address.read (baseText base) = .ok (.web site) ∧
    site.NamesProbes) ∨ tenant ≠ ""

/-- The first fault of a base address and a tenant, with the words for it. -/
inductive HasFault (base tenant : String) : String → Prop where
  | unreadable {reason : UrlError}
      (read : Address.read (baseText base) = .error reason) :
      HasFault base tenant reason.message
  | foreign {address : Address}
      (read : Address.read (baseText base) = .ok address)
      (isForeign : ∀ scheme : WebScheme,
        Address.scheme? (baseText base) ≠ some scheme.name) :
      HasFault base tenant "scheme must be http or https"
  | withoutTenant {site : Url}
      (read : Address.read (baseText base) = .ok (.web site))
      (unnamed : ¬ site.NamesProbes) (isEmpty : tenant = "") :
      HasFault base tenant "tenant is required"

/-- An address is that of a collection at a site: it differs from the site in nothing
but its path, and not even there if the site names probes. -/
structure IsAt (url site : Url) : Prop where
  elsewhere : url = { site with path := url.path }
  kept : site.NamesProbes → url = site
  added : ¬ site.NamesProbes → "/metrics/probes".toList <:+ url.path.chars
  named : url.NamesProbes

section Resolving

variable {base tenant reason : String} {site url : Url} {error : ProbeError}

theorem resolve_of_named (read : Address.read (baseText base) = .ok (.web site))
    (named : site.NamesProbes) : resolve base tenant = .ok site := by
  change Address.read (.ofList _) = _ at read
  rw [resolve, read]
  exact if_pos (occursIn_iff.mpr named)

theorem resolve_of_unnamed (read : Address.read (baseText base) = .ok (.web site))
    (unnamed : ¬ site.NamesProbes) :
    resolve base tenant =
      if tenant = "" then .error (.invalidUrl base "tenant is required")
      else .ok (site.extendPath (segments tenant)) := by
  change Address.read (.ofList _) = _ at read
  rw [resolve, read]
  dsimp only
  rw [if_neg (mt occursIn_iff.mp unnamed), site.cannotBeBase_eq_false,
    if_neg Bool.false_ne_true]

/-- What is added to a site names probes at its end. -/
theorem isAt_extendPath (unnamed : ¬ site.NamesProbes) (tenant : String) :
    IsAt (site.extendPath (segments tenant)) site := by
  have added : "/metrics/probes".toList <:+
      (site.extendPath (segments tenant)).path.chars := by
    change _ <:+ (site.path.popIfEmpty.extend (segments tenant)).chars
    rw [Path.chars, segments_extend, List.flatMap_append]
    exact List.suffix_append _ _
  have marked : marker.toList <:+ "/metrics/probes".toList := by decide
  exact ⟨rfl, fun named => absurd named unnamed, fun _ => added,
    (marked.trans added).isInfix⟩

/-- A fault is reported with the base address as it was given. -/
theorem HasFault.resolve_eq (fault : HasFault base tenant reason) :
    resolve base tenant = .error (.invalidUrl base reason) := by
  cases fault with
  | unreadable read =>
      change Address.read (.ofList _) = _ at read
      rw [resolve, read]
  | @foreign address read isForeign =>
      have isOther : address = .other := by
        cases address with
        | web site => exact absurd (Address.scheme?_of_read_web read) (isForeign _)
        | other => rfl
      rw [isOther] at read
      change Address.read (.ofList _) = _ at read
      rw [resolve, read]
  | withoutTenant read unnamed isEmpty =>
      rw [resolve_of_unnamed read unnamed, if_pos isEmpty]

theorem HasFault.reason_ne (fault : HasFault base tenant reason) :
    reason ≠ "URL cannot be a base" := by
  cases fault with
  | @unreadable reason read => cases reason <;> decide
  | foreign read isForeign => decide
  | withoutTenant read unnamed isEmpty => decide

theorem IsUsable.resolve_eq (usable : IsUsable base tenant) :
    ∃ site url, Address.read (baseText base) = .ok (.web site) ∧
      resolve base tenant = .ok url ∧ IsAt url site := by
  obtain ⟨⟨address, read⟩, ⟨scheme, isOfWeb⟩, named⟩ := usable
  cases address with
  | other => exact absurd isOfWeb (Address.scheme?_of_read_other read scheme)
  | web site =>
      by_cases isNamed : site.NamesProbes
      · exact ⟨site, site, read, resolve_of_named read isNamed, rfl, fun _ => rfl,
          fun unnamed => absurd isNamed unnamed, isNamed⟩
      · have notEmpty : tenant ≠ "" := by
          rcases named with ⟨siteToo, readToo, namedToo⟩ | notEmpty
          · rw [read] at readToo
            rw [Address.web.inj (Except.ok.inj readToo)] at isNamed
            exact absurd namedToo isNamed
          · exact notEmpty
        refine ⟨site, _, read, ?_, isAt_extendPath isNamed tenant⟩
        rw [resolve_of_unnamed read isNamed, if_neg notEmpty]

theorem hasFault_or_isUsable (base tenant : String) :
    (∃ reason, HasFault base tenant reason) ∨ IsUsable base tenant := by
  cases read : Address.read (baseText base) with
  | error reason => exact .inl ⟨_, .unreadable read⟩
  | ok address =>
      cases address with
      | other => exact .inl ⟨_, .foreign read (Address.scheme?_of_read_other read)⟩
      | web site =>
          have isOfWeb : ∃ scheme : WebScheme,
              Address.scheme? (baseText base) = some scheme.name :=
            ⟨_, Address.scheme?_of_read_web read⟩
          by_cases named : site.NamesProbes
          · exact .inr ⟨⟨_, read⟩, isOfWeb, .inl ⟨site, read, named⟩⟩
          by_cases isEmpty : tenant = ""
          · exact .inl ⟨_, .withoutTenant read named isEmpty⟩
          · exact .inr ⟨⟨_, read⟩, isOfWeb, .inr isEmpty⟩

theorem resolve_eq_error_iff :
    resolve base tenant = .error error ↔
      ∃ reason, HasFault base tenant reason ∧ error = .invalidUrl base reason := by
  constructor
  · intro failed
    rcases hasFault_or_isUsable base tenant with ⟨reason, fault⟩ | usable
    · rw [fault.resolve_eq] at failed
      exact ⟨reason, fault, (Except.error.inj failed).symm⟩
    · obtain ⟨site, url, -, resolved, -⟩ := usable.resolve_eq
      rw [resolved] at failed
      cases failed
  · rintro ⟨reason, fault, rfl⟩
    exact fault.resolve_eq

theorem exists_resolve_eq_ok_iff :
    (∃ url, resolve base tenant = .ok url) ↔ IsUsable base tenant := by
  constructor
  · rintro ⟨url, resolved⟩
    rcases hasFault_or_isUsable base tenant with ⟨reason, fault⟩ | usable
    · rw [fault.resolve_eq] at resolved
      cases resolved
    · exact usable
  · intro usable
    obtain ⟨site, url, -, resolved, -⟩ := usable.resolve_eq
    exact ⟨url, resolved⟩

theorem isAt_of_resolve (resolved : resolve base tenant = .ok url) :
    ∃ site, Address.read (baseText base) = .ok (.web site) ∧ IsAt url site := by
  have usable := exists_resolve_eq_ok_iff.mp ⟨url, resolved⟩
  obtain ⟨site, urlToo, read, resolvedToo, isAt⟩ := usable.resolve_eq
  rw [resolved] at resolvedToo
  rw [Except.ok.inj resolvedToo]
  exact ⟨site, read, isAt⟩

theorem isWritten_of_resolve (resolved : resolve base tenant = .ok url) :
    url.IsWritten := by
  obtain ⟨site, given, ⟨-, rfl⟩ | ⟨-, -, rfl⟩⟩ := resolve_eq_ok.mp resolved
  · exact isWritten_baseUrl given
  · exact (isWritten_baseUrl given).extendPath _

theorem baseText_eq_self {text : String} (ends : text.toList.getLast? ≠ some '/') :
    baseText text = text := by
  have kept : stripEnd (· == '/') text.toList = text.toList := by
    apply stripEnd_eq_self
    intro last isLast
    rw [beq_eq_false_iff_ne]
    rintro rfl
    exact ends isLast
  exact String.toList_inj.mp (String.toList_ofList.trans kept)

/-- With a base address and a tenant there is a collection or the first of three
faults, which is reported with the base address as it was given.  The collection is at
the site that was read, for every tenant alike if that names probes, and it names
probes itself.  Its own address leads to it again, whatever the tenant, unless a slash at
the end of its query or fragment is taken off. -/
theorem resolution_settled (base tenant : String) :
    ((∃ url, resolve base tenant = .ok url) ↔ IsUsable base tenant) ∧
      (∀ error, resolve base tenant = .error error ↔
        ∃ reason, HasFault base tenant reason ∧ error = .invalidUrl base reason) ∧
      (∀ reason, HasFault base tenant reason → reason ≠ "URL cannot be a base") ∧
      ∀ url, resolve base tenant = .ok url →
        (∃ site, Address.read (baseText base) = .ok (.web site) ∧ IsAt url site ∧
          (site.NamesProbes → ∀ other, resolve base other = .ok url)) ∧
        (url.text.toList.getLast? ≠ some '/' →
          ∀ other, resolve url.text other = .ok url) := by
  refine ⟨exists_resolve_eq_ok_iff, fun error => resolve_eq_error_iff,
    fun reason fault => fault.reason_ne, fun url resolved => ?_⟩
  obtain ⟨site, read, isAt⟩ := isAt_of_resolve resolved
  refine ⟨⟨site, read, isAt, fun named other => ?_⟩, fun ends other => ?_⟩
  · rw [isAt.kept named]
    exact resolve_of_named read named
  · have again : Address.read (baseText url.text) = .ok (.web url) := by
      rw [baseText_eq_self ends]
      exact (isWritten_of_resolve resolved).read_text
    exact resolve_of_named again isAt.named

set_option maxRecDepth 4000 in
/-- With a host name that is not ASCII, slashes at the end of the base address, dots in its
path, and a name of probes elsewhere. -/
theorem resolution_settled_dots :
    let base := "https://u@BÜcher.example:8443/probes/%2E./probe/?q=/probes//"
    let site : Url :=
      { scheme := .https, username := "u", host := "xn--bcher-kva.example",
        port := some 8443, path := ⟨["probe"], ""⟩, query := some "q=/probes" }
    let url : Url := { site with path := ⟨["probe", "hcp", "metrics"], "probes"⟩ }
    resolve base "hcp" = .ok url ∧
      IsAt url site ∧ ¬ site.NamesProbes ∧
      url.text.toList.getLast? ≠ some '/' ∧
      resolve url.text "" = .ok url := by
  intro base site url
  have read : Address.read (baseText base) = .ok (.web site) := by decide +kernel
  have unnamed : ¬ site.NamesProbes := by decide +kernel
  have resolved : resolve base "hcp" = .ok url :=
    (resolve_of_unnamed read unnamed).trans (by decide +kernel)
  have ends : url.text.toList.getLast? ≠ some '/' := by decide +kernel
  obtain ⟨-, -, -, settled⟩ := resolution_settled base "hcp"
  obtain ⟨⟨siteToo, readToo, isAt, -⟩, again⟩ := settled url resolved
  obtain rfl : site = siteToo :=
    Address.web.inj (Except.ok.inj (read.symm.trans readToo))
  exact ⟨resolved, isAt, unnamed, ends, again ends ""⟩

end Resolving

end Collection

end ProbeLifecycle
