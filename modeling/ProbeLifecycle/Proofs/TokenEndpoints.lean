import ProbeLifecycle.Proofs.TrimmedText
import ProbeLifecycle.Token.OidcClient

/-!
# Token endpoints

The address of an issuer may name its token endpoint or the base that this lies under,
with any number of slashes at the end.  All these spellings lead to one endpoint, which
has no slash at its end and stays the same when it is given as the address itself.
-/

namespace ProbeLifecycle

open Text

def slashes (count : Nat) : String :=
  .ofList (List.replicate count '/')

/-- An address that names a token endpoint. -/
def NamesEndpoint (address : String) : Prop :=
  ∃ before, address = before ++ "/token"

/-- An address without the slashes at its end. -/
structure IsBaseOf (base address : String) : Prop where
  noSlash : ∀ before, base ≠ before ++ "/"
  onlySlashes : ∃ count, address = base ++ slashes count

section Bases

variable {base address : String}

theorem IsBaseOf.stripEnd_eq (isBase : IsBaseOf base address) :
    stripEnd (· == '/') address.toList = base.toList := by
  obtain ⟨noSlash, count, rfl⟩ := isBase
  have areSlashes : ∀ char ∈ (slashes count).toList, (char == '/') = true := by
    intro char member
    rw [slashes, String.toList_ofList] at member
    exact beq_iff_eq.mpr (List.eq_of_mem_replicate member)
  rw [String.toList_append, stripEnd_append areSlashes]
  apply stripEnd_eq_self
  intro last isLast
  rw [beq_eq_false_iff_ne]
  rintro rfl
  obtain ⟨before, isBase⟩ := List.getLast?_eq_some_iff.mp isLast
  refine noSlash (.ofList before) (String.toList_inj.mp ?_)
  rw [isBase, String.toList_append, String.toList_ofList]
  rfl

theorem exists_isBaseOf (address : String) : ∃ base, IsBaseOf base address := by
  obtain ⟨after, areSlashes, cut⟩ :=
    exists_stripEnd_append (· == '/') address.toList
  refine ⟨.ofList (stripEnd (· == '/') address.toList), ⟨?_, after.length, ?_⟩⟩
  · intro before equal
    have chars := congrArg String.toList equal
    rw [String.toList_ofList, String.toList_append] at chars
    have isLast : (stripEnd (· == '/') address.toList).getLast? = some '/' := by
      rw [chars]
      exact List.getLast?_concat
    exact absurd (kept_of_stripEnd _ _ _ isLast) (by decide)
  · have sameSlashes : after = List.replicate after.length '/' :=
      List.eq_replicate_iff.mpr ⟨rfl, fun char member =>
        beq_iff_eq.mp (areSlashes char member)⟩
    rw [← String.toList_inj, String.toList_append, String.toList_ofList, slashes,
      String.toList_ofList, ← sameSlashes]
    exact cut

theorem IsBaseOf.append_slashes (isBase : IsBaseOf base address) (count : Nat) :
    IsBaseOf base (address ++ slashes count) := by
  obtain ⟨noSlash, given, rfl⟩ := isBase
  refine ⟨noSlash, given + count, ?_⟩
  rw [String.append_assoc]
  congr 1
  simp [slashes, ← String.ofList_append, List.replicate_append_replicate]

theorem NamesEndpoint.isBaseOf (names : NamesEndpoint address) :
    IsBaseOf address address := by
  obtain ⟨before, rfl⟩ := names
  refine ⟨fun other equal => ?_, 0, (String.append_empty).symm⟩
  have lasts := congrArg (fun text => text.toList.getLast?) equal
  simp only [String.toList_append, List.getLast?_append] at lasts
  cases lasts

end Bases

namespace OidcClient

def withIssuer (client : OidcClient) (issuerUrl : String) : OidcClient :=
  { client with issuerUrl }

section Endpoints

variable {client : OidcClient} {base : String}

/-- The endpoint depends on the base alone, which may name it. -/
theorem tokenUrl_of_isBaseOf (isBase : IsBaseOf base client.issuerUrl) :
    (NamesEndpoint base ∧ client.tokenUrl = base) ∨
      (¬ NamesEndpoint base ∧ client.tokenUrl = base ++ "/token") := by
  have names_iff : tokenSegment.toList.isSuffixOf base.toList = true ↔
      NamesEndpoint base := by
    rw [List.isSuffixOf_iff_suffix]
    constructor
    · rintro ⟨before, joined⟩
      refine ⟨.ofList before, String.toList_inj.mp ?_⟩
      rw [← joined, String.toList_append, String.toList_ofList]
      rfl
    · rintro ⟨before, rfl⟩
      exact ⟨before.toList, String.toList_append.symm⟩
  unfold tokenUrl
  rw [isBase.stripEnd_eq]
  dsimp only
  split
  · rename_i names
    exact .inl ⟨names_iff.mp names, String.ofList_toList⟩
  · rename_i unnamed
    refine .inr ⟨fun names => unnamed (names_iff.mpr names), String.toList_inj.mp ?_⟩
    rw [String.toList_ofList, String.toList_append]
    rfl

/-- Addresses with one base lead to one endpoint. -/
theorem tokenUrl_eq_of_isBaseOf {other : OidcClient}
    (isBase : IsBaseOf base client.issuerUrl) (isBaseToo : IsBaseOf base other.issuerUrl) :
    client.tokenUrl = other.tokenUrl := by
  unfold tokenUrl
  rw [isBase.stripEnd_eq, isBaseToo.stripEnd_eq]

theorem namesEndpoint_tokenUrl (client : OidcClient) :
    NamesEndpoint client.tokenUrl := by
  obtain ⟨base, isBase⟩ := exists_isBaseOf client.issuerUrl
  rcases tokenUrl_of_isBaseOf isBase with ⟨names, equal⟩ | ⟨-, equal⟩
  · rwa [equal]
  · exact ⟨base, equal⟩

/-- The endpoint of an issuer names a token endpoint, is the same with more slashes at
the end of the address and when the endpoint is given as the address, and is the base
of the address if that names an endpoint and otherwise lies right under it. -/
theorem tokenUrl_normal (client : OidcClient) :
    NamesEndpoint client.tokenUrl ∧
      (∀ count, (client.withIssuer (client.issuerUrl ++ slashes count)).tokenUrl =
        client.tokenUrl) ∧
      (client.withIssuer client.tokenUrl).tokenUrl = client.tokenUrl ∧
      ∃ base, IsBaseOf base client.issuerUrl ∧
        (client.tokenUrl = base ↔ NamesEndpoint base) ∧
        (¬ NamesEndpoint base → client.tokenUrl = base ++ "/token") := by
  have names := client.namesEndpoint_tokenUrl
  obtain ⟨base, isBase⟩ := exists_isBaseOf client.issuerUrl
  refine ⟨names, fun count => ?_, ?_, base, isBase, ?_, ?_⟩
  · exact tokenUrl_eq_of_isBaseOf (isBase.append_slashes count) isBase
  · have isOwnBase : IsBaseOf client.tokenUrl (client.withIssuer client.tokenUrl).issuerUrl :=
      names.isBaseOf
    rcases tokenUrl_of_isBaseOf isOwnBase with ⟨-, equal⟩ | ⟨unnamed, -⟩
    · exact equal
    · exact absurd names unnamed
  · constructor
    · intro equal
      rwa [← equal]
    · intro names
      rcases tokenUrl_of_isBaseOf isBase with ⟨-, equal⟩ | ⟨unnamed, -⟩
      · exact equal
      · exact absurd names unnamed
  · intro unnamed
    rcases tokenUrl_of_isBaseOf isBase with ⟨names, -⟩ | ⟨-, equal⟩
    · exact absurd names unnamed
    · exact equal

end Endpoints

end OidcClient

end ProbeLifecycle
