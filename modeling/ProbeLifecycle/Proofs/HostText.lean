import ProbeLifecycle.Proofs.Ipv6Text
import ProbeLifecycle.Proofs.PercentText
import ProbeLifecycle.Url.Host

/-!
# Hosts as they are written

A host that has been read is a domain in its ASCII form, four decimal bytes or an IPv6
address in normal form, and reading it again gives it back.
-/

namespace ProbeLifecycle

open Text

namespace Text

variable {char : Char}

theorem toLower_of_not_upper (lower : char.isUpper = false) : char.toLower = char := by
  unfold Char.toLower
  refine dif_neg fun isUpper => ?_
  have upper : char.isUpper = true := decide_eq_true isUpper
  rw [lower] at upper
  cases upper

/-- Text without a percent sign stands for itself. -/
theorem decodeUtf8?_percentDecode {chars : List Char}
    (plain : ∀ char ∈ chars, char ≠ '%') :
    decodeUtf8? (percentDecode chars) = some chars := by
  have bytes : percentDecode chars = utf8Bytes chars := by
    induction chars with
    | nil => rfl
    | cons first chars ih =>
        rw [percentDecode_cons (plain first List.mem_cons_self),
          ih fun char member => plain char (List.mem_cons_of_mem _ member)]
        rfl
  rw [bytes, decodeUtf8?_utf8Bytes]

end Text

theorem mapM_eq_self {α : Type} {read : α → Option α} {list : List α}
    (same : ∀ element ∈ list, read element = some element) :
    list.mapM read = some list := by
  induction list with
  | nil => rfl
  | cons first list ih =>
      rw [List.mapM_cons, same first List.mem_cons_self,
        ih fun element member => same element (List.mem_cons_of_mem _ member)]
      rfl

namespace Ipv4

/-- The four bytes of an address. -/
def bytes (address : Nat) : List Nat :=
  [address / Nat.pow 256 3 % 256, address / Nat.pow 256 2 % 256,
    address / 256 % 256, address % 256]

def textChars : List Char :=
  ['.', '0', '1', '2', '3', '4', '5', '6', '7', '8', '9']

section Bytes

variable {address byte : Nat} {char : Char} {values : List Nat}

theorem bytes_lt (member : byte ∈ bytes address) : byte < 256 := by
  simp only [bytes, List.mem_cons, List.not_mem_nil, or_false] at member
  rcases member with rfl | rfl | rfl | rfl <;> exact Nat.mod_lt _ (by decide)

theorem toList_text (address : Nat) :
    (text address).toList =
      ['.'].intercalate ((bytes address).map (Nat.toDigits 10)) := by
  change (".".intercalate ((bytes address).map Nat.repr)).toList = _
  rw [String.toList_intercalate, List.map_map]
  simp [Function.comp_def, Nat.toList_repr]

theorem splitOn_text (address : Nat) :
    (text address).toList.splitOn '.' = (bytes address).map (Nat.toDigits 10) := by
  rw [toList_text]
  refine List.splitOn_intercalate _ ?_ (by simp [bytes])
  intro digits member isDot
  obtain ⟨byte, -, rfl⟩ := List.mem_map.mp member
  exact absurd (Nat.isDigit_of_mem_toDigits (by decide) (by decide) isDot) (by decide)

theorem parts_text (address : Nat) :
    parts (text address).toList = (bytes address).map (Nat.toDigits 10) := by
  unfold parts
  rw [splitOn_text]
  refine if_neg ?_
  simp [bytes, Nat.toDigits_ne_nil]

theorem value?_part (small : byte < 256) :
    (part (Nat.toDigits 10 byte)).value? = some byte := by
  have isNumber : ∀ value < 256,
      (part (Nat.toDigits 10 value)).value? = some value := by
    decide +kernel
  exact isNumber byte small

theorem endsInNumber_text (address : Nat) :
    endsInNumber (text address).toList = true := by
  have digits : (Nat.toDigits 10 (address % 256)).all Char.isDigit = true :=
    List.all_eq_true.mpr fun char member =>
      Nat.isDigit_of_mem_toDigits (by decide) (by decide) member
  unfold endsInNumber
  rw [parts_text]
  simp [bytes, digits, Nat.toDigits_ne_nil]

/-- Four bytes make up the address that they are taken from, less what is above. -/
theorem combine?_bytes (address : Nat) :
    combine? (bytes address) = some (address % 4294967296) := by
  unfold combine?
  simp [bytes]
  omega

theorem text_mod (address : Nat) : text (address % 4294967296) = text address := by
  have same : bytes (address % 4294967296) = bytes address := by
    simp [bytes]
    omega
  change ".".intercalate ((bytes _).map Nat.repr) = _
  rw [same]
  rfl

/-- The normal form of an address is read as it is. -/
theorem read_text (address : Nat) :
    read (text address).toList = .ok (text address) := by
  have values : ((bytes address).map (Nat.toDigits 10)).mapM
      (fun chars => (part chars).value?) = some (bytes address) := by
    rw [List.mapM_map]
    exact mapM_eq_self fun byte member => value?_part (bytes_lt member)
  unfold read
  rw [parts_text, values]
  dsimp only
  rw [combine?_bytes]
  exact congrArg Except.ok (text_mod address)

theorem exists_address_of_read {chars : List Char} {host : String}
    (isRead : read chars = .ok host) : ∃ address, host = text address := by
  unfold read at isRead
  split at isRead
  · cases isRead
  · split at isRead
    · cases isRead
    · exact ⟨_, (Except.ok.inj isRead).symm⟩

theorem digitChar_mem {digit : Nat} (small : digit < 10) :
    digit.digitChar ∈ textChars := by
  decide +revert

theorem mem_toDigits {number : Nat} (member : char ∈ Nat.toDigits 10 number) :
    char ∈ textChars := by
  obtain ⟨digit, small, rfl⟩ := exists_of_mem_toDigits (by decide) member
  exact digitChar_mem small

theorem mem_text (member : char ∈ (text address).toList) : char ∈ textChars := by
  rw [toList_text] at member
  rcases mem_intercalate member with rfl | ⟨word, isByte, inWord⟩
  · decide
  · obtain ⟨byte, -, rfl⟩ := List.mem_map.mp isByte
    exact mem_toDigits inWord

end Bytes

end Ipv4

namespace Host

section Domains

variable {domain chars : List Char} {host : String}

theorem not_encoded_percent (plain : ∀ char ∈ domain, isDomainChar char = true) :
    ∀ char ∈ domain, char ≠ '%' := by
  rintro char member rfl
  exact absurd (plain _ member) (by decide)

theorem asciiForm_eq_self (plain : ∀ char ∈ domain, isDomainChar char = true) :
    Domain.asciiForm domain = domain := by
  have isAscii : ∀ char ∈ domain, char.toNat < 0x80 ∧ char.isUpper = false := by
    intro char member
    have isDomain := plain char member
    simp only [isDomainChar, Bool.and_eq_true, decide_eq_true_eq,
      Bool.not_eq_true'] at isDomain
    exact ⟨by omega, isDomain.1.1.2⟩
  unfold Domain.asciiForm
  rw [if_pos (by simpa using fun char member => (isAscii char member).1)]
  exact (List.map_congr_left fun char member =>
    toLower_of_not_upper (isAscii char member).2).trans (List.map_id _)

/-- The ASCII form of a domain is read as it is, or as an IPv4 address. -/
theorem readDomain_eq (notEmpty : domain ≠ [])
    (plain : ∀ char ∈ domain, isDomainChar char = true)
    (fit : Domain.isFit domain = true) :
    readDomain domain =
      if Ipv4.endsInNumber domain then Ipv4.read domain else .ok (.ofList domain) := by
  unfold readDomain
  rw [decodeUtf8?_percentDecode (not_encoded_percent plain)]
  dsimp only
  have isPlain : domain.all isDomainChar = true := List.all_eq_true.mpr plain
  have isEmpty : domain.isEmpty = false := by simpa using notEmpty
  rw [asciiForm_eq_self plain]
  simp [isPlain, fit, isEmpty]

/-- A domain that has been read, before it is known for an IPv4 address. -/
theorem exists_domain_of_readDomain (isRead : readDomain chars = .ok host) :
    ∃ domain, domain ≠ [] ∧ (∀ char ∈ domain, isDomainChar char = true) ∧
      Domain.isFit domain = true ∧
      (if Ipv4.endsInNumber domain then Ipv4.read domain else .ok (.ofList domain)) =
        .ok host := by
  unfold readDomain at isRead
  split at isRead
  · cases isRead
  · rename_i decoded isDecoded
    dsimp only at isRead
    split at isRead
    · cases isRead
    · rename_i good
      split at isRead
      · cases isRead
      · rename_i notEmpty
        simp only [Bool.or_eq_true, Bool.not_eq_true', not_or, Bool.not_eq_false,
          List.all_eq_true, List.isEmpty_iff] at good notEmpty
        exact ⟨_, notEmpty, good.1, good.2, isRead⟩

section Addresses

variable (address : Nat)

theorem text_ne_nil : (Ipv4.text address).toList ≠ [] := by
  intro isEmpty
  have split := Ipv4.splitOn_text address
  rw [isEmpty, List.splitOn_nil] at split
  exact absurd (congrArg List.length split) (by simp [Ipv4.bytes])

theorem isDomainChar_text :
    ∀ char ∈ (Ipv4.text address).toList, isDomainChar char = true := by
  have all : ∀ char ∈ Ipv4.textChars, isDomainChar char = true :=
    List.all_iff_forall_prop.mp (by decide)
  exact fun char member => all char (Ipv4.mem_text member)

theorem isFit_text : Domain.isFit (Ipv4.text address).toList = true := by
  have written : ∀ label ∈ (Ipv4.bytes address).map (Nat.toDigits 10),
      ∀ char ∈ label, char ∈ Ipv4.textChars := by
    intro label isByte char member
    obtain ⟨byte, -, rfl⟩ := List.mem_map.mp isByte
    exact Ipv4.mem_toDigits member
  have shown : ∀ label ∈ (Ipv4.bytes address).map (Nat.toDigits 10),
      Domain.shownLabel? label = some label := by
    intro label isByte
    refine if_neg fun isEncoded => ?_
    have starts := (List.isPrefixOf_iff_prefix.mp isEncoded).subset List.mem_cons_self
    exact absurd (written label isByte 'x' starts) (by decide)
  have forward : ∀ char ∈ Ipv4.textChars, directionOf char ≠ .rightToLeft ∧
      directionOf char ≠ .arabicNumber :=
    List.all_iff_forall_prop.mp (by decide +kernel)
  unfold Domain.isFit
  rw [Ipv4.splitOn_text, mapM_eq_self shown]
  have noneLeftward : (((Ipv4.bytes address).map (Nat.toDigits 10)).map
      (·.map directionOf)).any runsLeftward = false := by
    rw [List.any_eq_false]
    intro directions member isLeftward
    obtain ⟨label, isByte, rfl⟩ := List.mem_map.mp member
    simp only [runsLeftward, List.contains_eq_mem, Bool.or_eq_true, decide_eq_true_eq,
      List.mem_map] at isLeftward
    rcases isLeftward with ⟨char, inLabel, isDirection⟩ | ⟨char, inLabel, isDirection⟩
    · exact (forward char (written label isByte char inLabel)).1 isDirection
    · exact (forward char (written label isByte char inLabel)).2 isDirection
  simp only [Option.any_some, directionsAgree, noneLeftward, Bool.not_false,
    Bool.true_or]

end Addresses

end Domains

/-- The text of a host that is read as it is: a domain or an IPv6 address between
brackets. -/
structure IsWritten (host : List Char) : Prop where
  shape : (host ≠ [] ∧ ∀ char ∈ host, isDomainChar char = true) ∨
    ∃ inside, host = '[' :: inside ++ [']'] ∧
      ∀ char ∈ inside, char = ':' ∨ char ∈ Ipv6.pieceDigits
  read : Host.read host = .ok (.ofList host)

section Written

variable {host : String} {chars : List Char}

theorem IsWritten.ne_nil {text : List Char} (written : IsWritten text) : text ≠ [] := by
  rcases written.shape with ⟨notEmpty, -⟩ | ⟨inside, rfl, -⟩
  · exact notEmpty
  · simp

theorem read_of_plain {domain : List Char}
    (plain : ∀ char ∈ domain, isDomainChar char = true) :
    Host.read domain = readDomain domain := by
  rw [Host.read]
  rintro rest rfl
  exact absurd (plain '[' List.mem_cons_self) (by decide)

theorem isWritten_of_readDomain (isRead : readDomain chars = .ok host) :
    IsWritten host.toList := by
  obtain ⟨domain, notEmpty, plain, fit, isHost⟩ :=
    exists_domain_of_readDomain isRead
  -- The bytes of an IPv4 address are a domain too, and are taken for the address again.
  by_cases isNumber : Ipv4.endsInNumber domain = true
  · rw [if_pos isNumber] at isHost
    obtain ⟨address, rfl⟩ := Ipv4.exists_address_of_read isHost
    refine ⟨.inl ⟨text_ne_nil address, isDomainChar_text address⟩, ?_⟩
    rw [read_of_plain (isDomainChar_text address), readDomain_eq (text_ne_nil address)
      (isDomainChar_text address) (isFit_text address),
      if_pos (Ipv4.endsInNumber_text address), Ipv4.read_text, String.ofList_toList]
  · have same := isHost
    rw [if_neg isNumber] at same
    obtain rfl := Except.ok.inj same
    rw [String.toList_ofList]
    refine ⟨.inl ⟨notEmpty, plain⟩, ?_⟩
    rw [read_of_plain plain, readDomain_eq notEmpty plain fit, isHost]

theorem isWritten_of_readBracketed (isRead : readBracketed chars = .ok host) :
    IsWritten host.toList := by
  unfold readBracketed at isRead
  split at isRead
  · obtain ⟨inside, written, plain, again⟩ := Ipv6.written_of_read isRead
    refine ⟨.inr ⟨inside, written, plain⟩, ?_⟩
    rw [String.ofList_toList, written, List.cons_append]
    simpa [Host.read, readBracketed] using again
  · cases isRead

theorem IsWritten.mem {text : List Char} {char : Char} (written : IsWritten text)
    (member : char ∈ text) :
    0x20 < char.toNat ∧ char ∉ ['@', '/', '\\', '?', '#'] := by
  rcases written.shape with ⟨-, plain⟩ | ⟨inside, rfl, plain⟩
  · have isDomain := plain char member
    simp only [isDomainChar, forbiddenChars, Bool.and_eq_true, Bool.not_eq_true',
      decide_eq_true_eq, List.contains_eq_mem, decide_eq_false_iff_not, List.mem_cons,
      List.not_mem_nil, or_false, not_or] at isDomain ⊢
    simp [isDomain]
  · have listed : char ∈ '[' :: ']' :: ':' :: Ipv6.pieceDigits := by
      simp only [List.cons_append, List.mem_cons, List.mem_append, List.not_mem_nil,
        or_false] at member ⊢
      rcases member with isFirst | inside | isLast
      · exact .inl isFirst
      · exact .inr (.inr (plain char inside))
      · exact .inr (.inl isLast)
    have all : ∀ char ∈ '[' :: ']' :: ':' :: Ipv6.pieceDigits,
        0x20 < char.toNat ∧ char ∉ ['@', '/', '\\', '?', '#'] :=
      List.all_iff_forall_prop.mp (by decide)
    exact all char listed

/-- What is read as a host is read again as it is. -/
theorem isWritten_of_read (isRead : Host.read chars = .ok host) :
    IsWritten host.toList := by
  unfold Host.read at isRead
  split at isRead
  · exact isWritten_of_readBracketed isRead
  · exact isWritten_of_readDomain isRead

end Written

end Host

end ProbeLifecycle
