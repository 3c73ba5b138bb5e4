import ProbeLifecycle.Proofs.TrimmedText
import ProbeLifecycle.Proofs.WrittenAuthorities
import ProbeLifecycle.Url.Parser

/-!
# Addresses as they are written

The scheme alone decides whether an address is one of the web.  An address that has been
read holds every part in the form in which it is written, and so does one made from it
by adding to its path.  The text of such an address is cut where it was put together and
each part is read as it is, so reading the text gives the address back.
-/

namespace ProbeLifecycle

open Text

namespace Address

variable {text : String} {chars : List Char} {scheme : WebScheme} {url : Url}

def scheme? (text : String) : Option String :=
  (takeScheme? (significantChars text)).map Prod.fst

theorem takeScheme?_name (scheme : WebScheme) (rest : List Char) :
    takeScheme? (scheme.name.toList ++ ':' :: rest) = some (scheme.name, rest) := by
  cases scheme <;> rfl

theorem ofScheme_name (scheme : WebScheme) (rest : List Char) :
    ofScheme scheme.name rest = readWeb scheme rest := by
  cases scheme <;> rfl

theorem readWeb_eq_ok {address : Address} :
    readWeb scheme chars = .ok address ↔
      ∃ authority, readAuthority (chars.dropWhile isSlash) = .ok authority ∧
        address = .web (withRest scheme authority
          ((chars.dropWhile isSlash).dropWhile fun char => !endsAuthority char)) := by
  refine bind_eq_ok.trans (exists_congr fun authority => and_congr_right fun _ => ?_)
  constructor
  · intro given
    exact (Except.ok.inj given).symm
  · rintro rfl
    rfl

theorem keep_of_mem_partAfter {keep : Char → Bool}
    (escapes : ∀ char ∈ escapeChars, keep char = true) :
    ∀ text ∈ partAfter keep chars, ∀ char ∈ text.toList, keep char = true := by
  intro text given char member
  cases chars with
  | nil => cases given
  | cons mark chars =>
      obtain rfl := Option.some.inj given
      rw [String.toList_ofList] at member
      exact keep_of_mem_percentEncode escapes member

theorem map_other {α : Type} {result : Except UrlError α} {address : Address}
    (read : result.map (fun _ => Address.other) = .ok address) : address = .other := by
  cases result with
  | error fault => cases read
  | ok value => exact (Except.ok.inj read).symm

theorem ofScheme_eq_ok {scheme : String} {address : Address}
    (read : ofScheme scheme chars = .ok address) :
    (∃ web : WebScheme, scheme = web.name ∧ readWeb web chars = .ok address) ∨
      ((∀ web : WebScheme, scheme ≠ web.name) ∧ address = .other) := by
  unfold ofScheme at read
  by_cases isHttp : scheme = "http"
  · rw [if_pos isHttp] at read
    exact .inl ⟨.http, isHttp, read⟩
  by_cases isHttps : scheme = "https"
  · rw [if_neg isHttp, if_pos isHttps] at read
    exact .inl ⟨.https, isHttps, read⟩
  rw [if_neg isHttp, if_neg isHttps] at read
  refine .inr ⟨?_, ?_⟩
  · intro web
    cases web with
    | http => exact isHttp
    | https => exact isHttps
  · split at read
    · exact map_other read
    · split at read
      · unfold checkFile at read
        split at read
        · dsimp only at read
          split at read
          · exact (Except.ok.inj read).symm
          · exact map_other read
        · exact (Except.ok.inj read).symm
      · unfold checkOpaque at read
        split at read
        · exact map_other read
        · exact (Except.ok.inj read).symm

theorem read_eq_ok {address : Address} (read : Address.read text = .ok address) :
    (∃ (scheme : WebScheme) (rest : List Char),
        takeScheme? (significantChars text) = some (scheme.name, rest) ∧
          readWeb scheme rest = .ok address) ∨
      ((∀ scheme : WebScheme, scheme? text ≠ some scheme.name) ∧ address = .other) := by
  unfold Address.read at read
  unfold scheme?
  cases taken : takeScheme? (significantChars text) with
  | none => simp [taken] at read
  | some pair =>
      obtain ⟨name, rest⟩ := pair
      rw [taken] at read
      rcases ofScheme_eq_ok read with ⟨scheme, rfl, readWeb⟩ | ⟨foreign, isOther⟩
      · exact .inl ⟨scheme, rest, rfl, readWeb⟩
      · exact .inr ⟨fun scheme isWeb => foreign scheme (Option.some.inj isWeb), isOther⟩

theorem scheme?_of_read_web (read : Address.read text = .ok (.web url)) :
    scheme? text = some url.scheme.name := by
  rcases read_eq_ok read with ⟨scheme, rest, taken, readWeb⟩ | ⟨-, isOther⟩
  · obtain ⟨authority, -, isWeb⟩ := readWeb_eq_ok.mp readWeb
    rw [scheme?, taken, Address.web.inj isWeb]
    rfl
  · cases isOther

theorem scheme?_of_read_other (read : Address.read text = .ok .other)
    (scheme : WebScheme) : scheme? text ≠ some scheme.name := by
  rcases read_eq_ok read with ⟨_, rest, -, readWeb⟩ | ⟨foreign, -⟩
  · obtain ⟨authority, -, isWeb⟩ := readWeb_eq_ok.mp readWeb
    cases isWeb
  · exact foreign scheme

end Address

namespace Url

def authority (url : Url) : Authority :=
  ⟨url.username, url.password, url.host, url.port⟩

def restChars (url : Url) : List Char :=
  url.path.chars ++ ((markedText "?" url.query).toList ++
    (markedText "#" url.fragment).toList)

/-- An address with every part in the form in which it is written. -/
structure IsWritten (url : Url) : Prop where
  authority : url.authority.IsWritten
  port : url.port ≠ some url.scheme.defaultPort
  clean : url.path.IsClean
  resolved : url.path.IsResolved
  query : ∀ query ∈ url.query, ∀ char ∈ query.toList, Address.isQueryChar char = true
  fragment : ∀ fragment ∈ url.fragment, ∀ char ∈ fragment.toList,
    Address.isFragmentChar char = true

theorem toList_text (url : Url) :
    url.text.toList = url.scheme.name.toList ++
      ':' :: '/' :: '/' :: (url.authority.chars ++ url.restChars) := by
  have credentials : url.credentialsText.toList = url.authority.credentialChars := by
    unfold credentialsText Authority.credentialChars authority
    dsimp only
    split
    · rfl
    · split
      · simp
      · simp
  have port : (markedText ":" (url.port.map Nat.repr)).toList =
      Authority.portChars url.authority.port := by
    unfold authority
    cases url.port with
    | none => rfl
    | some port => simp [markedText, Authority.portChars, Nat.toList_repr]
  unfold text target restChars Authority.chars
  simp only [String.toList_append, String.toList_ofList, credentials, port]
  simp [authority]

section Written

variable {url : Url} {char : Char}

theorem IsWritten.extendPath (written : url.IsWritten) (segments : List String) :
    (url.extendPath segments).IsWritten :=
  ⟨written.authority, written.port, written.clean.popIfEmpty.extend segments,
    written.resolved.popIfEmpty.extend segments, written.query, written.fragment⟩

section Marks

variable {keep : Char → Bool} {mark : String} {letter : Char} {part : Option String}

theorem mem_markedText (member : char ∈ (markedText mark part).toList) :
    char ∈ mark.toList ∨ ∃ text ∈ part, char ∈ text.toList := by
  cases part with
  | none => cases member
  | some text =>
      rw [markedText, String.toList_append, List.mem_append] at member
      exact member.imp_right fun inText => ⟨text, rfl, inText⟩

theorem head?_markedText (isMark : mark.toList = [letter]) :
    ∀ char ∈ (markedText mark part).toList.head?, char = letter := by
  cases part with
  | none => simp [markedText]
  | some text => simp [markedText, isMark]

theorem partAfter_markedText (isMark : mark.toList = [letter])
    (kept : ∀ text ∈ part, ∀ char ∈ text.toList, keep char = true) :
    Address.partAfter keep (markedText mark part).toList = part := by
  cases part with
  | none => rfl
  | some text =>
      rw [markedText, String.toList_append, isMark, List.singleton_append,
        Address.partAfter, percentEncode_eq_self (kept text rfl), String.ofList_toList]

end Marks

theorem IsWritten.withRest_restChars (written : url.IsWritten) :
    Address.withRest url.scheme url.authority url.restChars = url := by
  have question : ∀ char ∈ (markedText "?" url.query).toList.head?, char = '?' :=
    head?_markedText (by decide)
  have hash : ∀ char ∈ (markedText "#" url.fragment).toList.head?, char = '#' :=
    head?_markedText (by decide)
  have noQuestion : ∀ char ∈ url.path.chars, (char != '?') = true := fun char member =>
    bne_iff_ne.mpr (written.clean.unmarked char member).1
  have noHash : ∀ char ∈ url.path.chars ++ (markedText "?" url.query).toList,
      (char != '#') = true := by
    intro char member
    rw [bne_iff_ne]
    rcases List.mem_append.mp member with inPath | inQuery
    · exact (written.clean.unmarked char inPath).2
    · rcases mem_markedText inQuery with isMark | ⟨query, given, inText⟩
      · rw [List.mem_singleton.mp isMark]
        decide
      · exact ne_of_visibleExcept (written.query query given char inText) (by decide)
  have port : url.port.filter (· != url.scheme.defaultPort) = url.port := by
    have notDefault := written.port
    cases given : url.port with
    | none => rfl
    | some port =>
        rw [given] at notDefault
        simpa [Option.filter] using notDefault
  unfold Address.withRest restChars
  dsimp only
  rw [← List.append_assoc,
    takeWhile_stop noHash fun char isHead => by simp [hash char isHead],
    dropWhile_stop noHash fun char isHead => by simp [hash char isHead],
    takeWhile_stop noQuestion fun char isHead => by simp [question char isHead],
    dropWhile_stop noQuestion fun char isHead => by simp [question char isHead],
    partAfter_markedText (rfl : "?".toList = ['?']) written.query,
    partAfter_markedText (rfl : "#".toList = ['#']) written.fragment,
    Path.ofChars_chars written.clean written.resolved]
  change { url with port := url.port.filter (· != url.scheme.defaultPort) } = url
  rw [port]

theorem IsWritten.lt_of_mem (written : url.IsWritten)
    (member : char ∈ url.text.toList) : 0x20 < char.toNat := by
  have name : ∀ char ∈ url.scheme.name.toList, 0x20 < char.toNat := by
    cases url.scheme <;> exact List.all_iff_forall_prop.mp (by decide)
  rw [toList_text] at member
  simp only [restChars, List.mem_append, List.mem_cons] at member
  rcases member with inName | rfl | rfl | rfl | inAuthority | inPath | inQuery |
    inFragment
  · exact name char inName
  · decide
  · decide
  · decide
  · exact (written.authority.isInside inAuthority).1
  · exact lt_of_visibleExcept (written.clean.mem_chars inPath).1 (by decide)
  · rcases mem_markedText inQuery with isMark | ⟨query, given, inText⟩
    · rw [List.mem_singleton.mp isMark]
      decide
    · exact lt_of_visibleExcept (written.query query given char inText) (by decide)
  · rcases mem_markedText inFragment with isMark | ⟨fragment, given, inText⟩
    · rw [List.mem_singleton.mp isMark]
      decide
    · have kept := written.fragment fragment given char inText
      exact lt_of_visibleExcept kept (by decide)

/-- Nothing in the text of an address is ignored. -/
theorem IsWritten.significantChars_text (written : url.IsWritten) :
    Address.significantChars url.text = url.text.toList := by
  have visible : ∀ char ∈ url.text.toList, decide (char.toNat ≤ 0x20) = false := by
    intro char member
    rw [decide_eq_false_iff_not, Nat.not_le]
    exact written.lt_of_mem member
  unfold Address.significantChars
  rw [stripEnds_eq_self visible, List.filter_eq_self]
  intro char member
  have above := written.lt_of_mem member
  rw [Bool.not_eq_true', isIgnoredChar, Bool.or_eq_false_iff, Bool.or_eq_false_iff,
    beq_eq_false_iff_ne, beq_eq_false_iff_ne, beq_eq_false_iff_ne]
  refine ⟨⟨?_, ?_⟩, ?_⟩
  all_goals
    rintro rfl
    exact absurd above (by decide)

theorem IsWritten.readAuthority_chars (written : url.IsWritten) :
    Address.readAuthority (url.authority.chars ++ url.restChars) = .ok url.authority ∧
      (url.authority.chars ++ url.restChars).dropWhile
        (fun char => !Address.endsAuthority char) = url.restChars := by
  have inside : ∀ char ∈ url.authority.chars, (!Address.endsAuthority char) = true := by
    intro char member
    have unlisted := (written.authority.isInside member).2
    simp only [List.mem_cons, List.not_mem_nil, or_false, not_or] at unlisted
    simp [Address.endsAuthority, Address.isSlash, unlisted]
  have ends : ∀ char ∈ url.restChars.head?, (!Address.endsAuthority char) = false := by
    rw [restChars, Path.chars_eq]
    simp [Address.endsAuthority, Address.isSlash]
  unfold Address.readAuthority
  rw [takeWhile_stop inside ends, dropWhile_stop inside ends]
  exact ⟨Authority.read_chars written.authority, rfl⟩

/-- The text of an address is read as the address. -/
theorem IsWritten.read_text (written : url.IsWritten) :
    Address.read url.text = .ok (.web url) := by
  obtain ⟨authority, rest⟩ := written.readAuthority_chars
  have slashes : ('/' :: '/' :: (url.authority.chars ++ url.restChars)).dropWhile
      Address.isSlash = url.authority.chars ++ url.restChars := by
    obtain ⟨first, later, isFirst⟩ :=
      List.exists_cons_of_ne_nil written.authority.chars_ne_nil
    have unlisted := (written.authority.isInside (isFirst ▸ List.mem_cons_self)).2
    rw [isFirst]
    simp only [List.mem_cons, List.not_mem_nil, or_false, not_or] at unlisted
    simp [Address.isSlash, unlisted]
  have readWeb : Address.readWeb url.scheme
      ('/' :: '/' :: (url.authority.chars ++ url.restChars)) = .ok (.web url) := by
    refine Address.readWeb_eq_ok.mpr ⟨url.authority, ?_, ?_⟩
    · rw [slashes]
      exact authority
    · rw [slashes, rest, written.withRest_restChars]
  unfold Address.read
  rw [written.significantChars_text, toList_text, Address.takeScheme?_name]
  exact (Address.ofScheme_name url.scheme _).trans readWeb

/-- What is read as an address is written as such. -/
theorem isWritten_of_read {text : String} (read : Address.read text = .ok (.web url)) :
    url.IsWritten := by
  rcases Address.read_eq_ok read with ⟨scheme, rest, -, readWeb⟩ | ⟨-, isOther⟩
  · obtain ⟨authority, isRead, isUrl⟩ := Address.readWeb_eq_ok.mp readWeb
    obtain rfl := Address.web.inj isUrl
    refine ⟨?_, ?_, Path.isClean_ofChars _, Path.isResolved_ofChars _,
      Address.keep_of_mem_partAfter (List.all_iff_forall_prop.mp (by decide)),
      Address.keep_of_mem_partAfter (List.all_iff_forall_prop.mp (by decide))⟩
    · obtain ⟨username, password, host, small⟩ := Authority.isWritten_of_read isRead
      exact ⟨username, password, host, fun port member =>
        small port (Option.filter_eq_some_iff.mp member).1⟩
    · intro isDefault
      exact bne_iff_ne.mp (Option.filter_eq_some_iff.mp isDefault).2 rfl
  · cases isOther

end Written

end Url

end ProbeLifecycle
