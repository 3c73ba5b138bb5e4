import ProbeLifecycle.Proofs.HostText
import ProbeLifecycle.Proofs.ResolvedPaths
import ProbeLifecycle.Proofs.Sequencing
import ProbeLifecycle.Url.Authority

/-!
# Authorities as they are written

User name and password, host and port are written one after the other, and none of them
holds a sign that stands between them.  So an authority is cut where it was put
together.
-/

namespace ProbeLifecycle

open Text

namespace Text

theorem takeWhile_stop {α : Type} {pass : α → Bool} {front rest : List α}
    (passes : ∀ element ∈ front, pass element = true)
    (stops : ∀ element ∈ rest.head?, pass element = false) :
    (front ++ rest).takeWhile pass = front := by
  rw [List.takeWhile_append_of_pos passes]
  cases rest with
  | nil => simp
  | cons first rest => simp [stops first rfl]

theorem dropWhile_stop {α : Type} {pass : α → Bool} {front rest : List α}
    (passes : ∀ element ∈ front, pass element = true)
    (stops : ∀ element ∈ rest.head?, pass element = false) :
    (front ++ rest).dropWhile pass = rest := by
  rw [List.dropWhile_append_of_pos passes]
  cases rest with
  | nil => rfl
  | cons first rest => simp [stops first rfl]

end Text

namespace Authority

section Cutting

variable {chars rest host : List Char}

theorem splitUserinfo_none (plain : ∀ char ∈ chars, char ≠ '@') :
    splitUserinfo chars = (none, chars) := by
  have whole : chars.reverse.takeWhile (· != '@') = chars.reverse := by
    rw [List.takeWhile_eq_self_iff]
    intro char member
    exact bne_iff_ne.mpr (plain char (List.mem_reverse.mp member))
  have absent : chars.contains '@' = false := by
    rw [List.contains_eq_mem, decide_eq_false_iff_not]
    exact fun member => plain '@' member rfl
  unfold splitUserinfo
  rw [whole, List.reverse_reverse, absent]
  rfl

theorem splitUserinfo_some (plain : ∀ char ∈ rest, char ≠ '@') :
    splitUserinfo (chars ++ '@' :: rest) = (some chars, rest) := by
  have after : (chars ++ '@' :: rest).reverse.takeWhile (· != '@') = rest.reverse := by
    rw [List.reverse_append, List.reverse_cons, List.append_assoc]
    refine takeWhile_stop (fun char member => ?_) (by simp)
    exact bne_iff_ne.mpr (plain char (List.mem_reverse.mp member))
  have present : (chars ++ '@' :: rest).contains '@' = true := by simp
  have length : (chars ++ '@' :: rest).length - rest.length - 1 = chars.length := by
    simp only [List.length_append, List.length_cons]
    omega
  unfold splitUserinfo
  rw [after, List.reverse_reverse, present]
  dsimp only
  rw [if_pos rfl, length, List.take_left]

theorem takeHost_plain (plain : ∀ char ∈ chars, char ≠ ':' ∧ char ≠ '[')
    (rest : List Char) :
    takeHost false (chars ++ rest) = chars ++ takeHost false rest := by
  induction chars with
  | nil => rfl
  | cons first chars ih =>
      obtain ⟨notColon, notBracket⟩ := plain first List.mem_cons_self
      have later := ih fun char member => plain char (List.mem_cons_of_mem _ member)
      simp [takeHost, notColon, notBracket, later]

theorem takeHost_inside (plain : ∀ char ∈ chars, char ≠ ']') (rest : List Char) :
    takeHost true (chars ++ ']' :: rest) = chars ++ ']' :: takeHost false rest := by
  induction chars with
  | nil => simp [takeHost]
  | cons first chars ih =>
      have later := ih fun char member => plain char (List.mem_cons_of_mem _ member)
      have notLast : (first != ']') = true :=
        bne_iff_ne.mpr (plain first List.mem_cons_self)
      simp [takeHost, notLast, later]

theorem takeHost_written (written : Host.IsWritten host)
    (isPort : ∀ char ∈ rest.head?, char = ':') :
    takeHost false (host ++ rest) = host := by
  have ends : takeHost false rest = [] := by
    cases rest with
    | nil => rfl
    | cons first rest => simp [takeHost, isPort first rfl]
  rcases written.shape with ⟨-, plain⟩ | ⟨inside, rfl, plain⟩
  · rw [takeHost_plain _ rest, ends, List.append_nil]
    intro char member
    constructor
    · rintro rfl
      exact absurd (plain ':' member) (by decide)
    · rintro rfl
      exact absurd (plain '[' member) (by decide)
  · have notBracket : ∀ char ∈ inside, char ≠ ']' := by
      rintro char member rfl
      exact absurd (plain ']' member) (by decide)
    have closed := takeHost_inside notBracket rest
    simp [takeHost, closed, ends]

end Cutting

def portChars : Option Nat → List Char
  | none => []
  | some port => ':' :: Nat.toDigits 10 port

def credentialChars (authority : Authority) : List Char :=
  if authority.username = "" ∧ authority.password = "" then []
  else if authority.password = "" then authority.username.toList ++ ['@']
  else authority.username.toList ++ ':' :: (authority.password.toList ++ ['@'])

def chars (authority : Authority) : List Char :=
  authority.credentialChars ++ (authority.host.toList ++ portChars authority.port)

/-- An authority with every part in the form in which it is written. -/
structure IsWritten (authority : Authority) : Prop where
  username : ∀ char ∈ authority.username.toList, isUserinfoChar char = true
  password : ∀ char ∈ authority.password.toList, isUserinfoChar char = true
  host : Host.IsWritten authority.host.toList
  port : ∀ port ∈ authority.port, port ≤ 65535

section Written

variable {authority : Authority} {text : List Char} {port : Option Nat} {char : Char}

theorem isUserinfoChar_userinfoText (text : List Char) :
    ∀ char ∈ (userinfoText text).toList, isUserinfoChar char = true := by
  intro char member
  rw [userinfoText, String.toList_ofList] at member
  exact keep_of_mem_percentEncode (List.all_iff_forall_prop.mp (by decide)) member

theorem readPort_le (isRead : readPort text = .ok port) :
    ∀ number ∈ port, number ≤ 65535 := by
  intro number member
  unfold readPort at isRead
  split at isRead
  · obtain rfl := Except.ok.inj isRead
    cases member
  · split at isRead
    · rename_i isPort
      obtain rfl := Except.ok.inj isRead
      obtain rfl := Option.some.inj member
      exact isPort.2
    · cases isRead

/-- What is read as an authority is written as such. -/
theorem isWritten_of_read (isRead : Authority.read text = .ok authority) :
    authority.IsWritten := by
  unfold Authority.read at isRead
  dsimp only at isRead
  split at isRead
  · cases isRead
  · obtain ⟨host, hostRead, isRead⟩ := bind_eq_ok.mp isRead
    obtain ⟨port, portRead, isRead⟩ := bind_eq_ok.mp isRead
    cases isRead
    exact ⟨isUserinfoChar_userinfoText _, isUserinfoChar_userinfoText _,
      Host.isWritten_of_read hostRead, readPort_le portRead⟩

theorem mem_portChars (member : char ∈ portChars port) :
    char = ':' ∨ char ∈ Ipv4.textChars := by
  cases port with
  | none => cases member
  | some number =>
      rcases List.mem_cons.mp member with isColon | isDigit
      · exact .inl isColon
      · exact .inr (Ipv4.mem_toDigits isDigit)

theorem readPort_portChars (small : ∀ number ∈ port, number ≤ 65535) :
    readPort (((portChars port).drop 1).takeWhile (· != '\\')) = .ok port := by
  cases port with
  | none => rfl
  | some number =>
      have digits : ∀ char ∈ Nat.toDigits 10 number, char.isDigit = true :=
        fun char member => Nat.isDigit_of_mem_toDigits (by decide) (by decide) member
      have whole : (Nat.toDigits 10 number).takeWhile (· != '\\') =
          Nat.toDigits 10 number := by
        rw [List.takeWhile_eq_self_iff]
        rintro char member
        refine bne_iff_ne.mpr ?_
        rintro rfl
        exact absurd (digits _ member) (by decide)
      have value : digitsValue (Nat.toDigits 10 number) = number :=
        Nat.ofDigitChars_toDigits (by decide) (by decide)
      have isPort : (Nat.toDigits 10 number).all Char.isDigit ∧
          digitsValue (Nat.toDigits 10 number) ≤ 65535 :=
        ⟨List.all_eq_true.mpr digits, value.symm ▸ small number rfl⟩
      change readPort ((Nat.toDigits 10 number).takeWhile _) = _
      unfold readPort
      rw [whole, if_neg (by simp [Nat.toDigits_ne_nil]), if_pos isPort, value]

/-- A character in an authority that does not end it, and no space. -/
def IsInside (char : Char) : Prop :=
  0x20 < char.toNat ∧ char ∉ ['/', '\\', '?', '#']

theorem isInside_userinfoChar (kept : isUserinfoChar char = true) : IsInside char := by
  refine ⟨lt_of_visibleExcept kept (by decide), fun listed => ?_⟩
  have escaped : ∀ char ∈ ['/', '\\', '?', '#'], isUserinfoChar char = false :=
    List.all_iff_forall_prop.mp (by decide)
  rw [escaped char listed] at kept
  cases kept

theorem isInside_portChars (member : char ∈ portChars port) :
    IsInside char ∧ char ≠ '@' := by
  have all : ∀ char ∈ ':' :: Ipv4.textChars,
      (0x20 < char.toNat ∧ char ∉ ['/', '\\', '?', '#']) ∧ char ≠ '@' :=
    List.all_iff_forall_prop.mp (by decide)
  exact all char (List.mem_cons.mpr (mem_portChars member))

theorem IsWritten.isInside_host (written : authority.IsWritten)
    (member : char ∈ authority.host.toList ++ portChars authority.port) :
    IsInside char ∧ char ≠ '@' := by
  rcases List.mem_append.mp member with inHost | inPort
  · obtain ⟨visible, unlisted⟩ := written.host.mem inHost
    rw [List.mem_cons, not_or] at unlisted
    exact ⟨⟨visible, unlisted.2⟩, unlisted.1⟩
  · exact isInside_portChars inPort

theorem IsWritten.isInside_credentials (written : authority.IsWritten)
    (member : char ∈ authority.credentialChars) : IsInside char := by
  have sign : ∀ char ∈ [':', '@'],
      0x20 < char.toNat ∧ char ∉ ['/', '\\', '?', '#'] :=
    List.all_iff_forall_prop.mp (by decide)
  have username := fun inName => isInside_userinfoChar (written.username char inName)
  have password := fun inWord => isInside_userinfoChar (written.password char inWord)
  unfold credentialChars at member
  split at member
  · cases member
  · split at member
    · simp only [List.mem_append, List.mem_singleton] at member
      rcases member with inName | rfl
      · exact username inName
      · exact sign '@' (by decide)
    · simp only [List.mem_append, List.mem_cons, List.not_mem_nil, or_false] at member
      rcases member with inName | rfl | inWord | rfl
      · exact username inName
      · exact sign ':' (by decide)
      · exact password inWord
      · exact sign '@' (by decide)

theorem IsWritten.isInside (written : authority.IsWritten)
    (member : char ∈ authority.chars) : IsInside char := by
  rcases List.mem_append.mp member with inCredentials | inHost
  · exact written.isInside_credentials inCredentials
  · exact (written.isInside_host inHost).1

theorem IsWritten.chars_ne_nil (written : authority.IsWritten) :
    authority.chars ≠ [] := by
  unfold chars
  simp [written.host.ne_nil]

/-- What is before the host is cut off it, and is itself cut at its first colon. -/
theorem splitUserinfo_chars (written : authority.IsWritten) :
    ∃ userinfo, splitUserinfo authority.chars =
        (userinfo, authority.host.toList ++ portChars authority.port) ∧
      (userinfo.getD []).takeWhile (· != ':') = authority.username.toList ∧
      ((userinfo.getD []).dropWhile (· != ':')).drop 1 = authority.password.toList := by
  have noSign : ∀ char ∈ authority.host.toList ++ portChars authority.port,
      char ≠ '@' := fun char member => (written.isInside_host member).2
  have name : ∀ char ∈ authority.username.toList, (char != ':') = true :=
    fun char member =>
      bne_iff_ne.mpr (ne_of_visibleExcept (written.username char member) (by decide))
  unfold chars credentialChars
  split
  · rename_i empty
    exact ⟨none, splitUserinfo_none noSign, by simp [empty], by simp [empty]⟩
  · split
    · rename_i empty
      refine ⟨some authority.username.toList, ?_,
        List.takeWhile_eq_self_iff.mpr name, ?_⟩
      · rw [List.append_assoc]
        exact splitUserinfo_some noSign
      · rw [Option.getD_some, List.dropWhile_eq_nil_iff.mpr name, empty]
        rfl
    · refine ⟨some (authority.username.toList ++ ':' :: authority.password.toList), ?_,
        takeWhile_stop name (by simp), ?_⟩
      · rw [← splitUserinfo_some noSign]
        simp
      · rw [Option.getD_some, dropWhile_stop name (by simp)]
        rfl

theorem cut_chars (written : authority.IsWritten) :
    cut authority.chars =
      { username := authority.username.toList
        password := authority.password.toList
        host := authority.host.toList
        port := portChars authority.port } := by
  have isPort : ∀ char ∈ (portChars authority.port).head?, char = ':' := by
    cases authority.port with
    | none => simp [portChars]
    | some port => simp [portChars]
  obtain ⟨userinfo, split, username, password⟩ := splitUserinfo_chars written
  unfold cut
  rw [split]
  dsimp only
  rw [username, password, takeHost_written written.host isPort, List.drop_left]

/-- An authority is read as it is written. -/
theorem read_chars (written : authority.IsWritten) :
    Authority.read authority.chars = .ok authority := by
  have notEmpty : authority.host.toList.isEmpty = false := by
    simpa using written.host.ne_nil
  have username : userinfoText authority.username.toList = authority.username := by
    rw [userinfoText, percentEncode_eq_self written.username, String.ofList_toList]
  have password : userinfoText authority.password.toList = authority.password := by
    rw [userinfoText, percentEncode_eq_self written.password, String.ofList_toList]
  unfold Authority.read
  rw [cut_chars written]
  dsimp only
  rw [notEmpty]
  simp only [Bool.false_eq_true, if_false, ofParts, written.host.read,
    String.ofList_toList, readPort_portChars written.port, username, password, bind,
    Except.bind, pure, Except.pure]

end Written

end Authority

end ProbeLifecycle
