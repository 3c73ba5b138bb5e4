import ProbeLifecycle.Proofs.Sequencing
import ProbeLifecycle.Proofs.SettingText

/-!
# Loaded settings

What is looked up for the settings decides what is loaded, where a blank value counts as
none.  The settings are checked part by part, and the first fault that is found is the
error.  Without a fault every setting is what its text writes, or its default, and the
credentials are there if all three parts of them are given.
-/

namespace ProbeLifecycle

open Text

def Text.WritesUpTo (largest number : Nat) (text : String) : Prop :=
  number ≤ largest ∧ WritesNumber number text

def Setting.Accepts : Setting → String → Prop
  | .httpPort, text => ∃ number, WritesUpTo (Nat.pow 2 16 - 1) number text
  | .onlyPublicClusters, text => ∃ flag, WritesFlag flag text
  | .httpTimeout, text => ∃ number, WritesUpTo (Nat.pow 2 64 - 1) number text
  | .deletionTimeout, text => ∃ number, WritesUpTo (Nat.pow 2 64 - 1) number text
  | .tokenExpiryLeeway, text => ∃ number, WritesUpTo (Nat.pow 2 64 - 1) number text
  | _, _ => True

namespace Settings

/-- The settings that are given together or not at all. -/
def credentialSettings : List Setting :=
  [.oidcClientId, .oidcClientSecret, .oidcIssuerUrl]

/-- The first of the settings for credentials that has a property. -/
def IsFirst (property : Setting → Prop) (setting : Setting) : Prop :=
  ∃ before after, credentialSettings = before ++ setting :: after ∧ property setting ∧
    ∀ earlier ∈ before, ¬ property earlier

inductive Part where
  | optional (setting : Setting)
  | required (setting : Setting)
  | credentials

def order : List Part :=
  [.optional .httpPort, .required .probeApiUrl, .required .tenant, .credentials,
    .optional .onlyPublicClusters, .optional .httpTimeout, .optional .deletionTimeout,
    .optional .tokenExpiryLeeway]

section Lookups

variable (lookup : Lookup)

/-- A setting has a value that is not blank. -/
def Gives (setting : Setting) (value : String) : Prop :=
  lookup setting.name = some value ∧ isBlank value = false

/-- A setting has no value, or a blank one. -/
def Lacks (setting : Setting) : Prop :=
  ∀ value, lookup setting.name = some value → isBlank value = true

/-- Two lookups find the same for a setting, where a blank value counts as none. -/
def SameFor (other : Lookup) (setting : Setting) : Prop :=
  other setting.name = lookup setting.name ∨
    (Lacks lookup setting ∧ Lacks other setting)

/-- What is wrong with a part of the settings: a value that cannot be read is shown as
it was found, and of incomplete credentials the first part that is given and the first
one that is not. -/
inductive HasFault : Part → SettingsError → Prop where
  | invalid {setting : Setting} {value : String} (gives : Gives lookup setting value)
      (unreadable : ¬ setting.Accepts value) :
      HasFault (.optional setting) (.invalid setting value)
  | missing {setting : Setting} (lacks : Lacks lookup setting) :
      HasFault (.required setting) (.missing setting)
  | partialCredentials {present absent : Setting}
      (isPresent : IsFirst (fun setting => ∃ value, Gives lookup setting value) present)
      (isAbsent : IsFirst (Lacks lookup) absent) :
      HasFault .credentials (.partialCredentials present absent)

inductive FirstFault : List Part → SettingsError → Prop where
  | here {part : Part} {parts : List Part} {error : SettingsError}
      (fault : HasFault lookup part error) : FirstFault (part :: parts) error
  | later {part : Part} {parts : List Part} {error : SettingsError}
      (sound : ∀ other, ¬ HasFault lookup part other) (rest : FirstFault parts error) :
      FirstFault (part :: parts) error

/-- What an optional setting is: its default, or what is written in its text. -/
inductive Takes {α : Type} (writes : α → String → Prop) (default : α)
    (setting : Setting) : α → Prop where
  | default (lacks : Lacks lookup setting) : Takes writes default setting default
  | written {text : String} {value : α} (gives : Gives lookup setting text)
      (isWritten : writes value text) : Takes writes default setting value

/-- What the credentials are: none, or the three parts with a scope. -/
inductive TakesCredentials : Option OidcClient → Prop where
  | absent (lacks : ∀ setting ∈ credentialSettings, Lacks lookup setting) :
      TakesCredentials none
  | complete {clientId clientSecret issuerUrl scope : String}
      (givesId : Gives lookup .oidcClientId clientId)
      (givesSecret : Gives lookup .oidcClientSecret clientSecret)
      (givesIssuer : Gives lookup .oidcIssuerUrl issuerUrl)
      (takesScope : Takes lookup Eq "profile" .oidcScope scope) :
      TakesCredentials (some ⟨clientId, clientSecret, issuerUrl, some scope⟩)

/-- The settings that a lookup describes. -/
structure Configures (settings : Settings) : Prop where
  httpPort : Takes lookup (WritesUpTo (Nat.pow 2 16 - 1)) 8080 .httpPort settings.httpPort
  probeApiUrl : Gives lookup .probeApiUrl settings.probeApiUrl
  tenant : Gives lookup .tenant settings.tenant
  oidc : TakesCredentials lookup settings.oidc
  onlyPublicClusters :
    Takes lookup WritesFlag false .onlyPublicClusters settings.onlyPublicClusters
  httpTimeout :
    Takes lookup (WritesUpTo (Nat.pow 2 64 - 1)) 30 .httpTimeout settings.httpTimeout
  deletionTimeout :
    Takes lookup (WritesUpTo (Nat.pow 2 64 - 1)) 900 .deletionTimeout settings.deletionTimeout
  tokenExpiryLeeway :
    Takes lookup (WritesUpTo (Nat.pow 2 64 - 1)) 30 .tokenExpiryLeeway
      settings.tokenExpiryLeeway

end Lookups

section Values

variable {lookup other : Lookup} {setting present absent : Setting} {value : String}

theorem value?_eq_some : value? lookup setting = some value ↔ Gives lookup setting value := by
  unfold value? Gives
  rw [Option.filter_eq_some_iff]
  simp

theorem value?_eq_none : value? lookup setting = none ↔ Lacks lookup setting := by
  unfold value? Lacks
  rw [Option.filter_eq_none_iff]
  simp

theorem exists_gives_iff :
    (∃ value, Gives lookup setting value) ↔ ¬ Lacks lookup setting := by
  simp only [← value?_eq_some, ← value?_eq_none]
  exact Option.ne_none_iff_exists'.symm

/-- Lookups that find the same for a setting agree on its value. -/
theorem SameFor.value?_eq (same : SameFor lookup other setting) :
    value? other setting = value? lookup setting := by
  rcases same with same | ⟨lacks, lacksToo⟩
  · unfold value?
    rw [same]
  · rw [value?_eq_none.mpr lacks, value?_eq_none.mpr lacksToo]

theorem isFirst_iff {property : Setting → Prop} :
    IsFirst property setting ↔
      (property .oidcClientId ∧ setting = .oidcClientId) ∨
        (¬ property .oidcClientId ∧ property .oidcClientSecret ∧
          setting = .oidcClientSecret) ∨
        (¬ property .oidcClientId ∧ ¬ property .oidcClientSecret ∧
          property .oidcIssuerUrl ∧ setting = .oidcIssuerUrl) := by
  constructor
  · rintro ⟨before, after, cut, holds, first⟩
    match before with
    | [] =>
        cases cut
        exact .inl ⟨holds, rfl⟩
    | [_] =>
        cases cut
        exact .inr (.inl ⟨first _ (by simp), holds, rfl⟩)
    | [_, _] =>
        cases cut
        exact .inr (.inr ⟨first _ (by simp), first _ (by simp), holds, rfl⟩)
    | _ :: _ :: _ :: before => cases before <;> cases cut
  · rintro (⟨holds, rfl⟩ | ⟨first, holds, rfl⟩ | ⟨first, second, holds, rfl⟩)
    · exact ⟨[], _, rfl, holds, by simp⟩
    · exact ⟨[_], _, rfl, holds, by simpa using first⟩
    · exact ⟨[_, _], _, rfl, holds, by simpa using ⟨first, second⟩⟩

end Values

section Checks

variable {lookup : Lookup} {setting : Setting} {error : SettingsError}

/-- A value is read from trimmed text exactly if the text writes it. -/
def Reads {α : Type} (read : String → Option α) (writes : α → String → Prop) : Prop :=
  ∀ {text value}, read (trim text) = some value ↔ writes value text

section Optional

variable {α : Type} {read : String → Option α} {writes : α → String → Prop}
  {default result : α}

theorem readValue_eq_ok (reads : Reads read writes) :
    readValue lookup read default setting = .ok result ↔
      Takes lookup writes default setting result := by
  unfold readValue
  constructor
  · intro taken
    split at taken
    · rename_i absent
      cases taken
      exact .default (value?_eq_none.mp absent)
    · rename_i text found
      split at taken
      · rename_i value isRead
        cases taken
        exact .written (value?_eq_some.mp found) (reads.mp isRead)
      · cases taken
  · intro takes
    cases takes with
    | default lacks => rw [value?_eq_none.mpr lacks]
    | written gives isWritten =>
        rw [value?_eq_some.mpr gives]
        dsimp only
        rw [reads.mpr isWritten]

theorem readValue_eq_error (reads : Reads read writes)
    (accepts : ∀ text, setting.Accepts text ↔ ∃ value, writes value text) :
    readValue lookup read default setting = .error error ↔
      HasFault lookup (.optional setting) error := by
  unfold readValue
  constructor
  · intro failed
    split at failed
    · cases failed
    · rename_i text found
      split at failed
      · cases failed
      · rename_i unread
        cases failed
        refine .invalid (value?_eq_some.mp found) fun accepted => ?_
        obtain ⟨value, writes⟩ := (accepts text).mp accepted
        rw [reads.mpr writes] at unread
        cases unread
  · intro fault
    cases fault with
    | @invalid _ text gives unreadable =>
        rw [value?_eq_some.mpr gives]
        dsimp only
        cases isRead : read (trim text) with
        | none => rfl
        | some value =>
            exact absurd ((accepts text).mpr ⟨value, reads.mp isRead⟩) unreadable

end Optional

theorem reads_port : Reads (decimal? largestPort) (WritesUpTo (Nat.pow 2 16 - 1)) :=
  decimal?_trim_eq_some

theorem reads_seconds : Reads (decimal? largestSeconds) (WritesUpTo (Nat.pow 2 64 - 1)) :=
  decimal?_trim_eq_some

theorem reads_flag : Reads flag? WritesFlag :=
  flag?_trim_eq_some

theorem requiredValue_eq_ok {value : String} :
    requiredValue lookup setting = .ok value ↔ Gives lookup setting value := by
  rw [← value?_eq_some]
  unfold requiredValue
  cases value? lookup setting <;> simp

theorem requiredValue_eq_error :
    requiredValue lookup setting = .error error ↔
      HasFault lookup (.required setting) error := by
  constructor
  · intro failed
    unfold requiredValue at failed
    split at failed
    · cases failed
    · rename_i absent
      cases failed
      exact .missing (value?_eq_none.mp absent)
  · intro fault
    cases fault with
    | missing lacks =>
        unfold requiredValue
        rw [value?_eq_none.mpr lacks]

theorem readCredentials_eq_ok {oidc : Option OidcClient} :
    readCredentials lookup = .ok oidc ↔ TakesCredentials lookup oidc := by
  unfold readCredentials
  constructor
  · intro taken
    split at taken
    · rename_i noId noSecret noIssuer
      cases taken
      refine .absent ?_
      simp only [credentialSettings, List.mem_cons, List.not_mem_nil, or_false,
        forall_eq_or_imp, forall_eq]
      exact ⟨value?_eq_none.mp noId, value?_eq_none.mp noSecret, value?_eq_none.mp noIssuer⟩
    · rename_i isId isSecret isIssuer
      cases taken
      refine .complete (value?_eq_some.mp isId) (value?_eq_some.mp isSecret)
        (value?_eq_some.mp isIssuer) ?_
      cases isScope : value? lookup .oidcScope with
      | none => exact .default (value?_eq_none.mp isScope)
      | some scope => exact .written (value?_eq_some.mp isScope) rfl
    · cases taken
  · intro takes
    cases takes with
    | absent lacks =>
        rw [value?_eq_none.mpr (lacks .oidcClientId (by decide)),
          value?_eq_none.mpr (lacks .oidcClientSecret (by decide)),
          value?_eq_none.mpr (lacks .oidcIssuerUrl (by decide))]
    | complete isId isSecret isIssuer isScope =>
        rw [value?_eq_some.mpr isId, value?_eq_some.mpr isSecret,
          value?_eq_some.mpr isIssuer]
        cases isScope with
        | default lacks => rw [value?_eq_none.mpr lacks]; rfl
        | written gives same =>
            subst same
            rw [value?_eq_some.mpr gives]
            rfl

theorem readCredentials_eq_error :
    readCredentials lookup = .error error ↔ HasFault lookup .credentials error := by
  have fault_iff : HasFault lookup .credentials error ↔
      ∃ present absent,
        IsFirst (fun setting => ∃ value, Gives lookup setting value) present ∧
          IsFirst (Lacks lookup) absent ∧ error = .partialCredentials present absent := by
    constructor
    · intro fault
      cases fault with
      | partialCredentials isPresent isAbsent => exact ⟨_, _, isPresent, isAbsent, rfl⟩
    · rintro ⟨present, absent, isPresent, isAbsent, rfl⟩
      exact .partialCredentials isPresent isAbsent
  rw [fault_iff]
  simp only [isFirst_iff, exists_gives_iff, ← value?_eq_none]
  unfold readCredentials
  -- Each of the three parts is given or not.
  cases value? lookup .oidcClientId <;> cases value? lookup .oidcClientSecret <;>
    cases value? lookup .oidcIssuerUrl <;> simp [eq_comm]

end Checks

section Loading

variable {lookup : Lookup} {error : SettingsError} {settings : Settings}

/-- A check that finds the faults of a part comes before the rest. -/
theorem check_then_eq_error {α β : Type} {check : Except SettingsError α}
    {next : α → Except SettingsError β} {part : Part} {parts : List Part}
    (checks : ∀ {error}, check = .error error ↔ HasFault lookup part error)
    (rest : ∀ value, next value = .error error ↔ FirstFault lookup parts error) :
    check >>= next = .error error ↔ FirstFault lookup (part :: parts) error := by
  refine bind_eq_error.trans ⟨?_, fun first => ?_⟩
  · rintro (found | ⟨value, passed, later⟩)
    · exact .here (checks.mp found)
    · exact .later (fun other fault => nomatch passed.symm.trans (checks.mpr fault))
        ((rest value).mp later)
  · cases first with
    | here fault => exact .inl (checks.mpr fault)
    | later sound first =>
        cases check with
        | error found => exact absurd (checks.mp rfl) (sound found)
        | ok value => exact .inr ⟨value, rfl, (rest value).mpr first⟩

theorem load_eq_error : load lookup = .error error ↔ FirstFault lookup order error := by
  refine check_then_eq_error (readValue_eq_error reads_port fun _ => .rfl) fun httpPort => ?_
  refine check_then_eq_error requiredValue_eq_error fun probeApiUrl => ?_
  refine check_then_eq_error requiredValue_eq_error fun tenant => ?_
  refine check_then_eq_error readCredentials_eq_error fun oidc => ?_
  refine check_then_eq_error (readValue_eq_error reads_flag fun _ => .rfl) fun flag => ?_
  refine check_then_eq_error (readValue_eq_error reads_seconds fun _ => .rfl) fun timeout => ?_
  refine check_then_eq_error (readValue_eq_error reads_seconds fun _ => .rfl) fun limit => ?_
  refine check_then_eq_error (readValue_eq_error reads_seconds fun _ => .rfl) fun leeway => ?_
  constructor
  · nofun
  · nofun

theorem load_eq_ok : load lookup = .ok settings ↔ Configures lookup settings := by
  constructor
  · intro loaded
    obtain ⟨httpPort, isPort, loaded⟩ := bind_eq_ok.mp loaded
    obtain ⟨probeApiUrl, isUrl, loaded⟩ := bind_eq_ok.mp loaded
    obtain ⟨tenant, isTenant, loaded⟩ := bind_eq_ok.mp loaded
    obtain ⟨oidc, areCredentials, loaded⟩ := bind_eq_ok.mp loaded
    obtain ⟨flag, isFlag, loaded⟩ := bind_eq_ok.mp loaded
    obtain ⟨timeout, isTimeout, loaded⟩ := bind_eq_ok.mp loaded
    obtain ⟨limit, isLimit, loaded⟩ := bind_eq_ok.mp loaded
    obtain ⟨leeway, isLeeway, loaded⟩ := bind_eq_ok.mp loaded
    cases loaded
    exact {
      httpPort := (readValue_eq_ok reads_port).mp isPort
      probeApiUrl := requiredValue_eq_ok.mp isUrl
      tenant := requiredValue_eq_ok.mp isTenant
      oidc := readCredentials_eq_ok.mp areCredentials
      onlyPublicClusters := (readValue_eq_ok reads_flag).mp isFlag
      httpTimeout := (readValue_eq_ok reads_seconds).mp isTimeout
      deletionTimeout := (readValue_eq_ok reads_seconds).mp isLimit
      tokenExpiryLeeway := (readValue_eq_ok reads_seconds).mp isLeeway }
  · intro configures
    rw [load, (readValue_eq_ok reads_port).mpr configures.httpPort,
      requiredValue_eq_ok.mpr configures.probeApiUrl,
      requiredValue_eq_ok.mpr configures.tenant,
      readCredentials_eq_ok.mpr configures.oidc,
      (readValue_eq_ok reads_flag).mpr configures.onlyPublicClusters,
      (readValue_eq_ok reads_seconds).mpr configures.httpTimeout,
      (readValue_eq_ok reads_seconds).mpr configures.deletionTimeout,
      (readValue_eq_ok reads_seconds).mpr configures.tokenExpiryLeeway]
    rfl

/-- Some part has a first fault, or no part has any. -/
theorem exists_firstFault_or_sound (lookup : Lookup) (parts : List Part) :
    (∃ error, FirstFault lookup parts error) ∨
      ∀ part ∈ parts, ∀ error, ¬ HasFault lookup part error := by
  induction parts with
  | nil => exact .inr nofun
  | cons part parts ih =>
      by_cases faulty : ∃ error, HasFault lookup part error
      · obtain ⟨error, fault⟩ := faulty
        exact .inl ⟨error, .here fault⟩
      · have sound : ∀ error, ¬ HasFault lookup part error :=
          fun error fault => faulty ⟨error, fault⟩
        rcases ih with ⟨error, first⟩ | allSound
        · exact .inl ⟨error, .later sound first⟩
        · refine .inr fun other member => ?_
          rcases List.mem_cons.mp member with rfl | later
          · exact sound
          · exact allSound other later

theorem FirstFault.exists_hasFault {parts : List Part}
    (first : FirstFault lookup parts error) : ∃ part ∈ parts, HasFault lookup part error := by
  induction first with
  | here fault => exact ⟨_, List.mem_cons_self, fault⟩
  | later sound rest ih =>
      obtain ⟨part, member, fault⟩ := ih
      exact ⟨part, List.mem_cons_of_mem _ member, fault⟩

theorem exists_load_eq_ok_iff :
    (∃ settings, load lookup = .ok settings) ↔
      ∀ part ∈ order, ∀ error, ¬ HasFault lookup part error := by
  constructor
  · rintro ⟨settings, loaded⟩
    rcases exists_firstFault_or_sound lookup order with ⟨error, first⟩ | sound
    · rw [load_eq_error.mpr first] at loaded
      cases loaded
    · exact sound
  · intro sound
    cases loaded : load lookup with
    | ok settings => exact ⟨settings, rfl⟩
    | error error =>
        obtain ⟨part, member, fault⟩ := (load_eq_error.mp loaded).exists_hasFault
        exact absurd fault (sound part member error)

theorem TakesCredentials.isSome_iff {oidc : Option OidcClient}
    (takes : TakesCredentials lookup oidc) :
    (oidc.isSome = true ↔
        ∀ setting ∈ credentialSettings, ∃ value, Gives lookup setting value) ∧
      (oidc = none ↔ ∀ setting ∈ credentialSettings, Lacks lookup setting) := by
  have isFirstPart : Setting.oidcClientId ∈ credentialSettings := by decide
  cases takes with
  | absent lacks =>
      refine ⟨⟨(absurd · Bool.false_ne_true), fun gives => ?_⟩, ⟨fun _ => lacks, fun _ => rfl⟩⟩
      exact absurd (lacks _ isFirstPart) (exists_gives_iff.mp (gives _ isFirstPart))
  | complete isId isSecret isIssuer isScope =>
      refine ⟨⟨fun _ => ?_, fun _ => rfl⟩, ⟨nofun, fun lacks => ?_⟩⟩
      · simp only [credentialSettings, List.mem_cons, List.not_mem_nil, or_false,
          forall_eq_or_imp, forall_eq]
        exact ⟨⟨_, isId⟩, ⟨_, isSecret⟩, ⟨_, isIssuer⟩⟩
      · exact absurd (lacks _ isFirstPart) (exists_gives_iff.mp ⟨_, isId⟩)

theorem exists_partialCredentials_iff :
    (∃ present absent, HasFault lookup .credentials (.partialCredentials present absent)) ↔
      (∃ setting ∈ credentialSettings, ∃ value, Gives lookup setting value) ∧
        ∃ setting ∈ credentialSettings, Lacks lookup setting := by
  have isFirst_of_exists : ∀ property : Setting → Prop,
      (∃ setting, IsFirst property setting) ↔ ∃ setting ∈ credentialSettings, property setting := by
    intro property
    simp only [isFirst_iff, credentialSettings]
    by_cases first : property .oidcClientId
    · simp [first]
    · by_cases second : property .oidcClientSecret
      · simp [first, second]
      · simp [first, second]
  rw [← isFirst_of_exists, ← isFirst_of_exists]
  constructor
  · rintro ⟨present, absent, fault⟩
    cases fault with
    | partialCredentials isPresent isAbsent =>
        exact ⟨⟨present, isPresent⟩, ⟨absent, isAbsent⟩⟩
  · rintro ⟨⟨present, isPresent⟩, ⟨absent, isAbsent⟩⟩
    exact ⟨present, absent, .partialCredentials isPresent isAbsent⟩

/-- What is loaded depends on the settings alone, where a blank value counts as none.
It is the first fault in the order of the parts, and if no part has a fault it is what
the lookup describes.  So the credentials are there exactly if all three parts of them
are given, absent exactly if none is, and faulty otherwise; then the part that is
reported as given is another than the one that is not. -/
theorem load_decided (lookup : Lookup) :
    (∀ other, (∀ setting, SameFor lookup other setting) → load other = load lookup) ∧
      (∀ error, load lookup = .error error ↔ FirstFault lookup order error) ∧
      ((∃ settings, load lookup = .ok settings) ↔
        ∀ part ∈ order, ∀ error, ¬ HasFault lookup part error) ∧
      (∀ settings, load lookup = .ok settings ↔ Configures lookup settings) ∧
      (∀ settings, load lookup = .ok settings →
        (settings.oidc.isSome = true ↔
            ∀ setting ∈ credentialSettings, ∃ value, Gives lookup setting value) ∧
          (settings.oidc = none ↔
            ∀ setting ∈ credentialSettings, Lacks lookup setting)) ∧
      ((∃ present absent,
          HasFault lookup .credentials (.partialCredentials present absent)) ↔
        (∃ setting ∈ credentialSettings, ∃ value, Gives lookup setting value) ∧
          ∃ setting ∈ credentialSettings, Lacks lookup setting) ∧
      ∀ present absent, HasFault lookup .credentials (.partialCredentials present absent) →
        present ≠ absent := by
  refine ⟨fun other same => ?_, fun error => load_eq_error, exists_load_eq_ok_iff,
    fun settings => load_eq_ok, fun settings loaded => ?_, exists_partialCredentials_iff, ?_⟩
  · have sameValue : value? other = value? lookup :=
      funext fun setting => (same setting).value?_eq
    unfold load readValue requiredValue readCredentials
    rw [sameValue]
  · exact (load_eq_ok.mp loaded).oidc.isSome_iff
  · rintro present _ fault rfl
    cases fault with
    | partialCredentials isPresent isAbsent =>
        obtain ⟨-, -, -, gives, -⟩ := isPresent
        obtain ⟨-, -, -, lacks, -⟩ := isAbsent
        exact absurd lacks (exists_gives_iff.mp gives)

/-- A port with a sign, zeros and white space is no fault, and incomplete credentials are
found before a timeout that is not a number. -/
example :
    load (fun name => [("PROBESYNC_HTTP_PORT", " +0080\t"),
      ("PROBESYNC_PROBE_API_URL", "http://probes"), ("PROBESYNC_TENANT", "hcp"),
      ("PROBESYNC_OIDC_CLIENT_SECRET", "s"), ("PROBESYNC_OIDC_ISSUER_URL", "\u00a0"),
      ("PROBESYNC_HTTP_TIMEOUT_SECS", "soon")].lookup name) =
      .error (.partialCredentials .oidcClientSecret .oidcClientId) := by
  decide +kernel

end Loading

end Settings

end ProbeLifecycle
