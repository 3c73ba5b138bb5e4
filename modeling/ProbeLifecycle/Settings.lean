import ProbeLifecycle.Text.Decimal
import ProbeLifecycle.Text.WhiteSpace
import ProbeLifecycle.Token.OidcClient

/-!
# Settings

The service is configured by named values, looked up by name.  A blank value
counts as absent.  Some settings are required, others have defaults, and the
credentials for the token issuer are given together or not at all.
-/

namespace ProbeLifecycle

open Text

inductive Setting where
  | httpPort
  | probeApiUrl
  | tenant
  | oidcClientId
  | oidcClientSecret
  | oidcIssuerUrl
  | oidcScope
  | onlyPublicClusters
  | httpTimeout
  | deletionTimeout
  | tokenExpiryLeeway
  deriving DecidableEq, Repr

def Setting.name : Setting → String
  | httpPort => "PROBESYNC_HTTP_PORT"
  | probeApiUrl => "PROBESYNC_PROBE_API_URL"
  | tenant => "PROBESYNC_TENANT"
  | oidcClientId => "PROBESYNC_OIDC_CLIENT_ID"
  | oidcClientSecret => "PROBESYNC_OIDC_CLIENT_SECRET"
  | oidcIssuerUrl => "PROBESYNC_OIDC_ISSUER_URL"
  | oidcScope => "PROBESYNC_OIDC_SCOPE"
  | onlyPublicClusters => "PROBESYNC_ONLY_PUBLIC_CLUSTERS"
  | httpTimeout => "PROBESYNC_HTTP_TIMEOUT_SECS"
  | deletionTimeout => "PROBESYNC_DELETION_TIMEOUT_SECS"
  | tokenExpiryLeeway => "PROBESYNC_TOKEN_EXPIRY_LEEWAY_SECS"

/-- Why the settings are unusable. -/
inductive SettingsError where
  | missing (setting : Setting)
  | invalid (setting : Setting) (value : String)
  | partialCredentials (present absent : Setting)
  deriving DecidableEq, Repr

def SettingsError.message : SettingsError → String
  | missing setting => "missing required setting " ++ setting.name
  | invalid setting value =>
      "invalid value for " ++ setting.name ++ ": " ++ quoted value
  | partialCredentials present absent =>
      "incomplete OIDC configuration: " ++ present.name ++ " is set but " ++
        absent.name ++ " is not"

/-- The configuration of the service; times are in seconds. -/
structure Settings where
  httpPort : Nat
  probeApiUrl : String
  tenant : String
  oidc : Option OidcClient
  onlyPublicClusters : Bool
  httpTimeout : Nat
  deletionTimeout : Nat
  tokenExpiryLeeway : Nat
  deriving DecidableEq

namespace Settings

abbrev Lookup := String → Option String

variable (lookup : Lookup)

/-- The value of a setting that is present and not blank. -/
def value? (setting : Setting) : Option String :=
  (lookup setting.name).filter fun value => !isBlank value

def requiredValue (setting : Setting) : Except SettingsError String :=
  match value? lookup setting with
  | some value => .ok value
  | none => .error (.missing setting)

/-- The value of a setting that is read from its trimmed text, or the default. -/
def readValue {α : Type} (read : String → Option α) (default : α)
    (setting : Setting) : Except SettingsError α :=
  match value? lookup setting with
  | none => .ok default
  | some value =>
      match read (trim value) with
      | some result => .ok result
      | none => .error (.invalid setting value)

def largestPort : Nat := Nat.pow 2 16 - 1

/-- The largest number of seconds that a setting can give. -/
def largestSeconds : Nat := Nat.pow 2 64 - 1

def flag? (text : String) : Option Bool :=
  if text = "true" then some true
  else if text = "false" then some false
  else none

def readCredentials : Except SettingsError (Option OidcClient) :=
  match value? lookup .oidcClientId, value? lookup .oidcClientSecret,
    value? lookup .oidcIssuerUrl with
  | none, none, none => .ok none
  | some clientId, some clientSecret, some issuerUrl =>
      .ok (some {
        clientId
        clientSecret
        issuerUrl
        scope := some ((value? lookup .oidcScope).getD "profile") })
  | clientId, clientSecret, _ =>
      let present : Setting :=
        if clientId.isSome then .oidcClientId
        else if clientSecret.isSome then .oidcClientSecret
        else .oidcIssuerUrl
      let absent : Setting :=
        if clientId.isNone then .oidcClientId
        else if clientSecret.isNone then .oidcClientSecret
        else .oidcIssuerUrl
      .error (.partialCredentials present absent)

/-- Reads all settings; the first fault in their order is reported. -/
def load : Except SettingsError Settings := do
  let httpPort ← readValue lookup (decimal? largestPort) 8080 .httpPort
  let probeApiUrl ← requiredValue lookup .probeApiUrl
  let tenant ← requiredValue lookup .tenant
  let oidc ← readCredentials lookup
  let onlyPublicClusters ← readValue lookup flag? false .onlyPublicClusters
  let httpTimeout ← readValue lookup (decimal? largestSeconds) 30 .httpTimeout
  let deletionTimeout ←
    readValue lookup (decimal? largestSeconds) 900 .deletionTimeout
  let tokenExpiryLeeway ←
    readValue lookup (decimal? largestSeconds) 30 .tokenExpiryLeeway
  return {
    httpPort
    probeApiUrl
    tenant
    oidc
    onlyPublicClusters
    httpTimeout
    deletionTimeout
    tokenExpiryLeeway }

end Settings

end ProbeLifecycle
