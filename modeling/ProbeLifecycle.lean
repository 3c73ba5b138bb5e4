import ProbeLifecycle.Cluster.Context
import ProbeLifecycle.Cluster.Deletion
import ProbeLifecycle.Cluster.Description
import ProbeLifecycle.Cluster.Error
import ProbeLifecycle.Cluster.Reconciler
import ProbeLifecycle.Http.Delivery
import ProbeLifecycle.Http.Message
import ProbeLifecycle.Http.Reply
import ProbeLifecycle.Json.Escape
import ProbeLifecycle.Json.Node
import ProbeLifecycle.Json.Number
import ProbeLifecycle.Json.Problem
import ProbeLifecycle.Json.Reader
import ProbeLifecycle.Json.Record
import ProbeLifecycle.Json.Token
import ProbeLifecycle.Json.Writer
import ProbeLifecycle.Metrics
import ProbeLifecycle.Plan.Basic
import ProbeLifecycle.Plan.Interleaving
import ProbeLifecycle.Plan.Run
import ProbeLifecycle.Plan.Surroundings
import ProbeLifecycle.Probe.Basic
import ProbeLifecycle.Probe.Client
import ProbeLifecycle.Probe.Collection
import ProbeLifecycle.Probe.Error
import ProbeLifecycle.Probe.Json
import ProbeLifecycle.Probe.Labels
import ProbeLifecycle.Probe.Request
import ProbeLifecycle.Probe.Status
import ProbeLifecycle.Proofs.AcceptedCollections
import ProbeLifecycle.Proofs.Accounts
import ProbeLifecycle.Proofs.AddedSegments
import ProbeLifecycle.Proofs.Attempts
import ProbeLifecycle.Proofs.Balance
import ProbeLifecycle.Proofs.BodyText
import ProbeLifecycle.Proofs.CallScope
import ProbeLifecycle.Proofs.Calls
import ProbeLifecycle.Proofs.ClusterAddresses
import ProbeLifecycle.Proofs.ClusterLookups
import ProbeLifecycle.Proofs.CollectionResolution
import ProbeLifecycle.Proofs.Convergence
import ProbeLifecycle.Proofs.CreationBody
import ProbeLifecycle.Proofs.DeletionResponses
import ProbeLifecycle.Proofs.DeletionTimeout
import ProbeLifecycle.Proofs.FailedRefreshes
import ProbeLifecycle.Proofs.FailedRequests
import ProbeLifecycle.Proofs.FailureTraces
import ProbeLifecycle.Proofs.FaithfulService
import ProbeLifecycle.Proofs.ForeignProbes
import ProbeLifecycle.Proofs.FormText
import ProbeLifecycle.Proofs.GrammarCoverage
import ProbeLifecycle.Proofs.GrammarReading
import ProbeLifecycle.Proofs.History
import ProbeLifecycle.Proofs.HostText
import ProbeLifecycle.Proofs.Idempotence
import ProbeLifecycle.Proofs.Invocations
import ProbeLifecycle.Proofs.Ipv6Text
import ProbeLifecycle.Proofs.JsonGrammar
import ProbeLifecycle.Proofs.JsonText
import ProbeLifecycle.Proofs.LateRefusals
import ProbeLifecycle.Proofs.LiveProbe
import ProbeLifecycle.Proofs.LoadedSettings
import ProbeLifecycle.Proofs.LockDiscipline
import ProbeLifecycle.Proofs.LookupSelection
import ProbeLifecycle.Proofs.Measuring
import ProbeLifecycle.Proofs.MissingTokens
import ProbeLifecycle.Proofs.MutationSafety
import ProbeLifecycle.Proofs.Operations
import ProbeLifecycle.Proofs.Ordering
import ProbeLifecycle.Proofs.Paths
import ProbeLifecycle.Proofs.PercentText
import ProbeLifecycle.Proofs.PlannedRequests
import ProbeLifecycle.Proofs.PolicyInvocations
import ProbeLifecycle.Proofs.ProbeRoundTrip
import ProbeLifecycle.Proofs.ProbeText
import ProbeLifecycle.Proofs.Procedure
import ProbeLifecycle.Proofs.RecordReading
import ProbeLifecycle.Proofs.ReferenceService
import ProbeLifecycle.Proofs.RejectedTokens
import ProbeLifecycle.Proofs.RemoteStore
import ProbeLifecycle.Proofs.RequestIdentity
import ProbeLifecycle.Proofs.ResolvedPaths
import ProbeLifecycle.Proofs.Responses
import ProbeLifecycle.Proofs.Secrecy
import ProbeLifecycle.Proofs.ServiceReplies
import ProbeLifecycle.Proofs.SettingText
import ProbeLifecycle.Proofs.SingleFlight
import ProbeLifecycle.Proofs.SingleProbe
import ProbeLifecycle.Proofs.Statelessness
import ProbeLifecycle.Proofs.Tallies
import ProbeLifecycle.Proofs.TenantCollections
import ProbeLifecycle.Proofs.TokenCache
import ProbeLifecycle.Proofs.TokenEndpoints
import ProbeLifecycle.Proofs.TokenForms
import ProbeLifecycle.Proofs.TokenLedger
import ProbeLifecycle.Proofs.TokenUse
import ProbeLifecycle.Proofs.TokenVisits
import ProbeLifecycle.Proofs.TolerantDecoding
import ProbeLifecycle.Proofs.TolerantReading
import ProbeLifecycle.Proofs.TolerantRecords
import ProbeLifecycle.Proofs.TrimmedText
import ProbeLifecycle.Proofs.Visits
import ProbeLifecycle.Proofs.WebEffects
import ProbeLifecycle.Proofs.WebOperations
import ProbeLifecycle.Proofs.WrittenAddresses
import ProbeLifecycle.Proofs.WrittenAuthorities
import ProbeLifecycle.Proofs.WrittenPaths
import ProbeLifecycle.Proofs.WrittenTimes
import ProbeLifecycle.Proofs.WrittenValues
import ProbeLifecycle.Service.Basic
import ProbeLifecycle.Service.Session
import ProbeLifecycle.Settings
import ProbeLifecycle.Text.Base64
import ProbeLifecycle.Text.CaseFolding
import ProbeLifecycle.Text.Combining
import ProbeLifecycle.Text.Composition
import ProbeLifecycle.Text.Decimal
import ProbeLifecycle.Text.Direction
import ProbeLifecycle.Text.Form
import ProbeLifecycle.Text.Joining
import ProbeLifecycle.Text.Marks
import ProbeLifecycle.Text.Percent
import ProbeLifecycle.Text.Printable
import ProbeLifecycle.Text.Punycode
import ProbeLifecycle.Text.Quoted
import ProbeLifecycle.Text.Ranges
import ProbeLifecycle.Text.Utf8
import ProbeLifecycle.Text.WhiteSpace
import ProbeLifecycle.Time.Calendar
import ProbeLifecycle.Time.Instant
import ProbeLifecycle.Time.Rfc3339
import ProbeLifecycle.Time.Timestamp
import ProbeLifecycle.Token.AccessToken
import ProbeLifecycle.Token.Error
import ProbeLifecycle.Token.OidcClient
import ProbeLifecycle.Token.Provider
import ProbeLifecycle.Token.Request
import ProbeLifecycle.Token.Response
import ProbeLifecycle.Url.Authority
import ProbeLifecycle.Url.Basic
import ProbeLifecycle.Url.Domain
import ProbeLifecycle.Url.Error
import ProbeLifecycle.Url.Host
import ProbeLifecycle.Url.Ipv4
import ProbeLifecycle.Url.Ipv6
import ProbeLifecycle.Url.Parser
import ProbeLifecycle.Url.Path
import ProbeLifecycle.Web.MediaType
import ProbeLifecycle.Web.Message
import ProbeLifecycle.Web.Route
import ProbeLifecycle.Web.Server
