import SignOn.Audit.Event
import SignOn.Credential.Claims
import SignOn.Credential.Codec
import SignOn.Credential.Header
import SignOn.Credential.TokenId
import SignOn.Decimal.Binary64
import SignOn.Decimal.Scaling
import SignOn.Description
import SignOn.Engine.Limiter
import SignOn.Engine.Outage
import SignOn.Engine.Program
import SignOn.Engine.Resolver
import SignOn.Engine.Revocation
import SignOn.Engine.Schedule
import SignOn.Engine.Service
import SignOn.Engine.Trail
import SignOn.Engine.World
import SignOn.Failure
import SignOn.Gateway.CodeFlow
import SignOn.Gateway.Dialogue
import SignOn.Hash.Hmac
import SignOn.Hash.Sha256
import SignOn.Http.Cookie
import SignOn.Http.Gate
import SignOn.Http.Message
import SignOn.Http.Route
import SignOn.Http.Site
import SignOn.Http.Status
import SignOn.Identity
import SignOn.Json.Basic
import SignOn.Json.Reader
import SignOn.Json.Record
import SignOn.Json.Settled
import SignOn.Json.Token
import SignOn.Json.Writer
import SignOn.Net.Address
import SignOn.Net.Host
import SignOn.Net.International
import SignOn.Net.International.Composition
import SignOn.Net.International.Direction
import SignOn.Net.International.Joiner
import SignOn.Net.International.Mark
import SignOn.Net.International.Table
import SignOn.Net.Punycode
import SignOn.Net.Url
import SignOn.Profile
import SignOn.Proofs.Audit.Records
import SignOn.Proofs.Credential.Framing
import SignOn.Proofs.Credential.Issuing
import SignOn.Proofs.Credential.RoundTrip
import SignOn.Proofs.Credential.Verdict
import SignOn.Proofs.Engine.Access
import SignOn.Proofs.Engine.AccountLogins
import SignOn.Proofs.Engine.Agreement
import SignOn.Proofs.Engine.Answers
import SignOn.Proofs.Engine.AuditTrail
import SignOn.Proofs.Engine.CallContract
import SignOn.Proofs.Engine.Conduct
import SignOn.Proofs.Engine.Consumption
import SignOn.Proofs.Engine.Contract
import SignOn.Proofs.Engine.Crowd
import SignOn.Proofs.Engine.Effects
import SignOn.Proofs.Engine.Endings
import SignOn.Proofs.Engine.FailClosed
import SignOn.Proofs.Engine.FixedWindows
import SignOn.Proofs.Engine.Frames
import SignOn.Proofs.Engine.History
import SignOn.Proofs.Engine.Isolation
import SignOn.Proofs.Engine.Keyspace
import SignOn.Proofs.Engine.LastLogins
import SignOn.Proofs.Engine.LateChecks
import SignOn.Proofs.Engine.Lifetimes
import SignOn.Proofs.Engine.LoginsAtOnce
import SignOn.Proofs.Engine.Marks
import SignOn.Proofs.Engine.OneText
import SignOn.Proofs.Engine.Ownership
import SignOn.Proofs.Engine.Payloads
import SignOn.Proofs.Engine.RateWindows
import SignOn.Proofs.Engine.Registry
import SignOn.Proofs.Engine.Relays
import SignOn.Proofs.Engine.Resolvers
import SignOn.Proofs.Engine.Resolving
import SignOn.Proofs.Engine.Revocability
import SignOn.Proofs.Engine.Rotation
import SignOn.Proofs.Engine.Running
import SignOn.Proofs.Engine.Runs
import SignOn.Proofs.Engine.SerialOrder
import SignOn.Proofs.Engine.SessionEffects
import SignOn.Proofs.Engine.SideBySide
import SignOn.Proofs.Engine.StoredSessions
import SignOn.Proofs.Engine.Sweeps
import SignOn.Proofs.Engine.Traces
import SignOn.Proofs.Engine.Validity
import SignOn.Proofs.Engine.Windows
import SignOn.Proofs.Gateway.CodeFlow
import SignOn.Proofs.Gateway.Messages
import SignOn.Proofs.Gateway.TokenRequest
import SignOn.Proofs.Http.Admission
import SignOn.Proofs.Http.Asking
import SignOn.Proofs.Http.Cookies
import SignOn.Proofs.Http.Handouts
import SignOn.Proofs.Http.Requests
import SignOn.Proofs.Http.Returns
import SignOn.Proofs.Json.Integer
import SignOn.Proofs.Json.Lexing
import SignOn.Proofs.Json.Record
import SignOn.Proofs.Json.RoundTrip
import SignOn.Proofs.Net.Address
import SignOn.Proofs.Net.Callers
import SignOn.Proofs.Settings.Usable
import SignOn.Proofs.Store.Accounts
import SignOn.Proofs.Store.Eviction
import SignOn.Proofs.Store.Lapsing
import SignOn.Proofs.Store.Locality
import SignOn.Proofs.Store.Lookups
import SignOn.Proofs.Text.Base64Url
import SignOn.Proofs.Text.Digits
import SignOn.Proofs.Text.Form
import SignOn.Proofs.Text.Hex
import SignOn.Proofs.Text.Trim
import SignOn.Proofs.Text.Utf8
import SignOn.Proofs.Time.Calendar
import SignOn.Proofs.Time.Instant
import SignOn.Proofs.Time.Rfc3339
import SignOn.Record
import SignOn.Session
import SignOn.Settings.Auth
import SignOn.Settings.Form
import SignOn.Settings.Load
import SignOn.Settings.Path
import SignOn.Settings.Site
import SignOn.Settings.Value
import SignOn.Store.Expiry
import SignOn.Store.KeyValue
import SignOn.Store.Sessions
import SignOn.Store.Table
import SignOn.Store.Users
import SignOn.Text.Base64
import SignOn.Text.Base64Url
import SignOn.Text.Blank
import SignOn.Text.CodeTable
import SignOn.Text.Digits
import SignOn.Text.Form
import SignOn.Text.Hex
import SignOn.Text.Hidden
import SignOn.Text.Percent
import SignOn.Text.Quoted
import SignOn.Text.Split
import SignOn.Text.Utf8
import SignOn.Time.Calendar
import SignOn.Time.DurationText
import SignOn.Time.Instant
import SignOn.Time.Rfc3339
import SignOn.Toml.Document
import SignOn.Toml.Scan
