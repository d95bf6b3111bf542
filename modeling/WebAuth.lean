import WebAuth.AccessError
import WebAuth.Calendar.Date
import WebAuth.Calendar.Rfc3339
import WebAuth.Calendar.Timestamp
import WebAuth.ConfigError
import WebAuth.Crypto.Ecdsa
import WebAuth.Crypto.Octets
import WebAuth.Crypto.Rsa
import WebAuth.Crypto.Sha2
import WebAuth.Decimal.Double
import WebAuth.Decimal.Shortest
import WebAuth.Dictionary
import WebAuth.Encoding.Base64
import WebAuth.Http.Credentials
import WebAuth.Http.Headers
import WebAuth.Http.Matcher
import WebAuth.Http.Network
import WebAuth.Http.Status
import WebAuth.Http.Target
import WebAuth.Identity
import WebAuth.Issuer.Discovery
import WebAuth.Issuer.Location
import WebAuth.Issuer.Metadata
import WebAuth.Json.Basic
import WebAuth.Json.Outline
import WebAuth.Json.Parser
import WebAuth.Json.Printer
import WebAuth.Json.Reading
import WebAuth.Main
import WebAuth.MethodSecurity
import WebAuth.Run
import WebAuth.SecurityConfig
import WebAuth.Session.Basic
import WebAuth.Session.Config
import WebAuth.Session.Cookie
import WebAuth.Session.Login
import WebAuth.Session.Realm
import WebAuth.Session.Registry
import WebAuth.Session.Store
import WebAuth.Supply
import WebAuth.Text.Blank
import WebAuth.Text.CodeTable
import WebAuth.Text.CombiningClass
import WebAuth.Text.Composite
import WebAuth.Text.Composition
import WebAuth.Text.Cut
import WebAuth.Text.Direction
import WebAuth.Text.Joining
import WebAuth.Text.Mark
import WebAuth.Text.Printable
import WebAuth.Text.Quoted
import WebAuth.Token.Algorithm
import WebAuth.Token.Claims
import WebAuth.Token.Error
import WebAuth.Token.Header
import WebAuth.Token.Key
import WebAuth.Token.KeyCache
import WebAuth.Token.Validator
import WebAuth.Url.Basic
import WebAuth.Url.Domain
import WebAuth.Url.Folding
import WebAuth.Url.Host
import WebAuth.Url.Label
import WebAuth.Url.Parser
import WebAuth.Url.Percent
import WebAuth.Url.Punycode
import WebAuth.Url.Replacement
import WebAuth.Web.Authenticator
import WebAuth.Web.Chain
import WebAuth.Web.Configuration
import WebAuth.Web.Csrf
import WebAuth.Web.Filter
import WebAuth.Web.Proxy
import WebAuth.Web.Rehearsal
import WebAuth.Web.Report
import WebAuth.Web.Request
import WebAuth.Web.Strategies
import WebAuth.Web.World
import WebAuth.Proofs.Session.Effects
import WebAuth.Proofs.Session.Runs
import WebAuth.Proofs.Session.Limit
import WebAuth.Proofs.Session.Ownership
import WebAuth.Proofs.Token.Acceptance
import WebAuth.Proofs.Token.RequiredIssuer
import WebAuth.Proofs.Http.NamedCookie
import WebAuth.Proofs.Http.ClientFields
import WebAuth.Proofs.Web.SessionSite
import WebAuth.Proofs.Web.Fixation
import WebAuth.Proofs.Web.RequiredIdentity
import WebAuth.Proofs.Token.Soundness
import WebAuth.Proofs.Session.Interleaving
import WebAuth.Proofs.Session.Separation
import WebAuth.Proofs.Session.Overbooking
import WebAuth.Proofs.Http.Exchange
import WebAuth.Proofs.Issuer.CandidateOrder
import WebAuth.Proofs.Issuer.DeclaredIssuer
import WebAuth.Proofs.Issuer.TrustedDocument
import WebAuth.Proofs.Token.KeyHistory
import WebAuth.Proofs.Token.Pacing
import WebAuth.Proofs.Web.ForgeryGate
import WebAuth.Proofs.Session.Rebinding
import WebAuth.Proofs.Web.OneUser
import WebAuth.Proofs.Web.DispatchOrder
import WebAuth.Proofs.Session.Listing
import WebAuth.Proofs.Session.RegistryHistory
import WebAuth.Proofs.Session.Correspondence
import WebAuth.Proofs.Session.Renewal
import WebAuth.Proofs.Token.RequiredAudience
import WebAuth.Proofs.Token.Lifespan
import WebAuth.Proofs.Token.ReachableKeys
import WebAuth.Proofs.Web.SideBySide
import WebAuth.Proofs.Session.Eviction
import WebAuth.Proofs.Session.SparedSession
import WebAuth.Proofs.Session.StoreFailure
import WebAuth.Proofs.Web.RefusedLogin
import WebAuth.Proofs.Session.LongestLifetime
import WebAuth.Proofs.Token.BrokenKeys
import WebAuth.Proofs.Token.AllowedAlgorithms
import WebAuth.Proofs.Token.Traffic
import WebAuth.Proofs.Web.Assembly
import WebAuth.Proofs.Encoding.CanonicalForm
import WebAuth.Proofs.Http.BasicCredentials
import WebAuth.Proofs.Http.CookieJar
import WebAuth.Proofs.Web.TokenEcho
import WebAuth.Proofs.Http.PathSegments
import WebAuth.Proofs.Web.CatchAll
import WebAuth.Proofs.Web.Policies
import WebAuth.Proofs.Url.PlainName
import WebAuth.Proofs.Url.NumericHost
import WebAuth.Proofs.Url.Notation
import WebAuth.Proofs.Issuer.SeparateIssuers
