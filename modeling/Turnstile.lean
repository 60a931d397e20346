import Turnstile.Text.Blank
import Turnstile.Text.Quoted
import Turnstile.Text.Utf8
import Turnstile.Base64
import Turnstile.Sha2
import Turnstile.Der
import Turnstile.Pem
import Turnstile.Rsa.KeyFile
import Turnstile.Rsa.Trusted
import Turnstile.Number.Shortest
import Turnstile.Number.Numeral
import Turnstile.Json.Printer
import Turnstile.Claims.Wire
import Turnstile.Counters
import Turnstile.KeyStore
import Turnstile.Text.LetterCase
import Turnstile.Credential.Issue
import Turnstile.Policy.Rule
import Turnstile.Policy.Decision
import Turnstile.Policy.Value
import Turnstile.Policy.DecodeVerify
import Turnstile.Policy.Document
import Turnstile.Policy.Query
import Turnstile.Policy.Engine
import Turnstile.Access
import Turnstile.Settings
import Turnstile.Counters.Wire
import Turnstile.Http.Message
import Turnstile.Http.Bearer
import Turnstile.Http.Routes
import Turnstile.Startup
import Turnstile.Admin.Run
import Turnstile.Main
import Turnstile.Proofs.Policy.QueryText
import Turnstile.Proofs.Policy.Rules
import Turnstile.Proofs.Access.Decisions
import Turnstile.Proofs.Base64
import Turnstile.Proofs.Claims.Window
import Turnstile.Proofs.Credential.RoundTrip
import Turnstile.Proofs.Credential.Soundness
import Turnstile.Proofs.Credential.Window
import Turnstile.Proofs.Http.Mediation
import Turnstile.Proofs.Access.Agreement
import Turnstile.Proofs.Access.Issued
import Turnstile.Proofs.Access.Rulings
import Turnstile.Proofs.Credential.Unsigned
import Turnstile.Proofs.Http.Shutdown
import Turnstile.Proofs.KeyStore
import Turnstile.Proofs.Policy.RoleSets
import Turnstile.Proofs.Http.Identification
import Turnstile.Proofs.Policy.Constraints
import Turnstile.Proofs.Policy.Acceptance
import Turnstile.Proofs.Policy.Scan
import Turnstile.Proofs.Policy.Layout
import Turnstile.Proofs.Policy.Binding
import Turnstile.Proofs.Rsa.Power
import Turnstile.Proofs.Rsa.Signing
import Turnstile.Proofs.Credential.Signing
import Turnstile.Proofs.Credential.Lifetime
import Turnstile.Proofs.Directory
import Turnstile.Proofs.Rsa.Envelope
import Turnstile.Proofs.KeyPair
import Turnstile.Proofs.Settings
import Turnstile.Proofs.Access.Chronology
import Turnstile.Proofs.Claims.Canonical
