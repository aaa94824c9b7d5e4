import AccessDecision.Client
import AccessDecision.Call
import AccessDecision.Proofs.Outcome
import AccessDecision.Proofs.Text.Base64url
import AccessDecision.Proofs.Text.Blank
import AccessDecision.Proofs.Text.Decimal
import AccessDecision.Proofs.Digest.Key
import AccessDecision.Proofs.Json.Number
import AccessDecision.Proofs.Json.String
import AccessDecision.Proofs.Json.Members
import AccessDecision.Proofs.Json.Value
import AccessDecision.Proofs.Json.Record
import AccessDecision.Proofs.Json.Object
import AccessDecision.Proofs.Json.Held
import AccessDecision.Proofs.Instant.Date
import AccessDecision.Proofs.Instant.Text
import AccessDecision.Proofs.Credential.Codec
import AccessDecision.Proofs.Credential.Verification
import AccessDecision.Proofs.Credential.Issuance
import AccessDecision.Proofs.Credential.Reuse
import AccessDecision.Proofs.Credential.Source
import AccessDecision.Proofs.Credential.Signature
import AccessDecision.Proofs.Credential.Secret
import AccessDecision.Proofs.Credential.Stages
import AccessDecision.Proofs.Credential.Distinct
import AccessDecision.Proofs.Credential.Margin
import AccessDecision.Proofs.Credential.OtherSecret
import AccessDecision.Proofs.Credential.Lifetime
import AccessDecision.Proofs.Credential.Shape
import AccessDecision.Proofs.Credential.Payload
import AccessDecision.Proofs.Url.Percent
import AccessDecision.Proofs.Url.Path
import AccessDecision.Proofs.Url.Ipv4
import AccessDecision.Proofs.Url.Ipv6
import AccessDecision.Proofs.Url.Host
import AccessDecision.Proofs.Url.Text
import AccessDecision.Proofs.Url.Join
import AccessDecision.Proofs.Decision.Verdict
import AccessDecision.Proofs.Decision.Spelling
import AccessDecision.Proofs.Config.Lookup
import AccessDecision.Proofs.Config.Environment
import AccessDecision.Proofs.Request.Building
import AccessDecision.Proofs.Request.Codec
import AccessDecision.Proofs.Request.Decoding
import AccessDecision.Proofs.Request.History
import AccessDecision.Proofs.Http.Header
import AccessDecision.Proofs.Http.Uri
import AccessDecision.Proofs.Http.Exchange
import AccessDecision.Proofs.Http.Hiding
import AccessDecision.Proofs.Http.Race
import AccessDecision.Proofs.Http.Token
import AccessDecision.Proofs.Client.Order
import AccessDecision.Proofs.Client.Request
import AccessDecision.Proofs.Client.Interpretation
import AccessDecision.Proofs.Client.Dispatch
import AccessDecision.Proofs.Client.Transparency
import AccessDecision.Proofs.Client.Refusal
import AccessDecision.Proofs.Client.Body
import AccessDecision.Proofs.Client.Authorization
import AccessDecision.Proofs.Client.Cancellation
import AccessDecision.Proofs.Client.Secrecy
import AccessDecision.Proofs.Client.Location
import AccessDecision.Proofs.Client.Headers
import AccessDecision.Proofs.Client.Configuration
