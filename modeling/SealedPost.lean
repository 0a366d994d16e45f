import SealedPost.Intake
import SealedPost.Main
import SealedPost.Service.Basic
import SealedPost.Proofs.Commitment.Binding
import SealedPost.Proofs.Attempt
import SealedPost.Proofs.Correspondence.Commitment
import SealedPost.Proofs.Base64
import SealedPost.Proofs.Correspondence.Reading
import SealedPost.Proofs.Json.RoundTrip
import SealedPost.Proofs.Text.Utf8
import SealedPost.Proofs.Box
import SealedPost.Proofs.Wire.RoundTrip
import SealedPost.Proofs.Discovery
import SealedPost.Proofs.Correspondence.Composing
import SealedPost.Proofs.Correspondence.RoundTrip
import SealedPost.Proofs.Correspondence.Tampering
import SealedPost.Proofs.Token.Authentication
import SealedPost.Proofs.Token.Replay
import SealedPost.Proofs.Ledger.History
import SealedPost.Proofs.Feed.Delivery
import SealedPost.Proofs.Feed.Service
import SealedPost.Proofs.Correspondence.Nonces
import SealedPost.Proofs.Correspondence.Ownership
import SealedPost.Proofs.Token.Acceptance
import SealedPost.Proofs.Token.Reuse
import SealedPost.Proofs.Hex
import SealedPost.Proofs.Ledger.Persistence
import SealedPost.Proofs.Service.Requests
import SealedPost.Proofs.Service.Posting
import SealedPost.Proofs.Wire.Envelope
import SealedPost.Proofs.Correspondence.Carriage
import SealedPost.Proofs.Correspondence.Outsiders
import SealedPost.Proofs.Correspondence.Failures
import SealedPost.Proofs.Command.Failures
import SealedPost.Proofs.Wire.Records
import SealedPost.Proofs.Command.RoundTrip
import SealedPost.Proofs.Agreement
import SealedPost.Proofs.Correspondence.Refusals
import SealedPost.Proofs.Command.Refusals
import SealedPost.Proofs.Opening
import SealedPost.Proofs.Correspondence.ForeignChannels
import SealedPost.Proofs.Ledger.Refusals
import SealedPost.Proofs.Text.Numerals
import SealedPost.Proofs.Token.History
import SealedPost.Proofs.Token.Times
import SealedPost.Proofs.Json.Integers
import SealedPost.Proofs.Token.Failures
import SealedPost.Proofs.Json.Nesting
import SealedPost.Proofs.Json.Sizes
import SealedPost.Proofs.Wire.Sizes
import SealedPost.Proofs.Correspondence.Shapes
import SealedPost.Proofs.Text.Trimming
import SealedPost.Proofs.Token.Building
import SealedPost.Proofs.Correspondence.Searching
