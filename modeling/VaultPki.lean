import VaultPki.Authority.Installation
import VaultPki.Authority.Intermediate
import VaultPki.Authority.Root
import VaultPki.Authority.Subject
import VaultPki.Base64
import VaultPki.Calendar.Date
import VaultPki.Calendar.Instant
import VaultPki.Certificate.AlternativeNames
import VaultPki.Certificate.Issuance
import VaultPki.Certificate.Revocation
import VaultPki.Certificate.Signing
import VaultPki.Certificate.Store
import VaultPki.Client.Answer
import VaultPki.Client.Basic
import VaultPki.Client.Config
import VaultPki.Client.Environment
import VaultPki.Client.TokenSource
import VaultPki.CommandLine.Command
import VaultPki.CommandLine.Execution
import VaultPki.CommandLine.Invocation
import VaultPki.CommandLine.Switch
import VaultPki.Engine.Backend
import VaultPki.Engine.Call
import VaultPki.Engine.Operation
import VaultPki.Engine.Raw
import VaultPki.Engine.Session
import VaultPki.Envelope
import VaultPki.Error
import VaultPki.Event
import VaultPki.Http.Exchange
import VaultPki.Http.Header
import VaultPki.Json.Basic
import VaultPki.Json.Document
import VaultPki.Json.Magnitude
import VaultPki.Json.Reader
import VaultPki.Json.Writer
import VaultPki.Main
import VaultPki.Mount.Enabling
import VaultPki.Mount.Settings
import VaultPki.Name.KeyType
import VaultPki.Name.KeyUsage
import VaultPki.Name.Vocabulary
import VaultPki.Pem.Bundle
import VaultPki.Pem.Section
import VaultPki.Proofs.Answers
import VaultPki.Proofs.Arrival
import VaultPki.Proofs.Attempt
import VaultPki.Proofs.Attempt.First
import VaultPki.Proofs.Base64
import VaultPki.Proofs.Calendar.Date
import VaultPki.Proofs.Calendar.Instant
import VaultPki.Proofs.Certificate.Absence
import VaultPki.Proofs.Certificate.AlternativeNames
import VaultPki.Proofs.Certificate.Material
import VaultPki.Proofs.Certificate.Revocation
import VaultPki.Proofs.Certificate.Serial
import VaultPki.Proofs.Client.Config
import VaultPki.Proofs.Client.Setup
import VaultPki.Proofs.Client.Trust
import VaultPki.Proofs.CommandLine.Agreement
import VaultPki.Proofs.CommandLine.Connection
import VaultPki.Proofs.CommandLine.Reading
import VaultPki.Proofs.CommandLine.Scan
import VaultPki.Proofs.CommandLine.Switch
import VaultPki.Proofs.Confidentiality.Answer
import VaultPki.Proofs.Confidentiality.Session
import VaultPki.Proofs.Containment
import VaultPki.Proofs.Diagnostics
import VaultPki.Proofs.Durations
import VaultPki.Proofs.Endpoint
import VaultPki.Proofs.Envelope
import VaultPki.Proofs.Event
import VaultPki.Proofs.Headers
import VaultPki.Proofs.Http.Header
import VaultPki.Proofs.Instruction.Body
import VaultPki.Proofs.Instruction.Request
import VaultPki.Proofs.Json.Document
import VaultPki.Proofs.Json.Integers
import VaultPki.Proofs.Json.Numbers
import VaultPki.Proofs.Json.RoundTrip
import VaultPki.Proofs.Json.Strings
import VaultPki.Proofs.Lifecycle
import VaultPki.Proofs.Name.Recognition
import VaultPki.Proofs.Name.Vocabulary
import VaultPki.Proofs.Operation
import VaultPki.Proofs.Outcome
import VaultPki.Proofs.Pem.Bundle
import VaultPki.Proofs.Pem.Section
import VaultPki.Proofs.Record.Absence
import VaultPki.Proofs.Record.Durations
import VaultPki.Proofs.Record.Entries
import VaultPki.Proofs.Record.Faithful
import VaultPki.Proofs.Record.Flat
import VaultPki.Proofs.Record.Gathering
import VaultPki.Proofs.Record.Masking
import VaultPki.Proofs.Record.Members
import VaultPki.Proofs.Record.Origin
import VaultPki.Proofs.Record.Reading
import VaultPki.Proofs.Record.Refusals
import VaultPki.Proofs.Record.Secrets
import VaultPki.Proofs.Record.Shapes
import VaultPki.Proofs.Record.Thorough
import VaultPki.Proofs.Record.Wire
import VaultPki.Proofs.Report
import VaultPki.Proofs.Request
import VaultPki.Proofs.RequestLine
import VaultPki.Proofs.Role.Reading
import VaultPki.Proofs.Role.Rewriting
import VaultPki.Proofs.Role.RoundTrip
import VaultPki.Proofs.Session
import VaultPki.Proofs.Slashes
import VaultPki.Proofs.Text.Ascii
import VaultPki.Proofs.Text.Commas
import VaultPki.Proofs.Text.Decimal
import VaultPki.Proofs.Text.Utf8
import VaultPki.Proofs.Trail
import VaultPki.Proofs.Url.Path
import VaultPki.Proofs.Url.Percent
import VaultPki.Proofs.Url.Plain
import VaultPki.Proofs.Url.Reader
import VaultPki.Proofs.Url.Route
import VaultPki.Proofs.Url.Slashed
import VaultPki.Record.Codec
import VaultPki.Record.Field
import VaultPki.Record.Layout
import VaultPki.Report
import VaultPki.Role.Basic
import VaultPki.Role.Stored
import VaultPki.Text.Ascii
import VaultPki.Text.Blank
import VaultPki.Text.CodePoints
import VaultPki.Text.Commas
import VaultPki.Text.Composition
import VaultPki.Text.Composition.Pair
import VaultPki.Text.Composition.Rank
import VaultPki.Text.Glyph
import VaultPki.Text.Mark
import VaultPki.Text.Quoted
import VaultPki.Text.Utf8
import VaultPki.Url.Basic
import VaultPki.Url.DomainName
import VaultPki.Url.DomainName.Direction
import VaultPki.Url.DomainName.Folding
import VaultPki.Url.DomainName.Folding.Expansion
import VaultPki.Url.DomainName.Folding.Row
import VaultPki.Url.DomainName.Folding.Run
import VaultPki.Url.DomainName.Joining
import VaultPki.Url.Host
import VaultPki.Url.Ipv4
import VaultPki.Url.Ipv6
import VaultPki.Url.Path
import VaultPki.Url.Percent
import VaultPki.Url.Punycode
import VaultPki.Url.Reader
import VaultPki.WireRecord
