import OciCompose.Text
import OciCompose.Utf8
import OciCompose.Hex
import OciCompose.Sha256
import OciCompose.Error
import OciCompose.Digest
import OciCompose.Reference
import OciCompose.Platform
import OciCompose.SortedMap
import OciCompose.Assoc
import OciCompose.Decimal
import OciCompose.Json.Value
import OciCompose.Json.Decode
import OciCompose.MediaType
import OciCompose.Descriptor
import OciCompose.Manifest
import OciCompose.ImageConfig
import OciCompose.Environment
import OciCompose.Provenance
import OciCompose.Event
import OciCompose.Config
import OciCompose.Artifact
import OciCompose.Text.Quoted
import OciCompose.Ignore.Rules
import OciCompose.Ignore.Glob.Meaning
import OciCompose.Walk
import OciCompose.Tar.Archive
import OciCompose.Layer.Builder
import OciCompose.Registry.Memory
import OciCompose.Url.Percent
import OciCompose.Url.Host
import OciCompose.Url
import OciCompose.Http.Message
import OciCompose.Base64
import OciCompose.Registry.Credentials
import OciCompose.Registry.Challenge
import OciCompose.Registry.Remote
import OciCompose.Appender
import OciCompose.MultiPlatform
import OciCompose.Build
import OciCompose.CommandLine.Options
import OciCompose.CommandLine.Run
import OciCompose.Main
import OciCompose.Proofs.Outcome
import OciCompose.Proofs.Registry.Contents
import OciCompose.Proofs.Registry.Memory
import OciCompose.Proofs.Registry.Copy
import OciCompose.Proofs.Registry.Remote
import OciCompose.Proofs.Registry.Exchange
import OciCompose.Proofs.Registry.Tokens
import OciCompose.Proofs.Url
import OciCompose.Proofs.Projection
import OciCompose.Proofs.Push
import OciCompose.Proofs.Appender
import OciCompose.Proofs.MultiPlatform
import OciCompose.Proofs.Decimal
import OciCompose.Proofs.Json.Number
import OciCompose.Proofs.Json.Reader
import OciCompose.Proofs.Manifest
import OciCompose.Proofs.Build
import OciCompose.Proofs.Integrity
import OciCompose.Proofs.Composition
import OciCompose.Proofs.Path
import OciCompose.Proofs.Ignore
import OciCompose.Proofs.Tar.Header
import OciCompose.Proofs.Tar.Name
import OciCompose.Proofs.Tar.Archive
import OciCompose.Proofs.Tar.Spelling
import OciCompose.Proofs.Layer.Archive
import OciCompose.Proofs.Utf8
import OciCompose.Proofs.SortedMap
import OciCompose.Proofs.Tree
import OciCompose.Proofs.Walk
import OciCompose.Proofs.Layer.Staging
import OciCompose.Proofs.Layer.Intake
import OciCompose.Proofs.Layer.Directory
import OciCompose.Proofs.Listing
import OciCompose.Proofs.Layer.Shown
import OciCompose.Proofs.Layer.Determinism
import OciCompose.Proofs.Json.Decode
import OciCompose.Proofs.Json.Object
import OciCompose.Proofs.Json.Members
import OciCompose.Proofs.Document
import OciCompose.Proofs.ReadBack
import OciCompose.Proofs.Passthrough
import OciCompose.Proofs.Appending
import OciCompose.Proofs.Independence
import OciCompose.Proofs.Text
import OciCompose.Proofs.Reference
import OciCompose.Proofs.Platform
import OciCompose.Proofs.Artifact
import OciCompose.Proofs.Origin
import OciCompose.Proofs.Report
import OciCompose.Proofs.Dialect
import OciCompose.Proofs.Registry.Tokens
import OciCompose.Proofs.PlatformMatcher
import OciCompose.Proofs.Provenance
import OciCompose.Proofs.Selection
import OciCompose.Proofs.Distinct
import OciCompose.Proofs.Reference.Grammar
import OciCompose.Proofs.Reference.Shown
import OciCompose.Proofs.Environment
import OciCompose.Proofs.Environment.Expansion
import OciCompose.Proofs.Environment.Override
import OciCompose.Proofs.Environment.Variables
import OciCompose.Proofs.Transfer
import OciCompose.Proofs.Root
import OciCompose.Proofs.Layer.Limits
import OciCompose.Proofs.Layer.Spelling
import OciCompose.Proofs.Progress
import OciCompose.Proofs.Overflow
import OciCompose.Proofs.Resolution
import OciCompose.Proofs.Variables
import OciCompose.Proofs.Eligibility
import OciCompose.Proofs.History
import OciCompose.Proofs.Registry.Challenge
