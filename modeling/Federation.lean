import Federation.Address.Basic
import Federation.Address.Direction
import Federation.Address.Domain
import Federation.Address.Internet
import Federation.Address.Joining
import Federation.Address.NameMapping
import Federation.Address.Percent
import Federation.Address.Punycode
import Federation.Address.Reader
import Federation.Calendar
import Federation.Chain
import Federation.Command.Grammar
import Federation.Command.Invocation
import Federation.Command.Run
import Federation.Constraints
import Federation.Crypto.Base64Url
import Federation.Crypto.Ed25519
import Federation.Crypto.Sha2
import Federation.Decimal.Binary64
import Federation.Decimal.Shortest
import Federation.EntityId
import Federation.EntityType
import Federation.Failure
import Federation.Json.Basic
import Federation.Json.Document
import Federation.Json.Encoded
import Federation.Json.Expectation
import Federation.Json.Printer
import Federation.Json.Record
import Federation.Json.Token
import Federation.Jws
import Federation.Jws.Algorithm
import Federation.Jws.EmbeddedKey
import Federation.Jws.Header
import Federation.Key
import Federation.KeySet
import Federation.Main
import Federation.Members
import Federation.Policy.Application
import Federation.Policy.Basic
import Federation.Policy.Combination
import Federation.Policy.Operator
import Federation.Policy.Violation
import Federation.Proofs.Acceptance
import Federation.Proofs.Bytes
import Federation.Proofs.CanonicalIdentifiers
import Federation.Proofs.Checks
import Federation.Proofs.Command.Expiry
import Federation.Proofs.Command.Sign
import Federation.Proofs.Command.Work
import Federation.Proofs.Constraints
import Federation.Proofs.Contents
import Federation.Proofs.Drafts
import Federation.Proofs.Encoding
import Federation.Proofs.Failures
import Federation.Proofs.Json.Equality
import Federation.Proofs.Json.Extent
import Federation.Proofs.Json.Printed
import Federation.Proofs.Json.Reading
import Federation.Proofs.Keys
import Federation.Proofs.Lifetime
import Federation.Proofs.Members
import Federation.Proofs.Policy.Additions
import Federation.Proofs.Policy.Application
import Federation.Proofs.Policy.Batch
import Federation.Proofs.Policy.Combination
import Federation.Proofs.Policy.Conjunction
import Federation.Proofs.Policy.Editing
import Federation.Proofs.Policy.Levels
import Federation.Proofs.Policy.Parameters
import Federation.Proofs.Policy.Pointwise
import Federation.Proofs.Policy.Reading
import Federation.Proofs.Policy.Reapplication
import Federation.Proofs.Policy.Settling
import Federation.Proofs.Policy.Supplied
import Federation.Proofs.Resolution.Anchor
import Federation.Proofs.Resolution.Bounds
import Federation.Proofs.Resolution.Climb
import Federation.Proofs.Resolution.Conclusion
import Federation.Proofs.Resolution.Constrained
import Federation.Proofs.Resolution.FirstRoute
import Federation.Proofs.Resolution.FrameStack
import Federation.Proofs.Resolution.Mirroring
import Federation.Proofs.Resolution.Phases
import Federation.Proofs.Resolution.Policies
import Federation.Proofs.Resolution.Reported
import Federation.Proofs.Resolution.Requests
import Federation.Proofs.Resolution.Soundness
import Federation.Proofs.Resolution.Steady
import Federation.Proofs.Resolution.Steps
import Federation.Proofs.Resolution.Table
import Federation.Proofs.Resolution.Termination
import Federation.Proofs.Resolution.Vouching
import Federation.Proofs.Resolution.Walk
import Federation.Proofs.Signatures
import Federation.Proofs.Signing
import Federation.Proofs.Statement
import Federation.Proofs.Storage.Folder
import Federation.Proofs.Storage.StatementFile
import Federation.Proofs.Storage.StatementStore
import Federation.Proofs.Subtrees
import Federation.Proofs.Text
import Federation.Proofs.Thumbprints
import Federation.Resolution.Effort
import Federation.Resolution.Event
import Federation.Resolution.Frame
import Federation.Resolution.Outcome
import Federation.Resolution.Phase
import Federation.Resolution.Search
import Federation.Resolution.Sources
import Federation.SigningKey
import Federation.Statement.Basic
import Federation.Statement.Claims
import Federation.Statement.Draft
import Federation.Statement.Lifetime
import Federation.Statement.Policies
import Federation.Storage.Change
import Federation.Storage.Folder
import Federation.Storage.Memory
import Federation.Storage.Path
import Federation.Storage.StatementFile
import Federation.Storage.StatementStore
import Federation.Text.Blank
import Federation.Text.Bytes
import Federation.Text.CombiningClasses
import Federation.Text.Composed
import Federation.Text.Decompositions
import Federation.Text.Hidden
import Federation.Text.Quoted
import Federation.Text.Ranges
import Federation.Text.Table
