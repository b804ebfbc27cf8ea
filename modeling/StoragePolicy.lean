import StoragePolicy.Address
import StoragePolicy.Client
import StoragePolicy.CommandLine
import StoragePolicy.Config.Basic
import StoragePolicy.Config.Reading
import StoragePolicy.Decimal.Shortest
import StoragePolicy.Fault
import StoragePolicy.Folder
import StoragePolicy.Json.Content
import StoragePolicy.Json.Fault
import StoragePolicy.Json.Number
import StoragePolicy.Json.Printer
import StoragePolicy.Json.Reader
import StoragePolicy.Ledger
import StoragePolicy.Log.Basic
import StoragePolicy.Log.Events
import StoragePolicy.Main
import StoragePolicy.Message
import StoragePolicy.Policy.Action
import StoragePolicy.Policy.Basic
import StoragePolicy.Policy.Document
import StoragePolicy.Policy.Draft
import StoragePolicy.Policy.Effect
import StoragePolicy.Principal
import StoragePolicy.Proofs.Client.Attachments
import StoragePolicy.Proofs.Client.Calls
import StoragePolicy.Proofs.Client.Construction
import StoragePolicy.Proofs.Client.Gates
import StoragePolicy.Proofs.Client.Records
import StoragePolicy.Proofs.Coding
import StoragePolicy.Proofs.CommandLine
import StoragePolicy.Proofs.Config
import StoragePolicy.Proofs.Config.Entries
import StoragePolicy.Proofs.Config.Sections
import StoragePolicy.Proofs.Config.Strictness
import StoragePolicy.Proofs.FirstFault
import StoragePolicy.Proofs.Itemwise
import StoragePolicy.Proofs.Json.Canonical
import StoragePolicy.Proofs.Json.Reading
import StoragePolicy.Proofs.Json.Records
import StoragePolicy.Proofs.Json.Spelling
import StoragePolicy.Proofs.Json.Strings
import StoragePolicy.Proofs.Json.TrailingComma
import StoragePolicy.Proofs.Json.Unambiguous
import StoragePolicy.Proofs.Ledger.Commuting
import StoragePolicy.Proofs.Ledger.Flight
import StoragePolicy.Proofs.Ledger.Interleaving
import StoragePolicy.Proofs.Ledger.Overlap
import StoragePolicy.Proofs.Ledger.Replay
import StoragePolicy.Proofs.Ledger.Submitting
import StoragePolicy.Proofs.Logging
import StoragePolicy.Proofs.Names.Addresses
import StoragePolicy.Proofs.Names.Principals
import StoragePolicy.Proofs.Names.Resources
import StoragePolicy.Proofs.Policy.Decoding
import StoragePolicy.Proofs.Policy.Delimiting
import StoragePolicy.Proofs.Policy.Drafting
import StoragePolicy.Proofs.Policy.Lifting
import StoragePolicy.Proofs.Policy.Plain
import StoragePolicy.Proofs.Policy.Repair
import StoragePolicy.Proofs.Policy.RoundTrip
import StoragePolicy.Proofs.Policy.Shapes
import StoragePolicy.Proofs.Policy.Tags
import StoragePolicy.Proofs.Policy.Words
import StoragePolicy.Proofs.Reordering
import StoragePolicy.Proofs.Requests
import StoragePolicy.Proofs.SignDocument
import StoragePolicy.Proofs.Text.FixedHex
import StoragePolicy.Proofs.Text.PrefixCode
import StoragePolicy.Proofs.Transcript
import StoragePolicy.Proofs.Translation
import StoragePolicy.Proofs.Vocabulary
import StoragePolicy.Resource
import StoragePolicy.Signature.Curve
import StoragePolicy.Signature.Ed25519
import StoragePolicy.Signature.Sha512
import StoragePolicy.Table
import StoragePolicy.Text.Blank
import StoragePolicy.Text.Glyphless
import StoragePolicy.Text.Hex
import StoragePolicy.Text.Mended
import StoragePolicy.Text.Octets
import StoragePolicy.Text.Parts
import StoragePolicy.Text.Quoted
import StoragePolicy.Yaml.Cursor
import StoragePolicy.Yaml.Grammar
import StoragePolicy.Yaml.Lexer
import StoragePolicy.Yaml.Node
import StoragePolicy.Yaml.Scalar
import StoragePolicy.Yaml.Token
