import CallGuard.Address
import CallGuard.Amount
import CallGuard.Audit.Event
import CallGuard.Audit.EventJson
import CallGuard.Audit.Trail
import CallGuard.Bytes
import CallGuard.Call
import CallGuard.Call.Codec
import CallGuard.Call.Frame
import CallGuard.Call.Word
import CallGuard.Command.Change
import CallGuard.Command.Show
import CallGuard.Command.Store
import CallGuard.Command.Texts
import CallGuard.CommandLine
import CallGuard.CommandLine.Scan
import CallGuard.Decimal.Binary64
import CallGuard.Decimal.Digits
import CallGuard.Disk
import CallGuard.Failure
import CallGuard.Function
import CallGuard.Function.Selector
import CallGuard.Guard
import CallGuard.Hex
import CallGuard.Json
import CallGuard.Json.Fields
import CallGuard.Json.Parse
import CallGuard.Json.Print
import CallGuard.Json.Token
import CallGuard.Keccak
import CallGuard.Main
import CallGuard.Octets
import CallGuard.Payload
import CallGuard.Policy
import CallGuard.Policy.Authorize
import CallGuard.Policy.Key
import CallGuard.Policy.KeyJson
import CallGuard.Program
import CallGuard.Proofs.Amount.Numerals
import CallGuard.Proofs.Amount.Reading
import CallGuard.Proofs.Audit.EventText
import CallGuard.Proofs.Audit.TrailFile
import CallGuard.Proofs.Call.Canonical
import CallGuard.Proofs.Call.Grammar
import CallGuard.Proofs.Call.Layout
import CallGuard.Proofs.Call.PayloadText
import CallGuard.Proofs.Call.Reading
import CallGuard.Proofs.Call.RoundTrip
import CallGuard.Proofs.Command.Change
import CallGuard.Proofs.Command.Coverage
import CallGuard.Proofs.Command.Encoding
import CallGuard.Proofs.Command.Failing
import CallGuard.Proofs.Command.InStep
import CallGuard.Proofs.Command.Interleaving
import CallGuard.Proofs.Command.Recording
import CallGuard.Proofs.Command.Run
import CallGuard.Proofs.Command.Store
import CallGuard.Proofs.Disk
import CallGuard.Proofs.Guard.AuditTrail
import CallGuard.Proofs.Guard.Bootstrap
import CallGuard.Proofs.Guard.Configured
import CallGuard.Proofs.Guard.Influence
import CallGuard.Proofs.Guard.Provisioning
import CallGuard.Proofs.Guard.Reload
import CallGuard.Proofs.Guard.Remedy
import CallGuard.Proofs.Guard.Run
import CallGuard.Proofs.Hex
import CallGuard.Proofs.Hex.Faults
import CallGuard.Proofs.Hex.Forms
import CallGuard.Proofs.Hex.Spelling
import CallGuard.Proofs.Json.Lines
import CallGuard.Proofs.Json.Numbers
import CallGuard.Proofs.Json.Objects
import CallGuard.Proofs.Json.Records
import CallGuard.Proofs.Json.RoundTrip
import CallGuard.Proofs.Json.Scanning
import CallGuard.Proofs.Json.Tokens
import CallGuard.Proofs.Outcome
import CallGuard.Proofs.Policy.Canonical
import CallGuard.Proofs.Policy.Decision
import CallGuard.Proofs.Policy.Flow
import CallGuard.Proofs.Policy.Grants
import CallGuard.Proofs.Policy.KeyText
import CallGuard.Proofs.Policy.Monotone
import CallGuard.Proofs.Policy.Needs
import CallGuard.Proofs.Policy.Replay
import CallGuard.Proofs.Policy.Snapshot
import CallGuard.Proofs.Policy.StoredForm
import CallGuard.Proofs.Settings.Layers
import CallGuard.Proofs.Settings.Merging
import CallGuard.Proofs.Settings.Names
import CallGuard.Proofs.Settings.Path
import CallGuard.Proofs.Text.Ascii
import CallGuard.Proofs.Text.Lines
import CallGuard.Proofs.Text.Reading
import CallGuard.Proofs.Text.Runs
import CallGuard.Proofs.Text.Trimming
import CallGuard.Proofs.Timestamp
import CallGuard.Script
import CallGuard.Settings
import CallGuard.Settings.DotEnv
import CallGuard.Settings.Environment
import CallGuard.Settings.Load
import CallGuard.Settings.Path
import CallGuard.Settings.Tree
import CallGuard.Snapshot
import CallGuard.SortedSet
import CallGuard.Text.Alphanumeric
import CallGuard.Text.Blank
import CallGuard.Text.CodePoints
import CallGuard.Text.Digit
import CallGuard.Text.Printable
import CallGuard.Text.Quoted
import CallGuard.Text.Reading
import CallGuard.Timestamp
import CallGuard.Timestamp.Text
import CallGuard.Toml.Document
import CallGuard.Toml.Scalar
import CallGuard.Toml.Tree
import CallGuard.Violation
import CallGuard.World
import CallGuard.Proofs.Settings.Loading
