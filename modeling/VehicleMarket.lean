import VehicleMarket.Catalog.Basic
import VehicleMarket.Catalog.Document
import VehicleMarket.Catalog.Integrity
import VehicleMarket.Catalog.Query
import VehicleMarket.Catalog.Sheets
import VehicleMarket.Command.Arguments
import VehicleMarket.Command.Basic
import VehicleMarket.Command.Run
import VehicleMarket.Csv.Writer
import VehicleMarket.Decimal.Binary
import VehicleMarket.Decimal.Notation
import VehicleMarket.Decimal.Power
import VehicleMarket.Decimal.Shortest
import VehicleMarket.Identifier
import VehicleMarket.Json.Fault
import VehicleMarket.Json.Mismatch
import VehicleMarket.Json.Number
import VehicleMarket.Json.Printer
import VehicleMarket.Json.Reader
import VehicleMarket.Json.Value
import VehicleMarket.Main
import VehicleMarket.Market.Service
import VehicleMarket.Market.Snapshot
import VehicleMarket.Problem
import VehicleMarket.Proofs.Catalog.Invariant
import VehicleMarket.Proofs.Catalog.Operation
import VehicleMarket.Proofs.Catalog.Reload
import VehicleMarket.Proofs.Json.BinaryNumber
import VehicleMarket.Proofs.Json.QuotedText
import VehicleMarket.Proofs.Json.RoundTrip
import VehicleMarket.Proofs.Json.WholeNumber
import VehicleMarket.Proofs.Market.Refinement
import VehicleMarket.Proofs.Market.Snapshot
import VehicleMarket.Proofs.Record.Canonical
import VehicleMarket.Proofs.Record.Field
import VehicleMarket.Proofs.Record.RoundTrip
import VehicleMarket.Proofs.Record.Written
import VehicleMarket.Proofs.Storage.Disk
import VehicleMarket.Proofs.Storage.Path
import VehicleMarket.Proofs.Table
import VehicleMarket.Record.Codec
import VehicleMarket.Record.History
import VehicleMarket.Record.Listing
import VehicleMarket.Record.Message
import VehicleMarket.Record.Schema
import VehicleMarket.Record.User
import VehicleMarket.Record.Vehicle
import VehicleMarket.Settings.Basic
import VehicleMarket.Settings.Document
import VehicleMarket.Settings.Environment
import VehicleMarket.Status
import VehicleMarket.Storage.Archive
import VehicleMarket.Storage.Disk
import VehicleMarket.Storage.Fault
import VehicleMarket.Storage.Folder
import VehicleMarket.Storage.Path
import VehicleMarket.Table
import VehicleMarket.Text.Blank
import VehicleMarket.Text.CaseTable
import VehicleMarket.Text.HiddenTable
import VehicleMarket.Text.Lowercase
import VehicleMarket.Text.Pattern
import VehicleMarket.Text.Quoted
import VehicleMarket.Text.Utf8
import VehicleMarket.Time.Calendar
import VehicleMarket.Time.Clock
import VehicleMarket.Time.Instant
import VehicleMarket.Toml.Fault
import VehicleMarket.Toml.Quoted
import VehicleMarket.Toml.Reader
import VehicleMarket.Toml.Scalar
import VehicleMarket.Toml.Value
import VehicleMarket.Validation.Email
import VehicleMarket.Validation.Field
import VehicleMarket.WebAddress.Direction
import VehicleMarket.WebAddress.DirectionTable
import VehicleMarket.WebAddress.DomainName
import VehicleMarket.WebAddress.Fault
import VehicleMarket.WebAddress.Ipv4
import VehicleMarket.WebAddress.Ipv6
import VehicleMarket.WebAddress.NameTable
import VehicleMarket.WebAddress.Parse
import VehicleMarket.WebAddress.Punycode
import VehicleMarket.Proofs.Record.Lookup
import VehicleMarket.Proofs.Record.Older
import VehicleMarket.Proofs.Catalog.Acceptance
import VehicleMarket.Proofs.Catalog.Integrity
import VehicleMarket.Proofs.Market.Sale
import VehicleMarket.Proofs.Record.Reread
import VehicleMarket.Proofs.Record.NotFinite
import VehicleMarket.Proofs.Catalog.Reread
import VehicleMarket.Proofs.Market.Durability
import VehicleMarket.Proofs.Decimal.Rounding
import VehicleMarket.Proofs.Decimal.Shortest
import VehicleMarket.Proofs.Json.NumberRange
import VehicleMarket.Proofs.Json.Reading
import VehicleMarket.Proofs.Catalog.Finite
import VehicleMarket.Proofs.Catalog.Consistency
import VehicleMarket.Proofs.Catalog.Routine
import VehicleMarket.Proofs.Json.Printable
import VehicleMarket.Proofs.Market.Atomicity
import VehicleMarket.Proofs.Record.Lines
import VehicleMarket.Proofs.Catalog.AnyRecord
import VehicleMarket.Proofs.Catalog.InsertionOrder
import VehicleMarket.Proofs.Catalog.LifeCycle
import VehicleMarket.Proofs.Catalog.Leniency
import VehicleMarket.Proofs.Record.Timestamp
import VehicleMarket.Proofs.Record.Readings
import VehicleMarket.Proofs.Catalog.Readings
import VehicleMarket.Proofs.Text.Lines
import VehicleMarket.Proofs.Command.Outcome
import VehicleMarket.Proofs.Command.Normalize
import VehicleMarket.Proofs.Time.Calendar
import VehicleMarket.Proofs.Csv.Reader
import VehicleMarket.Proofs.Text.Trim
import VehicleMarket.Proofs.Decimal.Amount
import VehicleMarket.Proofs.Catalog.Attainable
import VehicleMarket.Proofs.Catalog.Sheets
import VehicleMarket.Proofs.Storage.Apart
import VehicleMarket.Proofs.Command.ReadOnly
import VehicleMarket.Proofs.Catalog.Statuses
import VehicleMarket.Proofs.Market.Concurrency
import VehicleMarket.Proofs.Market.LostUpdate
import VehicleMarket.Proofs.Record.Idempotent
import VehicleMarket.Proofs.Record.Footprint
import VehicleMarket.Proofs.Record.OlderValue
import VehicleMarket.Proofs.Catalog.Insertion
import VehicleMarket.Proofs.Catalog.VehicleLookup
import VehicleMarket.Proofs.Catalog.Conversation
import VehicleMarket.Proofs.Catalog.ReadMarks
import VehicleMarket.Proofs.Catalog.VehicleFailures
import VehicleMarket.Proofs.Text.Pattern
import VehicleMarket.Proofs.Validation.Email
import VehicleMarket.Proofs.Settings.Substitution
import VehicleMarket.Proofs.Storage.Parts
import VehicleMarket.Proofs.Command.NamedSnapshot
import VehicleMarket.Proofs.Toml.Continuation
import VehicleMarket.Proofs.Toml.Document
import VehicleMarket.Proofs.Toml.Quoted
import VehicleMarket.Proofs.Toml.Variation
import VehicleMarket.Proofs.Settings.Directory
import VehicleMarket.Proofs.Status
import VehicleMarket.Proofs.Time.Clock
import VehicleMarket.Proofs.Catalog.Photos
