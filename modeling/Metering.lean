import Metering.Active.Item
import Metering.Active.Listing
import Metering.Active.Source
import Metering.Archive
import Metering.Books
import Metering.CommandLine.Command
import Metering.CommandLine.Grammar
import Metering.CommandLine.Host
import Metering.CommandLine.Machine
import Metering.CommandLine.Perform
import Metering.Consumer
import Metering.Database
import Metering.Decimal.Binary64
import Metering.Decimal.Nearest
import Metering.Decimal.Scaled
import Metering.Decimal.Shortest
import Metering.Decimal.Whole
import Metering.Error
import Metering.Event
import Metering.Files.Path
import Metering.Files.Tree
import Metering.Inventory.Basic
import Metering.Inventory.Cell
import Metering.Inventory.Table
import Metering.Job
import Metering.Json.Basic
import Metering.Json.Codec
import Metering.Json.Pretty
import Metering.Json.Printer
import Metering.Json.Reader
import Metering.Json.Record
import Metering.Json.Token
import Metering.Kind
import Metering.Ledger
import Metering.Main
import Metering.Page
import Metering.Remedy
import Metering.Retention.Batch
import Metering.Retention.Candidate
import Metering.Retention.Policy
import Metering.Retention.Run
import Metering.Settings.Basic
import Metering.Settings.File
import Metering.Settings.Log
import Metering.Snapshot.Basic
import Metering.Snapshot.Chunk
import Metering.Snapshot.Chunking
import Metering.Snapshot.Cleanup
import Metering.Snapshot.Generation
import Metering.Snapshot.Store
import Metering.Telemetry.Histogram
import Metering.Telemetry.Registry
import Metering.Text.Blank
import Metering.Text.Quoted
import Metering.Text.Unprintable
import Metering.Time.Civil
import Metering.Time.Instant
import Metering.Time.Span
import Metering.Toml.Document
import Metering.Toml.Scalar
import Metering.Toml.Table
import Metering.Toml.Text
import Metering.Toml.Value
import Metering.Word
import Metering.Proofs.Batches
import Metering.Proofs.Consumption
import Metering.Proofs.Pairing
import Metering.Proofs.Population
import Metering.Proofs.Appending
import Metering.Proofs.Attempts
import Metering.Proofs.Idle
import Metering.Proofs.Leftovers
import Metering.Proofs.Orphans
import Metering.Proofs.Tallies
import Metering.Proofs.Permanence
import Metering.Proofs.Retrying
import Metering.Proofs.Separation
import Metering.Proofs.Watermarks
import Metering.Proofs.Protections
import Metering.Proofs.Rehearsal
import Metering.Proofs.Repetition
import Metering.Proofs.Resuming
import Metering.Proofs.Ceiling
import Metering.Proofs.Checkpoints
import Metering.Proofs.Bundling
import Metering.Proofs.Joins
import Metering.Proofs.Slices
import Metering.Proofs.Expiry
import Metering.Proofs.Roll
import Metering.Proofs.ChunkPages
import Metering.Proofs.Cutoffs
import Metering.Proofs.Sums
import Metering.Proofs.Borders
import Metering.Proofs.Buffers
