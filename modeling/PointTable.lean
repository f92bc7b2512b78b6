import PointTable.Main
import PointTable.Session
import PointTable.Proofs.Address
import PointTable.Proofs.Batching
import PointTable.Proofs.ChangeLog
import PointTable.Proofs.Codec.Arrays
import PointTable.Proofs.Codec.Extent
import PointTable.Proofs.Codec.Floats
import PointTable.Proofs.Codec.Integers
import PointTable.Proofs.Codec.Strings
import PointTable.Proofs.Codec.Values
import PointTable.Proofs.Codec.Window
import PointTable.Proofs.Compilation
import PointTable.Proofs.Coverage
import PointTable.Proofs.DecodeCommand
import PointTable.Proofs.Devices
import PointTable.Proofs.FewestBlocks
import PointTable.Proofs.Footprint
import PointTable.Proofs.Grouping
import PointTable.Proofs.Groups
import PointTable.Proofs.Handshakes
import PointTable.Proofs.Holes
import PointTable.Proofs.Identifiers
import PointTable.Proofs.Independence
import PointTable.Proofs.InputOrder
import PointTable.Proofs.Loading
import PointTable.Proofs.Lookup
import PointTable.Proofs.Naming
import PointTable.Proofs.Number.Decimal
import PointTable.Proofs.Number.Double
import PointTable.Proofs.Number.Integer
import PointTable.Proofs.Number.Overflow
import PointTable.Proofs.Number.Rounding
import PointTable.Proofs.Number.Single
import PointTable.Proofs.Number.Value
import PointTable.Proofs.NumericAddress
import PointTable.Proofs.Ordered
import PointTable.Proofs.Outcome
import PointTable.Proofs.Overlaps
import PointTable.Proofs.Partition
import PointTable.Proofs.Period
import PointTable.Proofs.PeriodText
import PointTable.Proofs.Printing
import PointTable.Proofs.Program
import PointTable.Proofs.Readings
import PointTable.Proofs.Refusal
import PointTable.Proofs.Rereading
import PointTable.Proofs.Retention
import PointTable.Proofs.Services
import PointTable.Proofs.Splits
import PointTable.Proofs.Storage
import PointTable.Proofs.TaskNames
import PointTable.Proofs.Tasks
import PointTable.Proofs.Text.Blank
import PointTable.Proofs.Text.UpperCase
import PointTable.Proofs.TypeText
import PointTable.Proofs.Units
import PointTable.Proofs.Validation
import PointTable.Proofs.Worksheets
