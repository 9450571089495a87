import SeedStream.Argument
import SeedStream.Battery.Counts
import SeedStream.Battery.Report
import SeedStream.Battery.Tail
import SeedStream.ByteCount
import SeedStream.Chart
import SeedStream.CommandLine.Commands
import SeedStream.CommandLine.Machine
import SeedStream.CommandLine.Options
import SeedStream.CommandLine.Run
import SeedStream.CommandLine.Upkeep
import SeedStream.CoreOperation
import SeedStream.Digest
import SeedStream.Double.Binary
import SeedStream.Double.Fixed
import SeedStream.Double.Literal
import SeedStream.Double.Shortest
import SeedStream.Entropy.Basic
import SeedStream.Entropy.Environment
import SeedStream.Entropy.Native
import SeedStream.Entropy.Sequence
import SeedStream.Entropy.Twister
import SeedStream.Failure
import SeedStream.FileTree
import SeedStream.Fraction
import SeedStream.Generator
import SeedStream.Integer
import SeedStream.Item.Basic
import SeedStream.Item.Code
import SeedStream.Item.Description
import SeedStream.Item.Lengths
import SeedStream.Item.Word
import SeedStream.Json.Parser
import SeedStream.Json.Printer
import SeedStream.Json.Scanner
import SeedStream.Kind
import SeedStream.Lanes
import SeedStream.Literal.Basic
import SeedStream.Literal.LongMark
import SeedStream.Literal.Members
import SeedStream.Literal.Order
import SeedStream.Literal.Reader
import SeedStream.Literal.Settled
import SeedStream.Literal.Token
import SeedStream.Main
import SeedStream.Manifest
import SeedStream.Numeral
import SeedStream.Operation
import SeedStream.Output.Codec
import SeedStream.Output.Files
import SeedStream.Output.Format
import SeedStream.Output.Npy
import SeedStream.Output.Npy.Header
import SeedStream.Path
import SeedStream.Proofs.AbsolutePaths
import SeedStream.Proofs.ArrayFiles
import SeedStream.Proofs.AtomicSort
import SeedStream.Proofs.Balance
import SeedStream.Proofs.BitRows
import SeedStream.Proofs.Blocks
import SeedStream.Proofs.BuiltSettings
import SeedStream.Proofs.ByteFiles
import SeedStream.Proofs.ClockedStream
import SeedStream.Proofs.Collapse
import SeedStream.Proofs.CommandWords
import SeedStream.Proofs.Compression
import SeedStream.Proofs.Deterministic
import SeedStream.Proofs.DigestBlocks
import SeedStream.Proofs.Digits
import SeedStream.Proofs.Divergence
import SeedStream.Proofs.ExactDoubles
import SeedStream.Proofs.FailedDraws
import SeedStream.Proofs.FileReadBack
import SeedStream.Proofs.FourOutputs
import SeedStream.Proofs.FractionGrid
import SeedStream.Proofs.HeaderText
import SeedStream.Proofs.JsonRoundTrip
import SeedStream.Proofs.JsonText
import SeedStream.Proofs.Jump
import SeedStream.Proofs.LaneRows
import SeedStream.Proofs.LaneRuns
import SeedStream.Proofs.Lookups
import SeedStream.Proofs.ManifestCommands
import SeedStream.Proofs.ManifestEntries
import SeedStream.Proofs.ManifestVerdicts
import SeedStream.Proofs.Manifests
import SeedStream.Proofs.Moves
import SeedStream.Proofs.NativeMode
import SeedStream.Proofs.NormalTexts
import SeedStream.Proofs.PathTexts
import SeedStream.Proofs.Period
import SeedStream.Proofs.PieceReads
import SeedStream.Proofs.Precedence
import SeedStream.Proofs.ProtocolValues
import SeedStream.Proofs.ReferenceStreams
import SeedStream.Proofs.RefusedData
import SeedStream.Proofs.Rejection
import SeedStream.Proofs.ReportedPaths
import SeedStream.Proofs.Results
import SeedStream.Proofs.SampleCounts
import SeedStream.Proofs.SampleFiles
import SeedStream.Proofs.SecureHash
import SeedStream.Proofs.SeedWords
import SeedStream.Proofs.SeededCommands
import SeedStream.Proofs.SeededRuns
import SeedStream.Proofs.SequenceDraws
import SeedStream.Proofs.StableSort
import SeedStream.Proofs.Superposition
import SeedStream.Proofs.TextFiles
import SeedStream.Proofs.TracedSource
import SeedStream.Proofs.Uniformity
import SeedStream.Proofs.Wide
import SeedStream.Proofs.WordMaps
import SeedStream.Proofs.WordRange
import SeedStream.Records
import SeedStream.Records.InPlace
import SeedStream.Reference
import SeedStream.Request.Core
import SeedStream.Request.Scan
import SeedStream.Sample
import SeedStream.Scan
import SeedStream.Seed
import SeedStream.Session
import SeedStream.Settings
import SeedStream.Shape
import SeedStream.SinglePower
import SeedStream.State
import SeedStream.Text.Blank
import SeedStream.Text.CharacterName
import SeedStream.Text.Digit
import SeedStream.Text.Letter
import SeedStream.Text.Lines
import SeedStream.Text.LowerCase
import SeedStream.Text.Pieces
import SeedStream.Text.Printable
import SeedStream.Text.Quoted
import SeedStream.Text.Utf8
import SeedStream.Timestamp
import SeedStream.Value
import SeedStream.Word
import SeedStream.Yaml.Document
import SeedStream.Yaml.Node
import SeedStream.Yaml.Scalar
import SeedStream.Yaml.Timestamp
