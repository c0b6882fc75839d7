import TickStream.Bytes.Word
import TickStream.Text.LowerCase
import TickStream.Text.Blank
import TickStream.Text.Numeral
import TickStream.Decimal.Double
import TickStream.Json.Numeral
import TickStream.Json.Parser
import TickStream.Json.Printer
import TickStream.Vocabulary.Schema
import TickStream.Vocabulary.Symbology
import TickStream.Vocabulary.Encoding
import TickStream.Vocabulary.Market
import TickStream.Price
import TickStream.Timestamp
import TickStream.Error
import TickStream.Bytes.Cursor
import TickStream.Bytes.Writer
import TickStream.Bytes.Source
import TickStream.Record.Slot
import TickStream.Record.Field
import TickStream.Record.Body.Book
import TickStream.Record.Body.Market
import TickStream.Record.Body.Message
import TickStream.Record.Body.Definition
import TickStream.Record.Json
import TickStream.Bytes.Intake
import TickStream.Metadata.Codec
import TickStream.Metadata.Json
import TickStream.Scan.Frames
import TickStream.Scan.Lines
import TickStream.Symbols.ByDate
import TickStream.Symbols.Current
import TickStream.Text.Split
import TickStream.Archive.Path
import TickStream.Live.Address
import TickStream.Print
import TickStream.Digest.Sha256
import TickStream.Live.Message
import TickStream.Live.Request
import TickStream.Live.Settings
import TickStream.Live.Relay
import TickStream.Inspector
import TickStream.Live.Program
import TickStream.Main
import TickStream.Proofs.Bytes.Texts
import TickStream.Proofs.Step
import TickStream.Proofs.Bytes.Takes
import TickStream.Proofs.Record.Rows
import TickStream.Proofs.Record.Texts
import TickStream.Proofs.Record.Framing
import TickStream.Proofs.Record.RoundTrip
import TickStream.Proofs.Metadata.RoundTrip
import TickStream.Proofs.Bytes.Delivery
import TickStream.Proofs.Metadata.Frame
import TickStream.Proofs.Scan.Advance
import TickStream.Proofs.Scan.Run
import TickStream.Proofs.Scan.Stream
import TickStream.Proofs.Scan.Truncation
import TickStream.Proofs.Scan.Tiling
import TickStream.Proofs.Bytes.Entries
import TickStream.Proofs.Metadata.Encoding
import TickStream.Proofs.Bytes.Covers
import TickStream.Proofs.Metadata.Decoded
import TickStream.Proofs.Bytes.Reading
import TickStream.Proofs.Scan.FrameDeliveries
import TickStream.Proofs.Scan.LineDeliveries
import TickStream.Proofs.Scan.Deliveries
import TickStream.Proofs.Json.Grammar
import TickStream.Proofs.Json.Numerals
import TickStream.Proofs.Json.Strings
import TickStream.Proofs.Json.Values
import TickStream.Proofs.Json.Printed
import TickStream.Proofs.Json.Members
import TickStream.Proofs.Record.Renders
import TickStream.Proofs.Record.JsonLines
import TickStream.Proofs.Calendar
import TickStream.Proofs.Symbols.ByDate
import TickStream.Proofs.Symbols.Agreement
import TickStream.Proofs.Scan.Progress
import TickStream.Proofs.Json.Compact
import TickStream.Proofs.Record.PrintedLines
import TickStream.Proofs.Print
import TickStream.Proofs.External
import TickStream.Proofs.Scan.Outcomes
import TickStream.Proofs.Live.ControlLines
import TickStream.Proofs.Live.Steps
import TickStream.Proofs.Live.Standing
import TickStream.Proofs.Live.Order
import TickStream.Proofs.Live.Failures
import TickStream.Proofs.Live.Handover
import TickStream.Proofs.Live.Mirror
import TickStream.Proofs.Live.Copying
import TickStream.Proofs.Live.FrameRelay
import TickStream.Proofs.Json.NumeralTexts
import TickStream.Proofs.Json.Soundness
import TickStream.Proofs.Scan.LineTexts
import TickStream.Proofs.Live.LineRelay
import TickStream.Proofs.Live.Exits
import TickStream.Proofs.Live.Messages
import TickStream.Proofs.Scan.Turns
import TickStream.Proofs.Scan.Discipline
import TickStream.Proofs.Metadata.Agreement
import TickStream.Proofs.Record.Exactness
import TickStream.Proofs.Record.Roles
import TickStream.Proofs.Record.Reencoding
import TickStream.Proofs.Record.JsonLengths
import TickStream.Proofs.Record.WellFormed
import TickStream.Proofs.PlainTexts
import TickStream.Proofs.Live.Handshake
import TickStream.Proofs.Live.CutHandshake
import TickStream.Proofs.Scan.LineSplit
import TickStream.Proofs.Scan.LineLimit
import TickStream.Proofs.Symbols.Intervals
import TickStream.Proofs.Symbols.FailedFills
import TickStream.Proofs.PriceTexts
import TickStream.Proofs.Bytes.Fields
import TickStream.Proofs.Prices
import TickStream.Proofs.Moments
import TickStream.Proofs.Bytes.Regions
import TickStream.Proofs.Metadata.Places
import TickStream.Proofs.Offsets
import TickStream.Proofs.Bytes.Transfers
import TickStream.Proofs.Dates
