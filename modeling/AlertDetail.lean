import AlertDetail.Anomaly
import AlertDetail.Backend.Call
import AlertDetail.Backend.Canned
import AlertDetail.Calendar.Date
import AlertDetail.Calendar.Display
import AlertDetail.Calendar.Yearly
import AlertDetail.Calendar.Zone
import AlertDetail.Calendar.ZoneNames
import AlertDetail.Calendar.ZoneTable
import AlertDetail.Chart
import AlertDetail.ChartView
import AlertDetail.Command.Arguments
import AlertDetail.Command.Basic
import AlertDetail.Command.Usage
import AlertDetail.Config.Basic
import AlertDetail.Config.Overrides
import AlertDetail.Decimal.Binary
import AlertDetail.Decimal.Fixed
import AlertDetail.Decimal.Scaled
import AlertDetail.Decimal.Shortest
import AlertDetail.DerivedViews
import AlertDetail.Domain.Basic
import AlertDetail.Domain.Direction
import AlertDetail.Domain.DirectionTable
import AlertDetail.Domain.Joining
import AlertDetail.Domain.JoiningTable
import AlertDetail.Domain.Mapping
import AlertDetail.Domain.MappingTable
import AlertDetail.Domain.Punycode
import AlertDetail.Environment.Assignment
import AlertDetail.Environment.Basic
import AlertDetail.Environment.Lines
import AlertDetail.Environment.Load
import AlertDetail.Error
import AlertDetail.Files
import AlertDetail.Http.Exchange
import AlertDetail.Http.Message
import AlertDetail.Http.Wire
import AlertDetail.Json.Basic
import AlertDetail.Json.Numeral
import AlertDetail.Json.Printer
import AlertDetail.Json.Reader
import AlertDetail.Json.Token
import AlertDetail.Main
import AlertDetail.Memo
import AlertDetail.Merge
import AlertDetail.Notice
import AlertDetail.Offset
import AlertDetail.Overlay
import AlertDetail.Payload.Anomaly
import AlertDetail.Payload.Choices
import AlertDetail.Payload.Evaluation
import AlertDetail.Payload.Fields
import AlertDetail.Payload.View
import AlertDetail.Prediction
import AlertDetail.Proofs.Draft.Comparison
import AlertDetail.Proofs.Draft.Results
import AlertDetail.Proofs.Run.Continuation
import AlertDetail.Proofs.Run.Numbering
import AlertDetail.Proofs.Run.Options
import AlertDetail.Proofs.Run.Order
import AlertDetail.Proofs.Run.Schedule
import AlertDetail.Proofs.Series.Newest
import AlertDetail.Proofs.Series.Selection
import AlertDetail.Proofs.Views.Freshness
import AlertDetail.Quality
import AlertDetail.Range
import AlertDetail.Report
import AlertDetail.Run.Basic
import AlertDetail.Run.Begin
import AlertDetail.Run.LiveView
import AlertDetail.Run.Load
import AlertDetail.Run.Operation
import AlertDetail.Run.Reporting
import AlertDetail.Run.Series
import AlertDetail.Run.Serve
import AlertDetail.Selection
import AlertDetail.Session
import AlertDetail.Slice
import AlertDetail.Table
import AlertDetail.Text.Alphanumeric
import AlertDetail.Text.Blank
import AlertDetail.Text.Case
import AlertDetail.Text.CaseTable
import AlertDetail.Text.Composition
import AlertDetail.Text.CompositionTable
import AlertDetail.Text.Form
import AlertDetail.Text.Percent
import AlertDetail.Text.Ranges
import AlertDetail.Text.Syllable
import AlertDetail.Text.Utf8
import AlertDetail.Text.Whole
import AlertDetail.Text.WordTable
import AlertDetail.TextMap
import AlertDetail.TimeSeries
import AlertDetail.Url.Basic
import AlertDetail.Url.Host
import AlertDetail.Url.Parse
import AlertDetail.Url.Path
import AlertDetail.Url.Reserved
import AlertDetail.ViewState
import AlertDetail.Proofs.Series.Superseded
import AlertDetail.Proofs.Run.Ended
import AlertDetail.Proofs.Run.Dropped
import AlertDetail.Proofs.Sets.Passes
import AlertDetail.Proofs.Draft.Order
import AlertDetail.Proofs.Sets.Window
import AlertDetail.Proofs.Loads.Flags
import AlertDetail.Proofs.Loads.Suppression
import AlertDetail.Proofs.Run.Preparation
import AlertDetail.Proofs.Slices.Keys
import AlertDetail.Proofs.Slices.Consistency
import AlertDetail.Proofs.Loads.Failures
import AlertDetail.Proofs.Config.Precedence
import AlertDetail.Proofs.Run.Endings
import AlertDetail.Proofs.Notices.Accounts
import AlertDetail.Proofs.Run.Serving
import AlertDetail.Proofs.Command.Status
import AlertDetail.Proofs.Decimal.Finite
import AlertDetail.Proofs.Json.Sound
import AlertDetail.Proofs.Json.Printed
import AlertDetail.Proofs.Payload.Fields
import AlertDetail.Proofs.Payload.Diagnostics
import AlertDetail.Proofs.Payload.RoundTrip
import AlertDetail.Proofs.Overlay.Course
import AlertDetail.Proofs.Overlay.Coverage
import AlertDetail.Proofs.Overlay.Boundaries
import AlertDetail.Proofs.Overlay.Mask
import AlertDetail.Proofs.Overlay.Past
import AlertDetail.Proofs.Overlay.Overlap
import AlertDetail.Proofs.Overlay.Handover
import AlertDetail.Proofs.Chart.Lines
import AlertDetail.Proofs.Series.Baseline
import AlertDetail.Proofs.Run.Refused
import AlertDetail.Proofs.Reports.Submission
import AlertDetail.Proofs.Calendar.Dates
import AlertDetail.Proofs.Calendar.Display
import AlertDetail.Proofs.Calendar.StartOfDay
import AlertDetail.Proofs.Loads.Sliceless
import AlertDetail.Proofs.Calendar.Months
import AlertDetail.Proofs.Calendar.Presets
import AlertDetail.Proofs.Calendar.Windows
import AlertDetail.Proofs.Payload.Ranges
import AlertDetail.Proofs.Run.Windows
import AlertDetail.Proofs.Text.Bytes
import AlertDetail.Proofs.Text.Percent
import AlertDetail.Proofs.Text.Form
import AlertDetail.Proofs.Slices.Labels
import AlertDetail.Proofs.Url.Authority
import AlertDetail.Proofs.Url.Parts
import AlertDetail.Proofs.Url.Extension
import AlertDetail.Proofs.Http.Queries
import AlertDetail.Proofs.Reports.Parameters
import AlertDetail.Proofs.Slices.Partition
import AlertDetail.Proofs.Table.Numbers
import AlertDetail.Proofs.Quality.Rates
import AlertDetail.Proofs.Views.Computations
