import Metering.Change
import Metering.Clock
import Metering.Decimal.Binary64
import Metering.Decimal.Layout
import Metering.Decimal.Shortest
import Metering.Document.Shape
import Metering.Failure
import Metering.Fanout
import Metering.Fanout.Probe
import Metering.Fault
import Metering.Host
import Metering.Host.Files
import Metering.Json.Printer
import Metering.Json.Reader
import Metering.Json.Text
import Metering.Json.Value
import Metering.Kind
import Metering.Level
import Metering.LevelMap
import Metering.Name
import Metering.NameMap
import Metering.Observer
import Metering.Pattern.Basic
import Metering.Pattern.Encoding
import Metering.Pattern.Named
import Metering.Pattern.Normal
import Metering.Pattern.Reader
import Metering.Pattern.Size
import Metering.Pattern.Token
import Metering.Proofs.Characters
import Metering.Proofs.Document.Fits
import Metering.Proofs.Fanout
import Metering.Proofs.Files
import Metering.Proofs.Json.Documents
import Metering.Proofs.Json.Grammar
import Metering.Proofs.Json.Numbers
import Metering.Proofs.Json.Tokens
import Metering.Proofs.LevelMap
import Metering.Proofs.Name.Expansion
import Metering.Proofs.Name.Joining
import Metering.Proofs.Name.Lineage
import Metering.Proofs.Name.Members
import Metering.Proofs.Name.Spelling
import Metering.Proofs.NameMap
import Metering.Proofs.Pattern.Bracketed
import Metering.Proofs.Pattern.Closing
import Metering.Proofs.Pattern.Enclosed
import Metering.Proofs.Pattern.Meaning
import Metering.Proofs.Pattern.Tokens
import Metering.Proofs.Pattern.Whole
import Metering.Proofs.Registry.Availability
import Metering.Proofs.Registry.Binding
import Metering.Proofs.Registry.Change
import Metering.Proofs.Registry.Coherence
import Metering.Proofs.Registry.Commutation
import Metering.Proofs.Registry.Conservation
import Metering.Proofs.Registry.Fresh
import Metering.Proofs.Registry.Grant
import Metering.Proofs.Registry.Groups
import Metering.Proofs.Registry.Identity
import Metering.Proofs.Registry.Levels
import Metering.Proofs.Registry.Move
import Metering.Proofs.Registry.Recording
import Metering.Proofs.Registry.Refusal
import Metering.Proofs.Registry.Removal
import Metering.Proofs.Registry.Room
import Metering.Proofs.Registry.Sound
import Metering.Proofs.Registry.Sources
import Metering.Proofs.Registry.Stored
import Metering.Proofs.Registry.Switch
import Metering.Proofs.Registry.Told
import Metering.Proofs.Registry.Usage
import Metering.Proofs.Report.BuiltIn
import Metering.Proofs.Report.Departure
import Metering.Proofs.Report.Engagement
import Metering.Proofs.Report.FileName
import Metering.Proofs.Report.Filter
import Metering.Proofs.Report.JsonLine
import Metering.Proofs.Report.Onward
import Metering.Proofs.Report.Reporter
import Metering.Proofs.Report.Restart
import Metering.Proofs.Report.Round
import Metering.Proofs.Report.Selected
import Metering.Proofs.Report.Table
import Metering.Proofs.Report.Tables
import Metering.Proofs.Report.TextLine
import Metering.Proofs.Report.Turnover
import Metering.Proofs.Ron.RoundTrip
import Metering.Proofs.Ron.Tokens
import Metering.Proofs.Scalar
import Metering.Proofs.Service.Announcement
import Metering.Proofs.Service.Keeping
import Metering.Proofs.Service.Observation
import Metering.Proofs.Service.Setup
import Metering.Proofs.Service.Turnover
import Metering.Proofs.Service.Wiring
import Metering.Proofs.Session.Attended
import Metering.Proofs.Session.Following
import Metering.Proofs.Session.History
import Metering.Proofs.Session.Isolation
import Metering.Proofs.Session.Restart
import Metering.Proofs.Session.Switch
import Metering.Proofs.Session.Turnover
import Metering.Proofs.Settings
import Metering.Proofs.Settings.Json
import Metering.Proofs.Settings.Override
import Metering.Proofs.Statistic.Cached
import Metering.Proofs.Statistic.Intervals
import Metering.Proofs.Statistic.Latest
import Metering.Proofs.Statistic.Pending
import Metering.Proofs.Statistic.Quantile
import Metering.Proofs.Statistic.Retained
import Metering.Proofs.Statistic.Smoothed
import Metering.Proofs.Statistic.Sources
import Metering.Proofs.Statistic.Tally
import Metering.Proofs.Statistic.Timed
import Metering.Proofs.Subscriptions
import Metering.Proofs.Subscriptions.Gathering
import Metering.Proofs.Supervisor
import Metering.Proofs.Text.Blank
import Metering.Registry.Basic
import Metering.Registry.Creation
import Metering.Registry.Enablement
import Metering.Registry.Notice
import Metering.Registry.Recording
import Metering.Registry.Removal
import Metering.Report.Cycle
import Metering.Report.Fault
import Metering.Report.Filter
import Metering.Report.Line
import Metering.Report.Page
import Metering.Report.Polled
import Metering.Report.Reporter
import Metering.Report.Sink
import Metering.Report.Table
import Metering.Report.Worker
import Metering.Ron.Printer
import Metering.Ron.Reader
import Metering.Ron.Token
import Metering.Sample
import Metering.Scalar
import Metering.Service.Announcement
import Metering.Service.Basic
import Metering.Service.Installed
import Metering.Service.Metrics
import Metering.Service.Setup
import Metering.Session
import Metering.Session.Command
import Metering.Settings
import Metering.Settings.Load
import Metering.Settings.Text
import Metering.Settle
import Metering.Site
import Metering.Statistic
import Metering.Statistic.Gauge
import Metering.Statistic.Meter
import Metering.Statistic.MovingAverage
import Metering.Statistic.Reservoir
import Metering.Statistic.Snapshot
import Metering.Statistic.Timer
import Metering.Store
import Metering.Subscriptions
import Metering.Subscriptions.Gathering
import Metering.Subscriptions.Reaction
import Metering.Supervisor
import Metering.Text.Age
import Metering.Text.Blank
import Metering.Text.Break
import Metering.Text.Category
import Metering.Text.CharSet
import Metering.Text.Folding
import Metering.Text.Pieces
import Metering.Text.Property
import Metering.Text.Quoted
import Metering.Text.Script
import Metering.Text.Span
import Metering.Text.Trait
import Metering.Update
