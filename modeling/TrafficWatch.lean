import TrafficWatch.Main
import TrafficWatch.Commands.Local
import TrafficWatch.Config.Check
import TrafficWatch.Config.Load
import TrafficWatch.Config.Print
import TrafficWatch.Endpoint
import TrafficWatch.Url.Form
import TrafficWatch.Url.Ip
import TrafficWatch.Stream.Backoff
import TrafficWatch.Stream.Play
import TrafficWatch.Render
import TrafficWatch.Tracking.Store
import TrafficWatch.Settings
import TrafficWatch.Files.Disk
import TrafficWatch.Ring
import TrafficWatch.Text.Upper
import TrafficWatch.Text.Layout
import TrafficWatch.Tracking.Table
import TrafficWatch.Proofs.Tracking.Closure
import TrafficWatch.Proofs.Stream.Supersession
import TrafficWatch.Proofs.Stream.ScriptedRun
import TrafficWatch.Proofs.Tracking.Hiding
import TrafficWatch.Proofs.Control.Addressing
import TrafficWatch.Proofs.Web.Fetching
import TrafficWatch.Proofs.Tracking.Independence
import TrafficWatch.Proofs.Commands.Printing
import TrafficWatch.Proofs.Stream.ConcurrentCalls
import TrafficWatch.Proofs.Reconnects
import TrafficWatch.Proofs.Tracking.Preference
import TrafficWatch.Proofs.RoundTrips
import TrafficWatch.Proofs.Wire.Leniency
import TrafficWatch.Proofs.Config.Validation
import TrafficWatch.Proofs.Ring
import TrafficWatch.Proofs.Stream.SessionCalls
import TrafficWatch.Proofs.Stream.ConcurrentFrames
import TrafficWatch.Proofs.Text.Composing
import TrafficWatch.Proofs.Url.HostNames
import TrafficWatch.Proofs.Url.Boundaries
import TrafficWatch.Proofs.Config.Addresses
import TrafficWatch.Proofs.Stream.Dispatching
import TrafficWatch.Proofs.Web.Effects
import TrafficWatch.Proofs.Commands.Changing
import TrafficWatch.Proofs.Counters
import TrafficWatch.Proofs.Tracking.Fates
import TrafficWatch.Proofs.Url.FormCoding
import TrafficWatch.Proofs.Config.Parameters
import TrafficWatch.Proofs.Files.Trees
import TrafficWatch.Proofs.Files.Updates
import TrafficWatch.Proofs.Stream.Pacing
import TrafficWatch.Proofs.Stream.Stages
import TrafficWatch.Proofs.Stream.Waits
import TrafficWatch.Proofs.Labelled
import TrafficWatch.Proofs.Gauges
import TrafficWatch.Proofs.Tracking.Removal
import TrafficWatch.Proofs.Config.Omissions
import TrafficWatch.Proofs.Traffic
import TrafficWatch.Proofs.Tracking.Coherence
import TrafficWatch.Proofs.Stream.Schedule
import TrafficWatch.Proofs.Text.Casing
import TrafficWatch.Proofs.Widths
import TrafficWatch.Proofs.Columns
