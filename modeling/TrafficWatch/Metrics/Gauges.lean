import TrafficWatch.Metrics.Family
import TrafficWatch.Metrics.Labelled
import TrafficWatch.Statistics
import TrafficWatch.Tracking.View

/-!
Gauges that outlive a scrape. Each scrape sets them from the view and from the counters of the
reader; labels that the view does not have any more go.
-/

namespace TrafficWatch.Metrics

open Tracking

/-- What is told of the connection table. -/
structure TableGauges where
  totals : Wire.Counters := {}
  byState : LabelledGauges := {}
  byType : LabelledGauges := {}
  speed : Speed := {}
  streamRestarts : Nat := 0
  revision : Nat := 0

/-- Connections without a type count as of unknown type. -/
def typeLabel (kind : String) : String := if kind.isEmpty then "unknown" else kind

def addCount (m : Std.ExtTreeMap String Nat) (label : String) (n : Nat) :
    Std.ExtTreeMap String Nat :=
  m.insert label (m.getD label 0 + n)

/-- Types with the same label are counted together. -/
def labelCounts (kinds : Std.ExtTreeMap String Nat) : Std.ExtTreeMap String Nat :=
  kinds.toList.foldl (fun m (kind, n) => addCount m (typeLabel kind) n) ∅

def TableGauges.update (g : TableGauges) (v : View) : TableGauges where
  totals := v.totals
  byState := (g.byState.set "open" v.openCount).set "closed" v.closedCount
  -- types come and go, so the gauges of earlier views are dropped before the new ones are set
  byType := g.byType.reset.setAll (labelCounts v.kindCounts).toList
  speed := v.totalSpeed
  streamRestarts := v.streamRestarts
  revision := v.revision

/-- What is told of the reader of the stream. -/
structure ReaderGauges where
  framesReceived : Nat := 0
  parseErrors : Nat := 0
  transportErrors : Nat := 0
  reconnects : Nat := 0
  bufferedMessages : Nat := 0

def ReaderGauges.ofReport (r : StreamReport) : ReaderGauges where
  framesReceived := r.framesReceived
  parseErrors := r.parseErrors
  transportErrors := r.transportErrors
  reconnects := r.reconnects
  bufferedMessages := r.bufferLength

structure Gauges where
  table : TableGauges := {}
  reader : ReaderGauges := {}
  applySeconds : Float := 0
  /-- How long the last scrape took. -/
  scrapeSeconds : Float := 0

namespace Gauges

def update (g : Gauges) (v : View) (r : StreamReport) (applyMilliseconds : Float) : Gauges :=
  { g with
    table := g.table.update v
    reader := .ofReport r
    applySeconds := applyMilliseconds / 1000 }

def counts (g : LabelledGauges) : List (String × Float) :=
  g.readings.map fun (label, n) => (label, Float.ofNat n)

/-- In the order of their names. -/
def families (g : Gauges) : List Family := [
  .byLabel "lightsocks_connections" "Connections in the monitor table by state" "state"
    (counts g.table.byState),
  .byLabel "lightsocks_connections_by_type" "Connections in the monitor table by connection type"
    "type" (counts g.table.byType),
  .single "lightsocks_download_speed_bytes_per_second"
    "Summed download speed of all tracked connections" g.table.speed.download,
  .single "lightsocks_download_total_bytes" "Cumulative bytes downloaded through the proxy"
    g.table.totals.download.toFloat,
  .single "lightsocks_monitor_reader_buffered_messages"
    "Messages currently retained in the reader buffer" (Float.ofNat g.reader.bufferedMessages),
  .single "lightsocks_monitor_reader_frames_received"
    "Frames received by the connection stream reader" (Float.ofNat g.reader.framesReceived),
  .single "lightsocks_monitor_reader_parse_errors"
    "Frames dropped because they could not be parsed" (Float.ofNat g.reader.parseErrors),
  .single "lightsocks_monitor_reader_reconnects"
    "Successful reconnects of the connection stream reader" (Float.ofNat g.reader.reconnects),
  .single "lightsocks_monitor_reader_transport_errors"
    "Transport failures of the connection stream reader" (Float.ofNat g.reader.transportErrors),
  .single "lightsocks_monitor_scrape_duration_seconds" "Time spent serving /metrics request"
    g.scrapeSeconds,
  .single "lightsocks_monitor_store_apply_duration_seconds"
    "Time spent applying the last snapshot to the store" g.applySeconds,
  .single "lightsocks_monitor_store_revision" "Revision of the latest published connection view"
    (Float.ofNat g.table.revision),
  .single "lightsocks_monitor_stream_restarts" "Times the connection stream was re-established"
    (Float.ofNat g.table.streamRestarts),
  .single "lightsocks_upload_speed_bytes_per_second"
    "Summed upload speed of all tracked connections" g.table.speed.upload,
  .single "lightsocks_upload_total_bytes" "Cumulative bytes uploaded through the proxy"
    g.table.totals.upload.toFloat]

def text (g : Gauges) : String := Metrics.text g.families

end Gauges

end TrafficWatch.Metrics
