import TrafficWatch.About
import TrafficWatch.Config.Basic
import TrafficWatch.Monitor
import TrafficWatch.Render

/-!
What the local HTTP server tells about the connections and about itself.
-/

namespace TrafficWatch.Web

open Render Tracking

def address (c : Config) : String :=
  c.endpoint.host ++ ":" ++ toString c.endpoint.port.toNat

/-- The table as the terminal shows it, and where there is more. -/
def tablePage (c : Config) (v : View) (f : RowFilter) (now : Time.Instant) : String :=
  Render.view v f now ++ lines [
    "",
    "Proxy API: " ++ address c,
    "Endpoints: /connections  /connections/\x7bid\x7d  /health  /metrics",
    About.title]

/-- The counts are of all rows, whichever are listed. -/
def listing (v : View) (f : RowFilter) : Json.Value := .object [
  ("totals", totalsJson v.totals), ("keep_closed", .bool v.keepClosed),
  ("revision", .nat v.revision), ("stream_restarts", .nat v.streamRestarts),
  ("open", .nat v.openCount), ("closed", .nat v.closedCount),
  ("connections", .list ((v.rows.filter f.shows).map (·.json)))]

def timesText (s : RunningStat) : String :=
  "/".intercalate ([s.last, s.average, s.max].map (Decimal.fixed 2))

def storeTable (s : Store) (httpRequests : Nat) : String :=
  let v := s.view
  "CONNECTION STORE\n" ++
  "----------------\n" ++
  StreamReport.line "snapshots_applied" (toString s.applyTimes.count) ++
  StreamReport.line "apply_ms (last/avg/max)" (timesText s.applyTimes) ++
  StreamReport.line "revision" (toString v.revision) ++
  StreamReport.line "open_connections" (toString v.openCount) ++
  StreamReport.line "closed_connections" (toString v.closedCount) ++
  StreamReport.line "stream_restarts" (toString v.streamRestarts) ++
  StreamReport.line "http_requests" (toString httpRequests)

inductive Health where
  | healthy
  | waiting
  | stopped
deriving DecidableEq, Repr

namespace Health

/-- Healthy since the first snapshot, whatever has become of the stream. -/
def ofPipeline (p : Pipeline) : Health :=
  if p.hasSnapshot then .healthy else if p.reader.isActive then .waiting else .stopped

def status : Health → Nat
  | .healthy => 200
  | .waiting => 503
  | .stopped => 503

def message : Health → String
  | .healthy => "OK"
  | .waiting => "Waiting for first snapshot"
  | .stopped => "Stream reader stopped"

end Health

/-- The time is in milliseconds since the start. The stream's address holds the secret, so only
host and port are shown. -/
def healthPage (c : Config) (p : Pipeline) (now : Nat) : String :=
  lines [
    (Health.ofPipeline p).message,
    "",
    "Uptime: " ++ Render.uptime (UInt64.ofNat (now / 1000)),
    "Stream: " ++ p.reader.name ++ " (" ++ address c ++ ", " ++
      (if p.reader.isActive then "active" else "stopped") ++ ")",
    "",
    (p.reader.report now).table] ++ storeTable p.store p.own.httpRequests

end TrafficWatch.Web
