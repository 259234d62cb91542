import TrafficWatch.Decimal.Fixed
import TrafficWatch.Text.Layout
import TrafficWatch.Text.Upper
import TrafficWatch.Tracking.View

/-!
The connection table as plain text of fixed width.
-/

namespace TrafficWatch.Render

open Text Time Tracking

def trafficUnits : List String := ["B", "KB", "MB", "GB", "TB", "PB", "EB"]

/-- Divides by 1024 while that leaves at least one of the next unit, if there is one. -/
def scale : List String → Float → Float × String
  | [], x => (x, "")
  | [unit], x => (x, unit)
  | unit :: next :: units, x =>
    if 1024 ≤ x then scale (next :: units) (x / 1024) else (x, unit)

/-- The nearest whole number, none below zero and none above the range; a half goes up. -/
def wholeBytes (x : Float) : UInt64 :=
  match Decimal.Magnitude.ofFloat x with
  | .finite d =>
    if d.negative then 0
    else .ofNatClamp ((2 * d.numerator + d.denominator) / (2 * d.denominator))
  | .infinite negative => if negative then 0 else .ofNatClamp UInt64.size
  | .notANumber => 0

/-- A number of bytes; whole bytes below a kilobyte. -/
def traffic (x : Float) : String :=
  if ! x.isFinite || x < 1024 then toString (wholeBytes x).toNat ++ " B"
  else
    let (value, unit) := scale trafficUnits x
    Decimal.fixed 2 value ++ " " ++ unit

/-- The directions in which there is any traffic. -/
def speed (s : Speed) : String :=
  let up := "↑ " ++ traffic s.upload ++ "/s"
  let down := "↓ " ++ traffic s.download ++ "/s"
  match decide (0 < s.upload), decide (0 < s.download) with
  | false, false => "-"
  | true, true => up ++ " " ++ down
  | true, false => up
  | false, true => down

def age (seconds : Int) : String :=
  if seconds < 60 then toString (max 0 seconds) ++ "s"
  else if seconds < 3600 then toString (seconds / 60) ++ "m"
  else if seconds < 86400 then toString (seconds / 3600) ++ "h"
  else toString (seconds / 86400) ++ "d"

/-- A length of time in the largest fitting unit. -/
def uptime (seconds : UInt64) : String :=
  let hours := seconds.toFloat / 3600
  if hours < 1 then Decimal.fixed 1 (hours * 60) ++ " minutes"
  else if hours < 24 then Decimal.fixed 1 hours ++ " hours"
  else Decimal.fixed 1 (hours / 24) ++ " days"

/-- Which rows are shown. Kinds are told apart without regard to case. -/
structure RowFilter where
  kind : Option String := none
  openOnly : Bool := false
deriving DecidableEq, Repr

def sameIgnoringCase (a b : String) : Bool := a.toList.map Char.toLower == b.toList.map Char.toLower

def RowFilter.shows (f : RowFilter) (row : Row) : Bool :=
  if f.openOnly && row.completed then false
  else match f.kind with
    | some kind => sameIgnoringCase row.metadata.kind kind
    | none => true

structure Cells where
  id : String
  client : String
  network : String
  kind : String
  target : String
  speed : String
  upload : String
  download : String
  age : String
  state : String

def Cells.line (c : Cells) : String :=
  " | ".intercalate [
    padRight 8 c.id, padRight 22 c.client, padRight 5 c.network, padRight 8 c.kind,
    padRight 30 c.target, padRight 28 c.speed, padLeft 11 c.upload, padLeft 11 c.download,
    padLeft 5 c.age, padRight 6 c.state]

def header : Cells where
  id := "ID"
  client := "Client"
  network := "Net"
  kind := "Type"
  target := "Target"
  speed := "Speed"
  upload := "Upload"
  download := "Download"
  age := "Age"
  state := "State"

def cells (now : Instant) (row : Row) : Cells where
  id := truncate 8 row.id
  client := truncate 22 row.metadata.client
  network := upper row.metadata.network
  kind := truncate 8 row.metadata.kind
  target := truncate 30 row.metadata.target
  speed := Render.speed row.speed
  upload := traffic row.counters.upload.toFloat
  download := traffic row.counters.download.toFloat
  age := Render.age (row.ageSeconds now)
  state := if row.completed then "closed" else "open"

def rule : String := String.ofList (List.replicate 162 '-')

def lines (ls : List String) : String := String.join (ls.map (· ++ "\n"))

def rowsTable (rows : List Row) (now : Instant) : String :=
  lines (header.line :: rule ::
    if rows.isEmpty then ["(no connections)"] else rows.map fun row => (cells now row).line)

def kindsText (v : View) : String :=
  ", ".intercalate (v.kindCounts.toList.map fun (kind, n) =>
    (if kind.isEmpty then "?" else kind) ++ " (" ++ toString n ++ ")")

def summary (v : View) : List String :=
  ["LIGHTSOCKS CONNECTIONS",
    "======================",
    "Upload total: " ++ traffic v.totals.upload.toFloat ++ " | Download total: " ++
      traffic v.totals.download.toFloat ++ " | Speed: " ++ speed v.totalSpeed,
    "Open: " ++ toString v.openCount ++ " | Closed: " ++ toString v.closedCount ++
      " | Keep closed: " ++ (if v.keepClosed then "on" else "off") ++
      " | Stream restarts: " ++ toString v.streamRestarts] ++
    (if v.rows.isEmpty then [] else ["Types: " ++ kindsText v]) ++ [""]

/-- The summary counts all rows; the table below it has those that the filter shows. -/
def view (v : View) (f : RowFilter) (now : Instant) : String :=
  lines (summary v) ++ rowsTable (v.rows.filter f.shows) now

/-- A record of the server's log, under the time at which it came. -/
def logLine (r : Wire.LogRecord) (time : String) : String :=
  time ++ " " ++ padRight 7 (upper r.level) ++ " " ++ r.payload

end TrafficWatch.Render
