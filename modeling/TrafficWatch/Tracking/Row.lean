import TrafficWatch.Json.Value
import TrafficWatch.Wire.Codec

/-!
One connection over time. Speeds come from the growth of its counters between two reports.
-/

namespace TrafficWatch.Tracking

open Time Wire

/-- Bytes per second. -/
structure Speed where
  upload : Float := 0
  download : Float := 0
deriving DecidableEq, Repr

structure Row where
  id : String
  metadata : Metadata
  start : Option Instant
  counters : Counters
  previous : Counters
  speed : Speed
  completed : Bool
  firstSeen : Instant
  lastSeen : Instant
  /-- When the connection was first found missing. -/
  closedAt : Option Instant
deriving DecidableEq, Repr

/-- A counter that went back has not grown. -/
def growth (before after : UInt64) : UInt64 := if before ≤ after then after - before else 0

/-- Growth over a number of microseconds. -/
def rate (before after : UInt64) (microseconds : Int) : Float :=
  if 0 < microseconds then
    (growth before after).toFloat / ((UInt64.ofNat microseconds.toNat).toFloat / 1000000)
  else 0

def Speed.between (before after : Counters) (microseconds : Int) : Speed where
  upload := rate before.upload after.upload microseconds
  download := rate before.download after.download microseconds

theorem rate_of_nonpos (before after : UInt64) {us : Int} (h : us ≤ 0) : rate before after us = 0 := by
  simp [rate, Int.not_lt.mpr h]

namespace Row

def opened (id : String) (r : ConnectionRecord) (now : Instant) : Row where
  id := id
  metadata := r.metadata
  start := r.start
  counters := r.counters
  previous := r.counters
  speed := {}
  completed := false
  firstSeen := now
  lastSeen := now
  closedAt := none

/-- A further report of an open connection. A gap too long to count gives no speed. -/
def observe (row : Row) (r : ConnectionRecord) (now : Instant) : Row :=
  { row with
    previous := row.counters
    counters := r.counters
    speed := .between row.counters r.counters ((now.since row.lastSeen).microseconds?.getD 0)
    lastSeen := now
    start := row.start.or r.start
    metadata := row.metadata.merge r.metadata }

def close (row : Row) (now : Instant) : Row :=
  { row with completed := true, speed := {}, closedAt := some now }

/-- Whole seconds since the reported start, or else since the first report; never negative. -/
def ageSeconds (row : Row) (now : Instant) : Int :=
  max 0 (now.since (row.start.getD row.firstSeen)).wholeSeconds

theorem ageSeconds_nonneg (row : Row) (now : Instant) : 0 ≤ row.ageSeconds now :=
  Int.le_max_left _ _

def json (row : Row) : Json.Value := .object [
  ("id", .text row.id), ("metadata", row.metadata.json), ("start", .option .instant row.start),
  ("upload", .word row.counters.upload), ("download", .word row.counters.download),
  ("previous_upload", .word row.previous.upload),
  ("previous_download", .word row.previous.download),
  ("upload_speed", .real row.speed.upload), ("download_speed", .real row.speed.download),
  ("completed", .bool row.completed), ("first_seen_at", .instant row.firstSeen),
  ("last_seen_at", .instant row.lastSeen), ("closed_at", .option .instant row.closedAt)]

end Row

def totalsJson (c : Counters) : Json.Value := .object [
  ("upload_total", .word c.upload), ("download_total", .word c.download)]

end TrafficWatch.Tracking
