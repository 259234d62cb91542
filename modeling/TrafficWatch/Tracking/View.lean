import Std.Data.ExtTreeMap
import TrafficWatch.Tracking.Row

/-!
The table as shown at one revision.
-/

namespace TrafficWatch.Tracking

open Time Wire

structure View where
  rows : List Row := []
  totals : Counters := {}
  keepClosed : Bool := false
  /-- Grows with every published change. -/
  revision : Nat := 0
  streamRestarts : Nat := 0
  updatedAt : Option Instant := none
deriving DecidableEq, Repr

namespace View

def find? (v : View) (id : String) : Option Row := v.rows.find? (·.id == id)

def openCount (v : View) : Nat := (v.rows.filter (! ·.completed)).length

def closedCount (v : View) : Nat := (v.rows.filter (·.completed)).length

theorem openCount_add_closedCount (v : View) : v.openCount + v.closedCount = v.rows.length := by
  unfold openCount closedCount
  induction v.rows with
  | nil => rfl
  | cons row rows ih => cases h : row.completed <;> simp [h] <;> omega

/-- Summed from the first row on. -/
def totalSpeed (v : View) : Speed :=
  v.rows.foldl (fun s row =>
    { upload := s.upload + row.speed.upload, download := s.download + row.speed.download }) {}

def countKinds : List Row → Std.ExtTreeMap String Nat
  | rows => rows.foldl (fun m row => m.insert row.metadata.kind (m.getD row.metadata.kind 0 + 1)) ∅

/-- How many rows there are of each kind. -/
def kindCounts (v : View) : Std.ExtTreeMap String Nat := countKinds v.rows

def json (v : View) : Json.Value := .object [
  ("rows", .list (v.rows.map (·.json))), ("totals", totalsJson v.totals),
  ("keep_closed", .bool v.keepClosed), ("revision", .nat v.revision),
  ("stream_restarts", .nat v.streamRestarts), ("updated_at", .option .instant v.updatedAt)]

end View

end TrafficWatch.Tracking
