import TrafficWatch.Settings
import TrafficWatch.Statistics
import TrafficWatch.Tracking.Table
import TrafficWatch.Tracking.View

/-!
The table with its policy for closed rows. Every change is published as a view of its own; the
choice whether closed rows are kept is remembered in the settings.
-/

namespace TrafficWatch.Tracking

open Files Time Wire

/-- The latest value sent, and how many were sent before it. -/
structure Watch (α : Type) where
  value : α
  version : Nat
deriving DecidableEq, Repr

def Watch.send {α : Type} (w : Watch α) (a : α) : Watch α := ⟨a, w.version + 1⟩

structure Store where
  table : Table
  keepClosed : Bool
  revision : Nat
  streamRestarts : Nat
  /-- Set by a restart of the stream until the next snapshot comes. -/
  restartPending : Bool
  updatedAt : Option Instant
  published : Watch View
  settings : SettingsStore
  /-- How long snapshots took to apply, in milliseconds. -/
  applyTimes : RunningStat

namespace Store

/-- The view of what the store holds now. -/
def current (s : Store) : View where
  rows := s.table.rows
  totals := s.table.totals
  keepClosed := s.keepClosed
  revision := s.revision
  streamRestarts := s.streamRestarts
  updatedAt := s.updatedAt

def create (settings : SettingsStore) : Store where
  table := .empty
  keepClosed := settings.current.keepClosed
  revision := 0
  streamRestarts := 0
  restartPending := false
  updatedAt := none
  published := ⟨{ keepClosed := settings.current.keepClosed }, 0⟩
  settings := settings
  applyTimes := {}

def view (s : Store) : View := s.published.value

def publish (s : Store) : Store :=
  let s := { s with revision := s.revision + 1 }
  { s with published := s.published.send s.current }

/-- Without retention, rows go in the cycle that closes them. -/
def feed (s : Store) (snapshot : Snapshot) (now : Instant) (milliseconds : Float) :
    Store × Outcome :=
  let (table, outcome) := s.table.apply snapshot now
  let table :=
    if ! s.keepClosed && ! outcome.completed.isEmpty then table.evictCompleted.1 else table
  let s := { s with table, restartPending := false, updatedAt := some now }.publish
  ({ s with applyTimes := s.applyTimes.add milliseconds }, outcome)

/-- Turning retention off clears the closed rows; turning it on does not bring them back. If the
choice cannot be written to the settings file, it still holds. -/
def setRetention (d : Disk) (s : Store) (keep : Bool) : Disk × Store :=
  let table := if keep then s.table else s.table.evictCompleted.1
  let s := { s with keepClosed := keep, table }.publish
  let u := s.settings.update d ({ · with keepClosed := keep })
  (u.disk, { s with settings := u.store })

def toggle (d : Disk) (s : Store) : (Disk × Store) × Bool := (setRetention d s (! s.keepClosed), ! s.keepClosed)

/-- Drops the closed rows, and counts them. -/
def clearClosed (s : Store) : Store × Nat :=
  let (table, dropped) := s.table.evictCompleted
  if 0 < dropped then ({ s with table }.publish, dropped) else (s, 0)

def noteRestart (s : Store) : Store :=
  { s with streamRestarts := s.streamRestarts + 1, restartPending := true }.publish

def find? (s : Store) (id : String) : Option Row := s.view.find? id

inductive Op where
  | feed (snapshot : Snapshot) (now : Instant) (milliseconds : Float)
  | toggle
  | setRetention (keep : Bool)
  | clearClosed
  | restart

inductive Result where
  | fed (outcome : Outcome)
  | toggled (keep : Bool)
  | retentionSet
  | cleared (count : Nat)
  | restarted

def step (d : Disk) (s : Store) : Op → (Disk × Store) × Result
  | .feed snapshot now ms =>
    let (s, outcome) := s.feed snapshot now ms
    ((d, s), .fed outcome)
  | .toggle =>
    let (r, keep) := s.toggle d
    (r, .toggled keep)
  | .setRetention keep => (setRetention d s keep, .retentionSet)
  | .clearClosed =>
    let (s, count) := s.clearClosed
    ((d, s), .cleared count)
  | .restart => ((d, s.noteRestart), .restarted)

def run (d : Disk) (s : Store) : List Op → Disk × Store
  | [] => (d, s)
  | op :: ops =>
    let r := (step d s op).1
    run r.1 r.2 ops

end Store

end TrafficWatch.Tracking
