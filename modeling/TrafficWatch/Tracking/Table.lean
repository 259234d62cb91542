import Std.Data.ExtTreeMap
import Std.Data.TreeSet
import TrafficWatch.Tracking.Row

/-!
The table of connections. Snapshots give counters that only count up; the table turns a sequence
of them into one row per connection, in the order in which the connections were first seen. Rows
leave only by eviction.
-/

namespace TrafficWatch.Tracking

open Time Wire

inductive RecordError where
  | missingId (index : Nat)
deriving DecidableEq, Repr

def RecordError.index : RecordError → Nat
  | .missingId i => i

def RecordError.message : RecordError → String
  | .missingId i => "connection record at index " ++ toString i ++ " has no ID"

/-- What one snapshot changed. A completed connection that is reported again stays closed. -/
structure Outcome where
  created : List String := []
  completed : List String := []
  reappeared : List String := []
  skipped : List RecordError := []
deriving DecidableEq, Repr

structure Table where
  byId : Std.ExtTreeMap String Row
  order : List String
  totals : Counters
  cycles : Nat

namespace Table

def empty : Table := ⟨∅, [], {}, 0⟩

def get? (t : Table) (id : String) : Option Row := t.byId[id]?

def rows (t : Table) : List Row := t.order.filterMap t.get?

def length (t : Table) : Nat := t.order.length

def isEmpty (t : Table) : Bool := t.order.isEmpty

def put (t : Table) (row : Row) : Table := { t with byId := t.byId.insert row.id row }

/-- The table while the records of one snapshot are gone through. -/
structure Pass where
  table : Table
  seen : Std.TreeSet String
  outcome : Outcome

/-- Only the first record with an ID counts. -/
def Pass.record (now : Instant) (p : Pass) (r : ConnectionRecord × Nat) : Pass :=
  match r.1.validId with
  | none => { p with
      outcome := { p.outcome with skipped := p.outcome.skipped ++ [.missingId r.2] } }
  | some id =>
    if p.seen.contains id then p
    else
      let p := { p with seen := p.seen.insert id }
      match p.table.get? id with
      | some row =>
        if row.completed then
          { p with outcome := { p.outcome with reappeared := p.outcome.reappeared ++ [id] } }
        else { p with table := p.table.put (row.observe r.1 now) }
      | none =>
        let table := p.table.put (.opened id r.1 now)
        { p with
          table := { table with order := table.order ++ [id] }
          outcome := { p.outcome with created := p.outcome.created ++ [id] } }

/-- A row that the snapshot does not list is closed. -/
def Pass.absent (now : Instant) (p : Pass) (id : String) : Pass :=
  if p.seen.contains id then p
  else match p.table.get? id with
    | some row =>
      if row.completed then p
      else { p with
        table := p.table.put (row.close now)
        outcome := { p.outcome with completed := p.outcome.completed ++ [id] } }
    | none => p

def Pass.begin (t : Table) (s : Snapshot) : Pass where
  table := { t with totals := s.totals, cycles := t.cycles + 1 }
  seen := ∅
  outcome := {}

def apply (t : Table) (s : Snapshot) (now : Instant) : Table × Outcome :=
  let listed := s.connections.zipIdx.foldl (Pass.record now) (Pass.begin t s)
  let p := listed.table.order.foldl (Pass.absent now) listed
  (p.table, p.outcome)

def evict (t : Table) (id : String) : Table × Option Row :=
  match t.get? id with
  | none => (t, none)
  | some row => ({ t with byId := t.byId.erase id, order := t.order.filter (· != id) }, some row)

/-- Drops every completed row, and counts them. -/
def evictCompleted (t : Table) : Table × Nat :=
  let byId := t.byId.filter fun _ row => ! row.completed
  let order := t.order.filter byId.contains
  ({ t with byId, order }, t.order.length - order.length)

inductive Op where
  | apply (snapshot : Snapshot) (now : Instant)
  | evict (id : String)
  | evictCompleted

inductive Result where
  | applied (outcome : Outcome)
  | evicted (row : Option Row)
  | dropped (count : Nat)

def step (t : Table) : Op → Table × Result
  | .apply s now =>
    let (t, outcome) := t.apply s now
    (t, .applied outcome)
  | .evict id =>
    let (t, row) := t.evict id
    (t, .evicted row)
  | .evictCompleted =>
    let (t, count) := t.evictCompleted
    (t, .dropped count)

/-- The table after each operation has been done in turn, with the results. -/
def run (t : Table) : List Op → Table × List Result
  | [] => (t, [])
  | op :: ops =>
    let (t, r) := t.step op
    let (t, rs) := run t ops
    (t, r :: rs)

theorem evict_absent (t : Table) (id : String) (h : t.get? id = none) : t.evict id = (t, none) := by
  simp [evict, h]

end Table

end TrafficWatch.Tracking
