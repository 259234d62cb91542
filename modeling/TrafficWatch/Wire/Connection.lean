import TrafficWatch.Time.Instant

/-!
What a proxy reports about its connections: cumulative byte counters and descriptive texts.
-/

namespace TrafficWatch.Wire

structure Metadata where
  network : String := ""
  kind : String := ""
  client : String := ""
  source : String := ""
  target : String := ""
deriving DecidableEq, Repr

def overlay (old new : String) : String := if new.isEmpty then old else new

/-- Later texts win unless they are empty. -/
def Metadata.merge (old new : Metadata) : Metadata where
  network := overlay old.network new.network
  kind := overlay old.kind new.kind
  client := overlay old.client new.client
  source := overlay old.source new.source
  target := overlay old.target new.target

def Metadata.changedBy (old new : Metadata) : Bool := old.merge new != old

theorem Metadata.merge_self (m : Metadata) : m.merge m = m := by
  cases m; simp [merge, overlay]

theorem Metadata.merge_blank (m : Metadata) : m.merge {} = m := by
  cases m; simp [merge, overlay]

/-- Bytes since the start of what is counted. -/
structure Counters where
  upload : UInt64 := 0
  download : UInt64 := 0
deriving DecidableEq, Repr

structure ConnectionRecord where
  id : Option String := none
  metadata : Metadata := {}
  counters : Counters := {}
  start : Option Time.Instant := none
deriving DecidableEq, Repr

/-- A record with an empty ID names no connection. -/
def ConnectionRecord.validId (r : ConnectionRecord) : Option String := r.id.filter (! ·.isEmpty)

/-- All connections known to the proxy at one time. -/
structure Snapshot where
  totals : Counters := {}
  connections : List ConnectionRecord := []
deriving DecidableEq, Repr

end TrafficWatch.Wire
