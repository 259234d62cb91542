import TrafficWatch.Metrics.Gauges
import TrafficWatch.Stream.Reader
import TrafficWatch.Tracking.Store

/-!
The stream of snapshots wired to the store of connections: each snapshot is fed to the store, and
each reconnect is noted there.
-/

namespace TrafficWatch

/-- When something happens, and how long it takes. -/
structure Moment where
  time : Time.Instant
  /-- How long the work at hand takes, in milliseconds. -/
  work : Float := 0

/-- What subscribers do about the events of the stream. -/
inductive Reaction where
  | feed
  | noteRestart
deriving DecidableEq, Repr

/-- What the monitor keeps beside its reader. -/
structure Monitor where
  store : Tracking.Store
  gauges : Metrics.Gauges := {}
  /-- Requests that the local HTTP server has answered with more than a refusal. -/
  httpRequests : Nat := 0
  moment : Moment

namespace Monitor

def feed (s : Wire.Snapshot) (m : Monitor) : Monitor :=
  { m with store := (m.store.feed s m.moment.time m.moment.work).1 }

def noteRestart (m : Monitor) : Monitor := { m with store := m.store.noteRestart }

abbrev Program := Stream.Reader.Program Reaction Monitor

def react : Reaction → Stream.Event Wire.Snapshot → Program
  | .feed, .data s => .note (feed s) .done
  | .noteRestart, .reconnect => .note noteRestart .done
  | _, _ => .done

def behaviour : Stream.Behaviour Wire.Snapshot Reaction Program where
  decode := Json.decode Wire.Snapshot.read
  respond := react

end Monitor

/-- The reader of snapshots with all that hangs on it. -/
abbrev Pipeline := Stream.Reader.State Wire.Snapshot Reaction Monitor

namespace Pipeline

/-- A reader with the two subscribers. -/
def subscribed (name : String) (c : Stream.Config) : Stream.Reader Wire.Snapshot Reaction :=
  let r : Stream.Reader Wire.Snapshot Reaction := .create name c
  { r with
    registry := ((r.registry.subscribe .data .feed).1.subscribe .reconnect .noteRestart).1 }

def create (name : String) (c : Stream.Config) (store : Tracking.Store) (moment : Moment) :
    Pipeline :=
  ⟨subscribed name c, { store, moment }⟩

def store (p : Pipeline) : Tracking.Store := p.own.store

def setMoment (p : Pipeline) (m : Moment) : Pipeline := { p with own := { p.own with moment := m } }

def setStore (p : Pipeline) (s : Tracking.Store) : Pipeline := { p with own := { p.own with store := s } }

/-- A pipeline has had a snapshot once its view has a time. -/
def hasSnapshot (p : Pipeline) : Bool := p.store.view.updatedAt.isSome

end Pipeline

end TrafficWatch
