import TrafficWatch.Decimal.Fixed
import TrafficWatch.Json.Value
import TrafficWatch.Text.Layout
import TrafficWatch.Time.Instant

/-!
Running statistics of samples, and the event counters of a stream. What only ever counts up by one is
a natural number, here as in the revision of a view, the cycles of a table, the generation of a reader
and the number of a subscription; that 64 bits start over after `2 ^ 64` steps is left out.
-/

namespace TrafficWatch

structure RunningStat where
  count : Nat := 0
  sum : Float := 0
  min : Float := 0
  max : Float := 0
  last : Float := 0
deriving DecidableEq, Repr

namespace RunningStat

def add (s : RunningStat) (x : Float) : RunningStat :=
  if s.count = 0 then ⟨1, x, x, x, x⟩
  else
    { count := s.count + 1
      sum := s.sum + x
      last := x
      min := if x < s.min then x else s.min
      max := if x > s.max then x else s.max }

def average (s : RunningStat) : Float := if s.count = 0 then 0 else s.sum / Float.ofNat s.count

theorem add_count (s : RunningStat) (x : Float) : (s.add x).count = s.count + 1 := by
  unfold add; split <;> simp_all

end RunningStat

/-- Times are in milliseconds of some clock. -/
structure StreamStats where
  framesReceived : Nat := 0
  messagesDelivered : Nat := 0
  parseErrors : Nat := 0
  transportErrors : Nat := 0
  connects : Nat := 0
  reconnects : Nat := 0
  frameBytes : RunningStat := {}
  lastMessageAt : Option Nat := none
deriving DecidableEq, Repr

namespace StreamStats

def frame (s : StreamStats) (bytes : Nat) : StreamStats :=
  { s with framesReceived := s.framesReceived + 1, frameBytes := s.frameBytes.add (Float.ofNat bytes) }

def delivered (s : StreamStats) (now : Nat) : StreamStats :=
  { s with messagesDelivered := s.messagesDelivered + 1, lastMessageAt := some now }

def parseError (s : StreamStats) : StreamStats := { s with parseErrors := s.parseErrors + 1 }

def transportError (s : StreamStats) : StreamStats :=
  { s with transportErrors := s.transportErrors + 1 }

def connected (s : StreamStats) (again : Bool) : StreamStats :=
  { s with
    connects := s.connects + 1
    reconnects := if again then s.reconnects + 1 else s.reconnects }

end StreamStats

/-- The counters at one time, with the fill of the message buffer. -/
structure StreamReport where
  framesReceived : Nat := 0
  messagesDelivered : Nat := 0
  parseErrors : Nat := 0
  transportErrors : Nat := 0
  connects : Nat := 0
  reconnects : Nat := 0
  averageFrameBytes : Float := 0
  maxFrameBytes : Float := 0
  bufferLength : Nat := 0
  bufferCapacity : Nat := 0
  secondsSinceLastMessage : Option Float := none
deriving DecidableEq, Repr

def StreamStats.report (s : StreamStats) (bufferLength bufferCapacity now : Nat) : StreamReport where
  framesReceived := s.framesReceived
  messagesDelivered := s.messagesDelivered
  parseErrors := s.parseErrors
  transportErrors := s.transportErrors
  connects := s.connects
  reconnects := s.reconnects
  averageFrameBytes := s.frameBytes.average
  maxFrameBytes := s.frameBytes.max
  bufferLength := bufferLength
  bufferCapacity := bufferCapacity
  secondsSinceLastMessage := s.lastMessageAt.map fun t => Float.ofNat (now - t) / 1000

namespace StreamReport

def bufferFillPercent (r : StreamReport) : Float :=
  if r.bufferCapacity = 0 then 0
  else Float.ofNat r.bufferLength / Float.ofNat r.bufferCapacity * 100

def line (name value : String) : String :=
  Text.padRight 26 name ++ " | " ++ Text.padLeft 14 value ++ "\n"

def table (r : StreamReport) : String :=
  "STREAM READER\n" ++
  "-------------\n" ++
  line "frames_received" (toString r.framesReceived) ++
  line "messages_delivered" (toString r.messagesDelivered) ++
  line "parse_errors" (toString r.parseErrors) ++
  line "transport_errors" (toString r.transportErrors) ++
  line "connects" (toString r.connects) ++
  line "reconnects" (toString r.reconnects) ++
  line "avg_frame_size (B)" (Decimal.fixed 0 r.averageFrameBytes) ++
  line "buffer_fill (%)" (Decimal.fixed 1 r.bufferFillPercent ++ " (" ++ toString r.bufferLength ++
    "/" ++ toString r.bufferCapacity ++ ")") ++
  line "last_message (s ago)"
    (match r.secondsSinceLastMessage with | some x => Decimal.fixed 1 x | none => "N/A")

def json (r : StreamReport) : Json.Value := .object [
  ("frames_received", .nat r.framesReceived), ("messages_delivered", .nat r.messagesDelivered),
  ("parse_errors", .nat r.parseErrors), ("transport_errors", .nat r.transportErrors),
  ("connects", .nat r.connects), ("reconnects", .nat r.reconnects),
  ("avg_frame_bytes", .real r.averageFrameBytes), ("max_frame_bytes", .real r.maxFrameBytes),
  ("buffer_len", .nat r.bufferLength), ("buffer_capacity", .nat r.bufferCapacity),
  ("seconds_since_last_message", .option .real r.secondsSinceLastMessage)]

end StreamReport

end TrafficWatch
