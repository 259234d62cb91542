import TrafficWatch.Commands.Result
import TrafficWatch.Render
import TrafficWatch.Stream.Play

/-!
The log of the server, printed record by record as it comes.
-/

namespace TrafficWatch

/-- What subscribers do about the events of the stream of log records. -/
inductive LogReaction where
  | print
  | complain
deriving DecidableEq, Repr

structure LogPrinter where
  /-- The time of day that records are printed under. -/
  time : String := ""
  output : String := ""
  complaints : String := ""

namespace LogPrinter

abbrev Program := Stream.Reader.Program LogReaction LogPrinter

def print (r : Wire.LogRecord) (p : LogPrinter) : LogPrinter :=
  { p with output := p.output ++ Render.logLine r p.time ++ "\n" }

def complain (e : Stream.StreamError) (p : LogPrinter) : LogPrinter :=
  { p with complaints := p.complaints ++ "⚠️  " ++ e.message ++ "\n" }

def react : LogReaction → Stream.Event Wire.LogRecord → Program
  | .print, .data r => .note (print r) .done
  | .complain, .error e => .note (complain e) .done
  | _, _ => .done

def behaviour : Stream.Behaviour Wire.LogRecord LogReaction Program where
  decode := Json.decode Wire.LogRecord.read
  respond := react

end LogPrinter

abbrev LogView := Stream.Play Wire.LogRecord LogReaction LogPrinter

namespace LogView

/-- The level asked for, or else the preferred one. -/
def level (c : Config) (asked : Option String) (d : Files.Disk) (home : Option String) : String :=
  asked.getD (SettingsStore.loadOrDefault d (c.settingsPath home)).current.logLevel

def reader (c : Stream.Config) : Stream.Reader Wire.LogRecord LogReaction :=
  let r : Stream.Reader Wire.LogRecord LogReaction := .create "logs" c
  { r with registry := ((r.registry.subscribe .data .print).1.subscribe .error .complain).1 }

def start (c : Config) (asked : Option String) (d : Files.Disk) (home : Option String)
    (jitter : Nat → Rat) : Except CommandError LogView := do
  let address ← (c.endpoint.logs (level c asked d home)).mapError .address
  pure (.create ((reader c.stream).connect address.text) {} [] jitter)

def pass (bound : Nat) (time : String) (milliseconds : Nat) (v : LogView) : Option LogView := do
  let v : LogView := { v with state := { v.state with own := { v.state.own with time } } }
  let (v, _) ← Stream.Play.step LogPrinter.behaviour 2 bound (.pass milliseconds) v
  some v

/-- What is to be printed, and the view without it. -/
def flush (v : LogView) : LogView × (String × String) :=
  let own := v.state.own
  ({ v with state := { v.state with own := { own with output := "", complaints := "" } } },
    (own.output, own.complaints))

end LogView

end TrafficWatch
