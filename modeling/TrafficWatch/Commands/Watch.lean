import TrafficWatch.CommandLine.Arguments
import TrafficWatch.Commands.Result
import TrafficWatch.Stream.Play
import TrafficWatch.Web.Service

/-!
The live view of the connections. It is printed at every tick: as a screen, as a line of JSON for
each new revision, or not at all.
-/

namespace TrafficWatch

def WatchOptions.filter (o : WatchOptions) : Render.RowFilter := ⟨o.kind, o.openOnly⟩

structure LiveView where
  config : Config
  options : WatchOptions
  disk : Files.Disk
  play : Stream.Play Wire.Snapshot Reaction Monitor
  /-- The revision that was printed last. -/
  printed : Option Nat := none

namespace LiveView

/-- Starts without a transport; sessions can be given to it later. Preferences that cannot be read
do not matter here. -/
def start (c : Config) (o : WatchOptions) (d : Files.Disk) (home : Option String) (m : Moment)
    (jitter : Nat → Rat) : Except CommandError LiveView := do
  let address ← (c.endpoint.connections c.snapshotIntervalMs).mapError .address
  let settings := SettingsStore.loadOrDefault d (c.settingsPath home)
  let p := Pipeline.create "connections" c.stream (.create settings) m
  if c.servesHttp && c.listenAddress.isNone then .error (.bindAddress c.bindAddress)
  pure {
    config := c
    options := o
    disk := d
    play := .create (p.reader.connect address.text) p.own [] jitter }

def pipeline (v : LiveView) : Pipeline := v.play.state

def setPipeline (v : LiveView) (p : Pipeline) : LiveView := { v with play := { v.play with state := p } }

def view (v : LiveView) : Tracking.View := v.pipeline.store.view

/-- Closed rows are kept from now on, or no more. -/
def toggle (v : LiveView) : LiveView :=
  let ((disk, s), _) := v.pipeline.store.toggle v.disk
  { v.setPipeline (v.pipeline.setStore s) with disk }

/-- The screen is cleared before the table. -/
def screen (v : LiveView) (process : String) : String :=
  "\x1b[2J\x1b[H" ++ Render.view v.view v.options.filter v.pipeline.own.moment.time ++
    "\nCtrl+C to quit | kill -USR1 " ++ process ++ " to toggle keep-closed\n"

/-- What a tick prints; `process` is what the process is known by. -/
def tick (v : LiveView) (process : String) : LiveView × String :=
  if v.options.quiet then (v, "")
  else if v.options.json then
    if v.printed == some v.view.revision then (v, "")
    else ({ v with printed := some v.view.revision }, v.view.json.compactText ++ "\n")
  else (v, v.screen process)

/-- Answers a request to the local HTTP server. -/
def answer (v : LiveView) (r : Web.Request) : LiveView × Web.Answer :=
  let ((disk, p), a) := Web.answer v.config v.play.now v.disk v.pipeline r
  ({ v.setPipeline p with disk }, a)

/-- What happens on the stream of snapshots, at a moment. -/
def stream (bound : Nat) (m : Moment) (op : Stream.Play.Op Reaction) (v : LiveView) :
    Option LiveView := do
  let v := v.setPipeline (v.pipeline.setMoment m)
  let (play, _) ← Stream.Play.step Monitor.behaviour 2 bound op v.play
  some { v with play }

end LiveView

end TrafficWatch
