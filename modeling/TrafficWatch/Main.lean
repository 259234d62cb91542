import Std.Time.DateTime.Timestamp
import TrafficWatch.Program

/-!
The program on a real system. It works on a tree of the files that concern it, and what it changes
there is written back. No network can be reached from here: requests find nobody, and streams cannot
be opened.
-/

namespace TrafficWatch.Host

open Files

def now : IO Time.Instant := do
  return .ofNanoseconds (← Std.Time.Timestamp.now).toNanosecondsSinceUnixEpoch.val

def pathOf (l : Location) : String := "/" ++ "/".intercalate l

/-- The location that a path leads to, seen from a directory. -/
def locate (here : Location) (path : String) : Location :=
  (Path.parts path).foldl
    (fun l c => if Path.isNeutral c then l else if c = ".." then l.dropLast else l ++ [c])
    (if path.toList.head? = some '/' then [] else here)

def entry? (l : Location) : IO (Option Files.Entry) := do
  try
    return some (.file (← IO.FS.readBinFile (pathOf l)))
  catch e =>
    match e with
    | .inappropriateType .. => return some .directory
    | _ => return none

/-- Takes an entry and the directories above it into the tree, as far as they are there. -/
def take (l : Location) (d : Disk) : IO Disk := do
  let mut d := d
  for n in List.range (l.length + 1) do
    match ← entry? (l.take n) with
    | some e => if 0 < n then d := d.put (l.take n) e
    | none => return d
  return d

def takeAll (here : Location) (paths : List String) (d : Disk) : IO Disk :=
  paths.foldlM (fun d path => take (locate here path) d) d

/-- The files that concern a command line. -/
def gather (here : Location) (home : Option String) (args : List String) : IO Disk := do
  let d ← take here { Disk.empty with workingDirectory := here }
  match CommandLine.parse args with
  | .error _ => return d
  | .ok a =>
    let d ← takeAll here (Program.paths a) d
    match Config.resolve d a.source a.overrides with
    | .error _ => return d
    | .ok c =>
      let path := c.settingsPath home
      takeAll here [path, SettingsStore.temporaryPath path] d

def put (l : Location) : Files.Entry → IO Unit
  | .directory => IO.FS.createDirAll (pathOf l)
  | .file content => IO.FS.writeBinFile (pathOf l) content

/-- Makes the real files as they are in a tree; `before` is how they have been. -/
def save (before after : Disk) : IO Unit := do
  for (l, e) in after.entries.toList do
    if before.lookup l ≠ some e then put l e
  for (l, _) in before.entries.toList do
    if (after.lookup l).isNone then IO.FS.removeFile (pathOf l)

/-- What the process is known by. -/
def processName : IO String := do
  try
    return ((Path.parts (← IO.FS.realPath "/proc/self").toString).getLast?).getD ""
  catch _ => return ""

/-- More steps than any stream takes between two ticks. -/
def bound : Nat := 100000

def emit (s : String) : IO Unit := do
  IO.print s
  (← IO.getStdout).flush

partial def watch (process : String) (started : Nat) (v : LiveView) : IO UInt32 := do
  let (v, text) := v.tick process
  emit text
  IO.sleep (min v.config.renderInterval 60000).toUInt32
  let elapsed := (← IO.monoMsNow) - started
  match v.stream bound { time := ← now } (.pass (elapsed - v.play.now)) with
  | some v => watch process started v
  | none => return 1

partial def showLogs (started : Nat) (v : LogView) : IO UInt32 := do
  let (v, printed, complaints) := v.flush
  emit printed
  IO.eprint complaints
  IO.sleep 200
  let elapsed := (← IO.monoMsNow) - started
  match v.pass bound (← now).timeOfDay (elapsed - v.now) with
  | some v => showLogs started v
  | none => return 1

def run (args : List String) : IO UInt32 := do
  let started ← IO.monoMsNow
  let here := locate [] (← IO.currentDir).toString
  let home ← IO.getEnv "HOME"
  let seed ← IO.rand 0 999
  let disk ← gather here home args
  let env : Environment := {
    disk
    home
    built := "unknown"
    moment := { time := ← now }
    exchange := fun _ => .unreachable
    jitter := fun n => ((seed + 389 * n) % 1000 : Nat) / 10000 }
  match Program.run env args with
  | .finished f =>
    emit f.output
    IO.eprint f.ending.complaint
    save disk f.disk
    return f.ending.exitCode
  | .watching v => watch (← processName) started v
  | .logging v => showLogs started v

end TrafficWatch.Host

def main (args : List String) : IO UInt32 := TrafficWatch.Host.run args
