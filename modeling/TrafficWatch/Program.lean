import TrafficWatch.Commands.Local
import TrafficWatch.Commands.Logs
import TrafficWatch.Commands.Remote
import TrafficWatch.Commands.Watch
import TrafficWatch.Config.Check

/-!
The whole program, from the command line to its end, or to a view that goes on.
-/

namespace TrafficWatch

/-- What the program finds around it. -/
structure Environment where
  disk : Files.Disk
  home : Option String
  /-- When the monitor was built. -/
  built : String
  moment : Moment
  exchange : Control.Exchange
  /-- The jitter of each wait for the next attempt to connect. -/
  jitter : Nat → Rat := fun _ => 0

inductive Ending where
  | success
  | usage (error : CommandLine.UsageError)
  | unloadable (error : LoadError)
  | unusable (fault : ConfigFault)
  | failure (error : CommandError)
deriving DecidableEq, Repr

namespace Ending

def exitCode : Ending → UInt32
  | .success => 0
  | .usage e => if e.isAnswer then 0 else 2
  | _ => 1

def invalid (reason : String) : String := "❌ Configuration invalid: " ++ reason ++ "\n"

/-- What is said of the ending on the error output. -/
def complaint : Ending → String
  | .success => ""
  | .usage e => if e.isAnswer then "" else "error: " ++ e.message ++ "\n"
  | .unloadable e => invalid e.message
  | .unusable f => invalid f.message
  | .failure e => "Error: " ++ e.message ++ "\n"

end Ending

structure Finished where
  disk : Files.Disk
  output : String := ""
  ending : Ending := .success

inductive Outcome where
  | finished (f : Finished)
  | watching (v : LiveView)
  | logging (v : LogView)

namespace Program

def usageText : String :=
  "Usage: " ++ About.name ++ " [OPTIONS] [COMMAND]\n\nCommands:\n" ++
    String.join (CommandLine.subcommands.map fun c => "  " ++ c ++ "\n")

/-- What is printed in place of running. -/
def reply : CommandLine.UsageError → String
  | .displayHelp => usageText
  | .displayVersion none => About.title ++ "\n"
  | .displayVersion (some c) => About.name ++ "-" ++ c ++ " " ++ About.version ++ "\n"
  | _ => ""

/-- A configuration that is of use. -/
def configure (d : Files.Disk) (a : Arguments) : Except Ending Config := do
  let c ← (Config.resolve d a.source a.overrides).mapError .unloadable
  c.check.mapError .unusable
  pure c

def finish (d : Files.Disk) (r : CommandResult) : Outcome :=
  .finished {
    disk := d
    output := r.output
    ending := match r.result with
      | .ok () => .success
      | .error e => .failure e }

/-- Files that the program may read or write before it knows its configuration. -/
def paths (a : Arguments) : List String :=
  Config.usualPlaces ++ a.configFile.toList ++
    match a.command with
    | some (.config r) => [r.path]
    | _ => []

variable (env : Environment)

def stop (e : Ending) : Outcome := .finished { disk := env.disk, ending := e }

def goOn {α : Type} (r : Except CommandError α) (view : α → Outcome) : Outcome :=
  match r with
  | .ok v => view v
  | .error e => stop env (.failure e)

/-- Without a command, the connections are watched. -/
def perform (c : Config) : Command → Outcome
  | .watch o => goOn env (LiveView.start c o env.disk env.home env.moment env.jitter) .watching
  | .logs level => goOn env (LogView.start c level env.disk env.home env.jitter) .logging
  | .close id => finish env.disk (Remote.close c env.exchange id)
  | .closeAll => finish env.disk (Remote.closeAll c env.exchange)
  | .snapshot json => finish env.disk (Remote.snapshot c env.exchange json env.moment.time)
  | .version => finish env.disk (Remote.version c env.exchange env.built)
  | .settings change =>
    let (d, r) := change.run env.disk (c.settingsPath env.home)
    finish d r
  | .config request =>
    let (d, r) := request.run env.disk
    finish d r

/-- To check the configuration goes before showing it. -/
def inspect (a : Arguments) (c : Config) : String :=
  if a.checkConfig then "✅ Configuration is valid\n" else c.shown a.configFormat

/-- A configuration file can be made even if the one at hand is of no use. -/
def runArguments (a : Arguments) : Outcome :=
  let configured (f : Config → Outcome) : Outcome :=
    match configure env.disk a with
    | .ok c => f c
    | .error e => stop env e
  if a.showConfig || a.checkConfig then
    configured fun c => .finished { disk := env.disk, output := inspect a c }
  else match a.command with
    | some (.config request) =>
      let (d, r) := request.run env.disk
      finish d r
    | command => configured fun c => perform env c (command.getD (.watch {}))

/-- The program with the arguments after its name. -/
def run (args : List String) : Outcome :=
  match CommandLine.parse args with
  | .error e => .finished { disk := env.disk, output := reply e, ending := .usage e }
  | .ok a => runArguments env a

end Program

end TrafficWatch
