import TrafficWatch.CommandLine.Value
import TrafficWatch.Config.Load
import TrafficWatch.Config.Print
import TrafficWatch.Settings

/-!
The command line of the monitor.
-/

namespace TrafficWatch

inductive LogLevel where
  | off
  | error
  | warn
  | info
  | debug
  | trace
deriving DecidableEq, Repr

namespace LogLevel

def name : LogLevel → String
  | .off => "off"
  | .error => "error"
  | .warn => "warn"
  | .info => "info"
  | .debug => "debug"
  | .trace => "trace"

def all : List LogLevel := [.off, .error, .warn, .info, .debug, .trace]

end LogLevel

/-- How the connections are watched. -/
structure WatchOptions where
  /-- Only connections of this type. -/
  kind : Option String := none
  openOnly : Bool := false
  json : Bool := false
  quiet : Bool := false
deriving DecidableEq, Repr

/-- A configuration file to be made. -/
structure ConfigRequest where
  output : Option String := none
  format : ConfigFormat := .yaml
  commented : Bool := false
deriving DecidableEq, Repr

inductive Command where
  | watch (options : WatchOptions)
  | logs (level : Option String)
  | close (id : String)
  | closeAll
  | snapshot (json : Bool)
  | version
  | settings (change : SettingsChange)
  | config (request : ConfigRequest)
deriving DecidableEq, Repr

structure Arguments where
  overrides : Overrides := {}
  configFile : Option String := none
  noConfig : Bool := false
  logLevel : LogLevel := .info
  configFormat : ConfigFormat := .yaml
  showConfig : Bool := false
  checkConfig : Bool := false
  command : Option Command := none

namespace Arguments

/-- No file is read if that is ruled out, even if one is named. -/
def source (a : Arguments) : ConfigSource :=
  if a.noConfig then .builtIn
  else match a.configFile with
    | some path => .file path
    | none => .usualPlaces

end Arguments

namespace CommandLine

def change (f : Overrides → Overrides) (a : Arguments) : Arguments :=
  { a with overrides := f a.overrides }

def formats : Reader ConfigFormat := choice (ConfigFormat.all.map fun f => (f.name, f))

def levels : Reader LogLevel := choice (LogLevel.all.map fun l => (l.name, l))

def subcommands : List String :=
  ["watch", "logs", "close", "close-all", "snapshot", "version", "settings", "config"]

def program : Grammar Arguments where
  subcommands := subcommands
  parameters := [
    .value (some 'H') "host" text fun v => change ({ · with host := some v }),
    .value (some 'p') "port" port fun v => change ({ · with port := some v }),
    .value (some 's') "secret" text fun v => change ({ · with secret := some v }),
    .flag none "tls" (change ({ · with tls := true })),
    .value none "interval" word fun v => change ({ · with snapshotIntervalMs := some v }),
    .value none "buffer-length" word fun v => change ({ · with bufferLength := some v }),
    .value none "settings-file" path fun v => change ({ · with settingsFile := some v }),
    .value none "render-interval" word fun v => change ({ · with renderIntervalMs := some v }),
    .flag none "enable-http" (change ({ · with enableHttp := true })),
    .value none "bind" ipAddress fun v => change ({ · with bind := some v }),
    .value none "listen-port" port fun v => change ({ · with listenPort := some v }),
    .value none "log-level" levels fun v a => { a with logLevel := v },
    .value (some 'c') "config" path fun v a => { a with configFile := some v },
    .flag none "no-config" fun a => { a with noConfig := true },
    .flag none "show-config" fun a => { a with showConfig := true },
    .value none "config-format" formats fun v a => { a with configFormat := v },
    .flag none "check-config" fun a => { a with checkConfig := true }]

def watch : Grammar WatchOptions where
  subcommand := "watch"
  parameters := [
    .value (some 't') "type" text fun v o => { o with kind := some v },
    .flag none "open-only" fun o => { o with openOnly := true },
    .flag none "json" fun o => { o with json := true },
    .flag none "quiet" fun o => { o with quiet := true }]

def logs : Grammar (Option String) where
  subcommand := "logs"
  parameters := [.value (some 'l') "level" text fun v _ => some v]

def close : Grammar (Option String) where
  subcommand := "close"
  parameters := []
  positional := some fun id _ => some id
  check id := if id.isNone then some .missingRequiredArgument else none

def snapshot : Grammar Bool where
  subcommand := "snapshot"
  parameters := [.flag none "json" fun _ => true]

/-- A subcommand without arguments. -/
def plain (name : String) : Grammar Unit where
  subcommand := name
  parameters := []

/-- To set a preference and to flip it at once makes no sense. -/
def settings : Grammar SettingsChange where
  subcommand := "settings"
  parameters := [
    .value none "keep-closed" (choice [("on", true), ("off", false)])
      fun v c => { c with keepClosed := some v },
    .flag none "toggle-keep-closed" fun c => { c with toggleKeepClosed := true },
    .value none "language" text fun v c => { c with language := some v },
    .value none "log-level" text fun v c => { c with logLevel := some v }]
  check c := if c.keepClosed.isSome && c.toggleKeepClosed then some .argumentConflict else none

def config : Grammar ConfigRequest where
  subcommand := "config"
  parameters := [
    .value (some 'o') "output" path fun v r => { r with output := some v },
    .value none "format" formats fun v r => { r with format := v },
    .flag none "commented" fun r => { r with commented := true }]

/-- What the help subcommand answers to the names after it. -/
def help : List String → UsageError
  | [] => .displayHelp
  | [name] => if program.hasSubcommand name then .displayHelp else .invalidSubcommand
  | _ => .invalidSubcommand

def parseCommand (name : String) (args : List String) : Except UsageError Command :=
  match name with
  | "watch" => (watch.parse {} args).map .watch
  | "logs" => (logs.parse none args).map .logs
  | "close" => (close.parse none args).map fun id => .close (id.getD "")
  | "close-all" => ((plain name).parse () args).map fun _ => .closeAll
  | "snapshot" => (snapshot.parse false args).map .snapshot
  | "version" => ((plain name).parse () args).map fun _ => .version
  | "settings" => (settings.parse {} args).map .settings
  | "config" => (config.parse {} args).map .config
  | _ => .error (help args)

/-- The arguments after the program's name. Faults of a subcommand come before one in the last
option in front of it. -/
def parse (args : List String) : Except UsageError Arguments := do
  let (s, rest) ← Progress.read program args { record := {} }
  let command ← rest.mapM fun (name, args) => parseCommand name args
  let a ← s.finish program
  pure { a with command }

end CommandLine

end TrafficWatch
