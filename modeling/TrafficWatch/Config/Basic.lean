import TrafficWatch.Endpoint
import TrafficWatch.Files.Path
import TrafficWatch.Outline
import TrafficWatch.Stream.Config

/-!
The configuration of the monitor. What a configuration leaves open has a default where it is used.
-/

namespace TrafficWatch

structure Config where
  host : Option String := some "127.0.0.1"
  port : Option UInt16 := some 9090
  secret : Option String := none
  tls : Option Bool := some false
  /-- How often the proxy is asked to send snapshots; it decides itself if nothing is said. -/
  snapshotIntervalMs : Option UInt64 := none
  requestTimeoutSecs : Option UInt64 := some 10
  settingsFile : Option String := none
  renderIntervalMs : Option UInt64 := some 1000
  enableHttp : Option Bool := some false
  /-- The address that the local HTTP server listens on. -/
  bind : Option String := some "127.0.0.1"
  listenPort : Option UInt16 := some 9216
  stream : Stream.Config := {}
deriving DecidableEq, Repr

namespace Config

/-- Says nothing but how streams are read. -/
def blank : Config :=
  { host := none, port := none, tls := none, requestTimeoutSecs := none, renderIntervalMs := none
    enableHttp := none, bind := none, listenPort := none }

variable {V E : Type}

/-- Names with hyphens are the spelling of the command line. -/
def schema (l : Leaves V E) : Schema V E Config where
  name := "Config"
  blank := blank
  fields := [
    .make .optional ["host"] (l.option l.text) fun v c => { c with host := v },
    .make .optional ["port", "api_port", "api-port"] (l.option l.port)
      fun v c => { c with port := v },
    .make .optional ["secret"] (l.option l.text) fun v c => { c with secret := v },
    .make .optional ["tls"] (l.option l.flag) fun v c => { c with tls := v },
    .make .optional ["snapshot_interval_ms", "interval", "snapshot-interval-ms"]
      (l.option (l.word "u64")) fun v c => { c with snapshotIntervalMs := v },
    .make .optional ["request_timeout_secs", "request-timeout-secs"] (l.option (l.word "u64"))
      fun v c => { c with requestTimeoutSecs := v },
    .make .optional ["settings_file", "settings-file"] (l.option l.path)
      fun v c => { c with settingsFile := v },
    .make .optional ["render_interval_ms", "render-interval-ms"] (l.option (l.word "u64"))
      fun v c => { c with renderIntervalMs := v },
    .make .optional ["enable_http", "enable-http"] (l.option l.flag)
      fun v c => { c with enableHttp := v },
    .make .optional ["bind"] (l.option l.text) fun v c => { c with bind := v },
    .make .optional ["listen_port", "listen-port"] (l.option l.port)
      fun v c => { c with listenPort := v },
    .make .defaulted ["stream"] (l.record (Stream.Config.schema l)) fun v c => { c with stream := v }]

def outline (c : Config) : Outline :=
  let word := Entry.option fun (n : UInt64) => .natural n.toNat
  let port := Entry.option fun (n : UInt16) => .natural n.toNat
  { entries := [
      ("host", .option .text c.host), ("port", port c.port), ("secret", .option .text c.secret),
      ("tls", .option .flag c.tls), ("snapshot_interval_ms", word c.snapshotIntervalMs),
      ("request_timeout_secs", word c.requestTimeoutSecs),
      ("settings_file", .option .text c.settingsFile),
      ("render_interval_ms", word c.renderIntervalMs), ("enable_http", .option .flag c.enableHttp),
      ("bind", .option .text c.bind), ("listen_port", port c.listenPort)]
    groups := [("stream", c.stream.entries)] }

def json (c : Config) : Json.Value := c.outline.json

def endpoint (c : Config) : Endpoint :=
  { host := c.host.getD "127.0.0.1"
    port := c.port.getD 9090
    secret := c.secret.getD ""
    tls := c.tls.getD false }

def requestTimeout (c : Config) : UInt64 := c.requestTimeoutSecs.getD 10

def renderInterval (c : Config) : UInt64 := c.renderIntervalMs.getD 1000

def servesHttp (c : Config) : Bool := c.enableHttp.getD false

def bindAddress (c : Config) : String := c.bind.getD "127.0.0.1"

/-- Where preferences are kept: below the home directory unless the configuration says so. -/
def settingsPath (c : Config) (home : Option String) : String :=
  match c.settingsFile, home with
  | some path, _ => path
  | none, some home =>
    ([".config", "lightsocks-monitor", "settings.json"] : List String).foldl Files.Path.below home
  | none, none => "lightsocks-monitor-settings.json"

end Config

end TrafficWatch
