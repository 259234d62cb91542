import TrafficWatch.Config.Basic
import TrafficWatch.Files.Disk
import TrafficWatch.Json.Decode
import TrafficWatch.Toml.Decode
import TrafficWatch.Yaml.Decode

/-!
Where a configuration comes from: a file that is named or found at a usual place, changed by what
the command line says.
-/

namespace TrafficWatch

open Files

inductive LoadError where
  | missing (path : String)
  | disk (error : DiskError)
  | json (error : Json.DecodeError)
  | yaml (error : Yaml.DecodeError)
  | toml (error : Toml.DecodeError)
deriving DecidableEq, Repr

def LoadError.message : LoadError → String
  | .missing path => "Config file not found: " ++ path
  | .disk e => e.message
  | .json e => e.message
  | .yaml e => e.message
  | .toml e => e.message

/-- What the command line says about the configuration. -/
structure Overrides where
  host : Option String := none
  port : Option UInt16 := none
  secret : Option String := none
  tls : Bool := false
  snapshotIntervalMs : Option UInt64 := none
  bufferLength : Option UInt64 := none
  settingsFile : Option String := none
  renderIntervalMs : Option UInt64 := none
  enableHttp : Bool := false
  bind : Option Url.IpAddress := none
  listenPort : Option UInt16 := none

inductive ConfigSource where
  | builtIn
  | usualPlaces
  | file (path : String)
deriving DecidableEq, Repr

namespace Config

/-- The end of the file's name tells the format. -/
def ofText (path content : String) : Except LoadError Config :=
  match (Path.ofText path).extension? with
  | some "json" => (Json.decode (Json.Doc.asRecord (schema Json.Doc.leaves)) content).mapError .json
  | some "toml" => (Toml.decode (Toml.Node.asRecord (schema Toml.Node.leaves)) content).mapError .toml
  | _ => (Yaml.decode (Yaml.Node.asRecord (schema Yaml.Node.leaves)) content).mapError .yaml

def usualPlaces : List String :=
  ["/etc/lightsocks-monitor/monitor", "./lightsocks-monitor"].flatMap fun stem =>
    [".yaml", ".yml", ".json"].map (stem ++ ·)

def loadFile (d : Disk) (path : String) : Except LoadError Config := do
  ofText path (← (d.readText path).mapError .disk)

/-- A named file must be there. -/
def load (d : Disk) : ConfigSource → Except LoadError Config
  | .builtIn => .ok {}
  | .usualPlaces =>
    match usualPlaces.find? d.has with
    | some path => loadFile d path
    | none => .ok {}
  | .file path => if d.has path then loadFile d path else .error (.missing path)

/-- What the command line says wins. -/
def override (o : Overrides) (c : Config) : Config :=
  { host := o.host <|> c.host
    port := o.port <|> c.port
    secret := o.secret <|> c.secret
    tls := if o.tls then some true else c.tls
    snapshotIntervalMs := o.snapshotIntervalMs <|> c.snapshotIntervalMs
    requestTimeoutSecs := c.requestTimeoutSecs
    settingsFile := o.settingsFile <|> c.settingsFile
    renderIntervalMs := o.renderIntervalMs <|> c.renderIntervalMs
    enableHttp := if o.enableHttp then some true else c.enableHttp
    bind := o.bind.map (·.text) <|> c.bind
    listenPort := o.listenPort <|> c.listenPort
    stream := { c.stream with bufferLength := o.bufferLength.getD c.stream.bufferLength } }

def resolve (d : Disk) (source : ConfigSource) (o : Overrides) : Except LoadError Config :=
  (load d source).map (override o)

end Config

end TrafficWatch
