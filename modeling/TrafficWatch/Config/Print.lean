import TrafficWatch.Config.Basic
import TrafficWatch.Toml.Print
import TrafficWatch.Yaml.Print

/-!
Configurations as text: in the formats that they are read from, with the secret hidden for showing,
and with a commented header for a file to start from.
-/

namespace TrafficWatch

inductive ConfigFormat where
  | yaml
  | json
  | toml
deriving DecidableEq, Repr

namespace ConfigFormat

def name : ConfigFormat → String
  | .yaml => "yaml"
  | .json => "json"
  | .toml => "toml"

def all : List ConfigFormat := [.yaml, .json, .toml]

end ConfigFormat

namespace Config

def render (c : Config) : ConfigFormat → String
  | .yaml => Yaml.write c.outline
  | .json => c.json.prettyText
  | .toml => Toml.write c.outline

/-- An empty secret is no secret. -/
def hideSecret (c : Config) : Config :=
  if c.secret.any (! ·.isEmpty) then { c with secret := some "********" } else c

def shown (c : Config) (format : ConfigFormat) : String := c.hideSecret.render format ++ "\n"

def commentLines : List String := [
  " Lightsocks Monitor Configuration",
  " ================================",
  "",
  " Control API",
  " -----------",
  " host: \"127.0.0.1\"            # Proxy control API host",
  " port: 9090                   # Proxy control API port",
  " secret: null                 # API secret (sent as token / Bearer)",
  " tls: false                   # Use wss:// and https://",
  " snapshot_interval_ms: null   # Push interval requested from the server (null = server default)",
  " request_timeout_secs: 10     # Timeout for REST calls",
  "",
  " Preferences",
  " -----------",
  " settings_file: null          # JSON settings file (null = ~/.config/lightsocks-monitor/settings.json)",
  "",
  " Terminal",
  " --------",
  " render_interval_ms: 1000     # Table refresh interval",
  "",
  " Local HTTP Server",
  " -----------------",
  " enable_http: false           # Serve /, /connections, /health, /metrics",
  " bind: \"127.0.0.1\"            # Bind IP",
  " listen_port: 9216            # HTTP port",
  "",
  " Stream Readers",
  " --------------",
  " stream:",
  "   buffer_length: 200         # Recent messages kept per reader (0 = none)",
  "   min_retry_interval_ms: 1000",
  "   max_retry_interval_ms: 30000"]

def comments : String := String.join (commentLines.map fun l => "#" ++ l ++ "\n")

/-- The defaults, for a file to start from. Only YAML gets comments. -/
def template (format : ConfigFormat) (commented : Bool) : String :=
  let text := render {} format
  if commented && format == .yaml then comments ++ "\n" ++ text else text

end Config

end TrafficWatch
