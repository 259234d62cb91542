import TrafficWatch.Config.Basic
import TrafficWatch.Text.Blank
import TrafficWatch.Url.Ip

/-!
Which configurations can be used, and what is wrong with the others. Faults are looked for in a
fixed order, and the first one counts.
-/

namespace TrafficWatch

inductive ConfigFault where
  | emptyHost
  | zeroPort (field : String)
  | controlInSecret
  | zeroTime (field : String)
  | bufferLength (length : UInt64)
  | retryBounds (min max : UInt64)
  | bindAddress (address : String)
  | address (error : Url.UrlError)
deriving DecidableEq, Repr

namespace Config

/-- The most messages that a stream may keep. -/
def maxBufferLength : UInt64 := 100000

end Config

namespace ConfigFault

def message : ConfigFault → String
  | .emptyHost => "host must not be empty"
  | .zeroPort field => field ++ " must be between 1 and 65535"
  | .controlInSecret => "secret must not contain control characters"
  | .zeroTime field => field ++ " must be greater than 0"
  | .bufferLength n =>
    "stream.buffer_length " ++ toString n.toNat ++ " exceeds the maximum of " ++
      toString Config.maxBufferLength.toNat
  | .retryBounds min max =>
    "stream.min_retry_interval_ms (" ++ toString min.toNat ++
      ") is greater than stream.max_retry_interval_ms (" ++ toString max.toNat ++ ")"
  | .bindAddress a => "Invalid bind address '" ++ a ++ "'"
  | .address e => e.message

end ConfigFault

namespace Config

def refuse (condition : Bool) (fault : ConfigFault) : Except ConfigFault Unit :=
  if condition then .error fault else .ok ()

def checkStream (c : Stream.Config) : Except ConfigFault Unit := do
  refuse (maxBufferLength < c.bufferLength) (.bufferLength c.bufferLength)
  refuse (c.maxRetryMs < c.minRetryMs) (.retryBounds c.minRetryMs c.maxRetryMs)

/-- Where the local HTTP server listens. -/
def listenAddress (c : Config) : Option (Url.IpAddress × UInt16) :=
  (Url.IpAddress.parse? c.bindAddress).map (·, c.listenPort.getD 9216)

/-- What only matters if the local HTTP server runs. -/
def checkServer (c : Config) : Except ConfigFault Unit := do
  refuse (c.listenPort == some 0) (.zeroPort "listen_port")
  refuse (Url.IpAddress.parse? c.bindAddress).isNone (.bindAddress c.bindAddress)

def check (c : Config) : Except ConfigFault Unit := do
  refuse (c.host.any fun h => (Text.trim h).isEmpty) .emptyHost
  refuse (c.port == some 0) (.zeroPort "port")
  refuse (c.secret.any fun s => s.toList.any Text.isControl) .controlInSecret
  refuse (c.snapshotIntervalMs == some 0) (.zeroTime "snapshot_interval_ms")
  refuse (c.requestTimeoutSecs == some 0) (.zeroTime "request_timeout_secs")
  refuse (c.renderIntervalMs == some 0) (.zeroTime "render_interval_ms")
  checkStream c.stream
  if c.servesHttp then checkServer c
  match c.endpoint.httpBase with
  | .ok _ => pure ()
  | .error e => .error (.address e)

end Config

end TrafficWatch
