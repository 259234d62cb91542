import TrafficWatch.Json.Decode
import TrafficWatch.Json.Value
import TrafficWatch.Url.Parse

/-!
Where a proxy's control API listens, and the addresses that it is reached under.
-/

namespace TrafficWatch

open Json Url

structure Endpoint where
  host : String
  port : UInt16
  secret : String := ""
  tls : Bool := false
deriving DecidableEq, Repr

namespace Endpoint

def schema : Schema Doc DecodeError Endpoint where
  name := "Endpoint"
  blank := { host := "", port := 0 }
  fields := [
    .make .required ["host"] Doc.asText fun s e => { e with host := s },
    .make .required ["port"] Doc.leaves.port fun n e => { e with port := n },
    .make .defaulted ["secret"] Doc.asText fun s e => { e with secret := s },
    .make .defaulted ["tls"] Doc.asFlag fun b e => { e with tls := b }]

def read : Doc → Except DecodeError Endpoint := Doc.asRecord schema

def json (e : Endpoint) : Value := .object [
  ("host", .text e.host), ("port", .nat e.port.toNat), ("secret", .text e.secret),
  ("tls", .bool e.tls)]

/-- A host with colons is put in brackets unless it is so already. -/
def authority (e : Endpoint) : String :=
  let host := if e.host.toList.contains ':' && e.host.toList.head? != some '[' then
    "[" ++ e.host ++ "]" else e.host
  host ++ ":" ++ toString e.port.toNat

def address (e : Endpoint) (scheme : Scheme) (path : String) : Except UrlError Address :=
  parse scheme ("//" ++ e.authority ++ path)

def httpScheme (e : Endpoint) : Scheme := if e.tls then .https else .http

def streamScheme (e : Endpoint) : Scheme := if e.tls then .wss else .ws

/-- What all requests start from. -/
def httpBase (e : Endpoint) : Except UrlError Address := e.address e.httpScheme "/"

/-- The stream of snapshots. -/
def connections (e : Endpoint) (interval : Option UInt64) : Except UrlError Address := do
  let a ← e.address e.streamScheme "/api/connections"
  pure (a.withPairs (("token", e.secret) ::
    match interval with
    | some n => [("interval", toString n.toNat)]
    | none => []))

/-- The stream of log records. -/
def logs (e : Endpoint) (level : String) : Except UrlError Address := do
  let a ← e.address e.streamScheme "/api/logs"
  pure (a.withPairs [("level", level), ("token", e.secret)])

end Endpoint

end TrafficWatch
