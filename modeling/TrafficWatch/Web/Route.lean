import TrafficWatch.Render
import TrafficWatch.Url.Form

/-!
Requests to the local HTTP server, and what they ask for. A request that asks for nothing is
refused before it counts.
-/

namespace TrafficWatch.Web

open Render

structure Request where
  method : String
  path : String
  query : String := ""
deriving DecidableEq, Repr

/-- A target is a path with a query behind a question mark. A fragment is not looked at. -/
def Request.ofTarget (method target : String) : Request :=
  let cs := target.toList.takeWhile (· != '#')
  { method
    path := String.ofList (cs.takeWhile (· != '?'))
    query := String.ofList ((cs.dropWhile (· != '?')).drop 1) }

/-- What a path leads to. -/
inductive Route where
  | table
  | connections
  | closedConnections
  /-- The segment stands as it came, with its percent signs. -/
  | connection (segment : String)
  | keepClosed
  | health
  | metrics
deriving DecidableEq, Repr

def segments (path : String) : List String := (path.toList.splitOn '/').map String.ofList

/-- Paths are told apart exactly; the closed connections are no connection's path. -/
def Route.ofPath? (path : String) : Option Route :=
  match segments path with
  | ["", ""] => some .table
  | ["", "connections"] => some .connections
  | ["", "connections", s] =>
    if s = "closed" then some .closedConnections
    else if s = "" then none
    else some (.connection s)
  | ["", "keep-closed"] => some .keepClosed
  | ["", "health"] => some .health
  | ["", "metrics"] => some .metrics
  | _ => none

def Route.method : Route → String
  | .closedConnections => "DELETE"
  | .keepClosed => "POST"
  | _ => "GET"

/-- Where a document can be got, its head can be asked for. -/
def Route.allows (r : Route) (method : String) : Bool :=
  method == r.method || (method == "HEAD" && r.method == "GET")

inductive Refusal where
  | noSuchPath
  | wrongMethod
  | badQuery
  | badSegment
deriving DecidableEq, Repr

/-- What a request asks for. -/
inductive Action where
  | table (filter : RowFilter)
  | connections (filter : RowFilter)
  | connection (id : String)
  | clearClosed
  | toggleKeepClosed
  | health
  | metrics
deriving DecidableEq, Repr

/-- The segment without its percent signs; it must be text. -/
def segmentText (segment : String) : Except Refusal String :=
  match String.fromUTF8? ⟨(Url.percentDecode (Text.bytes segment)).toArray⟩ with
  | some id => .ok id
  | none => .error .badSegment

def valuesOf (name : String) (pairs : List (String × String)) : List String :=
  (pairs.filter (·.1 == name)).map (·.2)

/-- Each name may be given once. Others are passed over. -/
def filterOfQuery (query : String) : Except Refusal RowFilter := do
  let pairs := Url.Form.parse query
  let kind ← match valuesOf "type" pairs with
    | [] => pure none
    | [kind] => pure (some kind)
    | _ => .error .badQuery
  let openOnly ← match valuesOf "open_only" pairs with
    | [] => pure false
    | ["true"] => pure true
    | ["false"] => pure false
    | _ => .error .badQuery
  pure { kind, openOnly }

def Route.action (query : String) : Route → Except Refusal Action
  | .table => (filterOfQuery query).map .table
  | .connections => (filterOfQuery query).map .connections
  | .closedConnections => .ok .clearClosed
  | .connection s => (segmentText s).map .connection
  | .keepClosed => .ok .toggleKeepClosed
  | .health => .ok .health
  | .metrics => .ok .metrics

def Request.action (r : Request) : Except Refusal Action :=
  match Route.ofPath? r.path with
  | none => .error .noSuchPath
  | some route => if route.allows r.method then route.action r.query else .error .wrongMethod

end TrafficWatch.Web
