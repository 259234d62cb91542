import TrafficWatch.Endpoint

/-!
Requests to the control API. A client is bound to one endpoint; it can only be made if the secret
can stand in a header and the host in an address.
-/

namespace TrafficWatch.Control

open Url

inductive Method where
  | get
  | delete
deriving DecidableEq, Repr

def Method.name : Method → String
  | .get => "GET"
  | .delete => "DELETE"

structure Request where
  method : Method
  address : Address
  /-- The value of the header that says who asks. -/
  authorization : Option String

inductive ClientError where
  | secret
  | address (error : UrlError)
deriving DecidableEq, Repr

inductive Operation where
  | close (id : String)
  | closeAll
  | connections
  | version
deriving DecidableEq, Repr

namespace Operation

def method : Operation → Method
  | .close _ => .delete
  | .closeAll => .delete
  | .connections => .get
  | .version => .get

/-- The segments of the path. -/
def segments : Operation → List String
  | .close id => ["api", "connections", id]
  | .closeAll => ["api", "connections"]
  | .connections => ["api", "connections"]
  | .version => ["api", "version"]

end Operation

structure Client where
  base : Address
  authorization : Option String

/-- Headers hold no control characters but tabs. -/
def isHeaderChar (c : Char) : Bool := c == '\t' || (0x20 ≤ c.toNat && c.toNat != 0x7f)

namespace Client

/-- An empty secret is not sent. -/
def create (e : Endpoint) : Except ClientError Client := do
  if ! e.secret.toList.all isHeaderChar then .error .secret
  let base ← e.httpBase.mapError .address
  pure { base, authorization := if e.secret.isEmpty then none else some ("Bearer " ++ e.secret) }

def request (c : Client) (o : Operation) : Request where
  method := o.method
  address := c.base.withSegments o.segments
  authorization := c.authorization

end Client

end TrafficWatch.Control
