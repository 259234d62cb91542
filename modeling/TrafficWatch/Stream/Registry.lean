import TrafficWatch.Json.Decode
import TrafficWatch.Stream.Script

/-!
Subscribers of a stream's events. An event goes to the handlers that are registered when its
dispatch begins; what they do to the registry shows from the next dispatch on.
-/

namespace TrafficWatch.Stream

inductive EventKind where
  | data
  | error
  | close
  | reconnect
deriving DecidableEq, Repr

def EventKind.name : EventKind → String
  | .data => "data"
  | .error => "error"
  | .close => "close"
  | .reconnect => "reconnect"

inductive StreamError where
  | transport (message : String)
  | parse (error : Json.DecodeError)
deriving DecidableEq, Repr

def StreamError.message : StreamError → String
  | .transport m => "transport error: " ++ m
  | .parse e => "failed to parse frame: " ++ e.message

inductive Event (M : Type) where
  | data (message : M)
  | error (error : StreamError)
  | close
  | reconnect
deriving DecidableEq, Repr

def Event.kind {M : Type} : Event M → EventKind
  | .data _ => .data
  | .error _ => .error
  | .close => .close
  | .reconnect => .reconnect

structure SubscriptionId where
  kind : EventKind
  number : Nat
deriving DecidableEq, Repr

/-- Handlers in the order of their registration. Numbers are not used twice. -/
structure Registry (H : Type) where
  entries : List (SubscriptionId × H)
  nextNumber : Nat

namespace Registry

variable {H M W : Type}

def empty : Registry H := ⟨[], 1⟩

def subscribe (r : Registry H) (kind : EventKind) (handler : H) : Registry H × SubscriptionId :=
  let id : SubscriptionId := ⟨kind, r.nextNumber⟩
  (⟨r.entries ++ [(id, handler)], r.nextNumber + 1⟩, id)

/-- Says whether there was such a subscription. -/
def unsubscribe (r : Registry H) (id : SubscriptionId) : Registry H × Bool :=
  ({ r with entries := r.entries.filter (·.1 != id) }, r.entries.any (·.1 == id))

def clear (r : Registry H) : Registry H := { r with entries := [] }

def handlers (r : Registry H) (kind : EventKind) : List H :=
  (r.entries.filter (·.1.kind == kind)).map (·.2)

def count (r : Registry H) (kind : EventKind) : Nat := (r.handlers kind).length

def isEmpty (r : Registry H) : Bool := r.entries.isEmpty

/-- What a program asks of a registry. -/
inductive Call (H M : Type) where
  | subscribe (kind : EventKind) (handler : H)
  | unsubscribe (id : SubscriptionId)
  | clear
  | dispatch (event : Event M)

inductive Reply where
  | subscribed (id : SubscriptionId)
  | unsubscribed (found : Bool)
  | cleared
  | dispatched (count : Nat)

abbrev Program (H M W : Type) := Script (Call H M) Reply W

abbrev State (H W : Type) := Registry H × W

def perform (dispatch : Event M → State H W → Option (State H W × Nat)) (c : Call H M)
    (s : State H W) : Option (State H W × Reply) :=
  match c with
  | .subscribe kind h =>
    let (r, id) := s.1.subscribe kind h
    some ((r, s.2), .subscribed id)
  | .unsubscribe id =>
    let (r, found) := s.1.unsubscribe id
    some ((r, s.2), .unsubscribed found)
  | .clear => some ((s.1.clear, s.2), .cleared)
  | .dispatch e => (dispatch e s).map fun (s, n) => (s, .dispatched n)

def exec (dispatch : Event M → State H W → Option (State H W × Nat)) :
    Program H M W → State H W → Option (State H W) :=
  Script.exec (·.2) (fun f s => (s.1, f s.2)) (perform dispatch)

/-- Calls every handler of the event's kind, and counts them. Handlers that dispatch in turn may do
so to a bounded depth; a dispatch that goes deeper has no result. -/
def dispatch (respond : H → Event M → Program H M W) :
    Nat → Event M → State H W → Option (State H W × Nat)
  | 0, _, _ => none
  | depth + 1, e, s => do
    let hs := s.1.handlers e.kind
    let s ← hs.foldlM (fun s h => exec (dispatch respond depth) (respond h e) s) s
    some (s, hs.length)

theorem count_clear (r : Registry H) (kind : EventKind) : r.clear.count kind = 0 := rfl

theorem handlers_subscribe (r : Registry H) (kind : EventKind) (h : H) :
    (r.subscribe kind h).1.handlers kind = r.handlers kind ++ [h] := by
  simp [subscribe, handlers]

theorem handlers_subscribe_of_ne (r : Registry H) {kind other : EventKind} (h : H)
    (ne : kind ≠ other) : (r.subscribe kind h).1.handlers other = r.handlers other := by
  simp [subscribe, handlers, ne]

end Registry

end TrafficWatch.Stream
