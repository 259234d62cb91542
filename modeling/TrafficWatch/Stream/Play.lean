import TrafficWatch.Stream.Reader

/-!
A reader played against a scripted transport on a clock of its own. Each open of the transport
takes the next session of the script; when there is none left, the open is refused. Between two
calls the tasks run until all of them wait.
-/

namespace TrafficWatch.Stream

/-- A channel may be held open for items that come later. -/
structure Channel where
  items : List Item
  held : Bool

inductive Session.Plan where
  | fail (message : String)
  | channel (c : Channel)

structure Play (M H W : Type) where
  state : Reader.State M H W
  sessions : List Session.Plan
  /-- The generations whose tasks took the sessions so far, in order. -/
  taken : List Nat
  now : Nat
  /-- Addresses and times of all opens. -/
  opened : List (String × Nat)
  /-- The jitter of each wait, by the number of waits before it. -/
  jitter : Nat → Rat
  waits : Nat

namespace Play

variable {M H W : Type} (b : Behaviour M H (Reader.Program H W)) (depth : Nat)

def create (reader : Reader M H) (own : W) (sessions : List Session.Plan) (jitter : Nat → Rat) :
    Play M H W where
  state := ⟨reader, own⟩
  sessions := sessions
  taken := []
  now := 0
  opened := []
  jitter := jitter
  waits := 0

/-- The session that a task reads: the last one it took. -/
def sessionOf (p : Play M H W) (generation : Nat) : Option Nat :=
  (p.taken.zipIdx.reverse.find? (·.1 == generation)).map (·.2)

def channel? (p : Play M H W) (session : Nat) : Option Channel :=
  match p.sessions[session]? with
  | some (.channel c) => some c
  | _ => none

def setChannel (p : Play M H W) (session : Nat) (c : Channel) : Play M H W :=
  { p with sessions := p.sessions.set session (.channel c) }

/-- The time at which a wait is over. -/
def dueTime (since : Nat) (delay : Rat) : Nat := since + delay.ceil.toNat

/-- What a task can go on with now, and the play after that has been taken. -/
def wake (p : Play M H W) (t : Task) : Option (Reader.Wake × Play M H W) :=
  if t.aborted then none
  else match t.phase with
    | .finished => none
    | .ready => some (.turn, p)
    | .waiting since delay => if dueTime since delay ≤ p.now then some (.turn, p) else none
    | .opening =>
      let p : Play M H W := { p with opened := p.opened ++ [(t.address, p.now)] }
      match p.sessions[p.taken.length]? with
      | none => some (.opened (.error (.transport "connection refused")), p)
      | some (.fail m) =>
        some (.opened (.error (.transport m)), { p with taken := p.taken ++ [t.generation] })
      | some (.channel _) => some (.opened (.ok ()), { p with taken := p.taken ++ [t.generation] })
    | .reading =>
      match p.sessionOf t.generation with
      | none => some (.ended, p)
      | some n =>
        match p.channel? n with
        | none => some (.ended, p)
        | some c =>
          match c.items with
          | i :: rest => some (.item i, p.setChannel n { c with items := rest })
          | [] => if c.held then none else some (.ended, p)

/-- The first task that can go on does so. -/
def advanceOne (p : Play M H W) : Option (Option (Play M H W)) :=
  match p.state.reader.tasks.findSome? fun t => (p.wake t).map (t, ·) with
  | none => some none
  | some (t, w, p) => do
    let state ← Reader.step b p.now depth (p.jitter p.waits) t w p.state
    let waits := match state.reader.task? t.generation with
      | some ⟨_, _, _, _, .waiting _ _, _⟩ => p.waits + 1
      | _ => p.waits
    some (some { p with state, waits })

/-- Steps until every task waits, within a bound. -/
def settle : Nat → Play M H W → Option (Play M H W)
  | 0, _ => none
  | fuel + 1, p => do
    match ← advanceOne b depth p with
    | none => some p
    | some p => settle fuel p

/-- The earliest end of a wait up to a time. -/
def nextDue (p : Play M H W) (limit : Nat) : Option Nat :=
  (p.state.reader.tasks.filterMap fun t =>
    match t.phase with
    | .waiting since delay =>
      if ! t.aborted && dueTime since delay ≤ limit then some (dueTime since delay) else none
    | _ => none).min?

/-- The clock goes on to a time, by way of the ends of waits before it. -/
def passTo (bound : Nat) (limit : Nat) : Nat → Play M H W → Option (Play M H W)
  | 0, _ => none
  | fuel + 1, p =>
    match p.nextDue limit with
    | none => some { p with now := limit }
    | some t => do
      let p ← settle b depth bound { p with now := max p.now t }
      passTo bound limit fuel p

/-- What is done to a reader from outside. -/
inductive Op (H : Type) where
  | call (c : Reader.Call H)
  /-- A further session for the transport. -/
  | session (s : Session.Plan)
  | send (session : Nat) (items : List Item)
  | finish (session : Nat)
  | pass (milliseconds : Nat)

/-- Only a channel that is held open takes more items. -/
def send (p : Play M H W) (session : Nat) (items : List Item) : Play M H W :=
  match p.channel? session with
  | some c => if c.held then p.setChannel session { c with items := c.items ++ items } else p
  | none => p

def finish (p : Play M H W) (session : Nat) : Play M H W :=
  match p.channel? session with
  | some c => p.setChannel session { c with held := false }
  | none => p

def perform (bound : Nat) (op : Op H) (p : Play M H W) : Option (Play M H W × Reader.Reply) :=
  match op with
  | .call c => do
    let (state, r) ← Reader.perform b p.now (Reader.dispatch b p.now depth) c p.state
    some ({ p with state }, r)
  | .session s => some ({ p with sessions := p.sessions ++ [s] }, .done)
  | .send n items => some (p.send n items, .done)
  | .finish n => some (p.finish n, .done)
  | .pass ms => (passTo b depth bound (p.now + ms) bound p).map (·, .done)

/-- An operation, and all that the tasks do about it. -/
def step (bound : Nat) (op : Op H) (p : Play M H W) : Option (Play M H W × Reader.Reply) := do
  let (p, r) ← perform b depth bound op p
  let p ← settle b depth bound p
  some (p, r)

end Play

end TrafficWatch.Stream
