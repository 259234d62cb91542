import TrafficWatch.Ring
import TrafficWatch.Statistics
import TrafficWatch.Stream.Config
import TrafficWatch.Stream.Registry

/-!
A reader keeps one subscription to a stream of messages: it opens the transport, takes frames from
it, keeps the recent messages, tells the subscribers, and opens the transport again when it drops.

Each connect starts a task of its own under a new generation. A task runs from one wait to the
next, and tells subscribers of its transport's events only while its generation is the current one.
-/

namespace TrafficWatch.Stream

inductive Frame where
  | text (content : String)
  | binary (content : ByteArray)
  /-- The peer closed the channel. -/
  | close

/-- What a channel yields. -/
abbrev Item := Except StreamError Frame

/-- What a task waits for. -/
inductive Phase where
  /-- Its turn to open the transport. -/
  | ready
  | opening
  | reading
  | waiting (since : Nat) (delay : Rat)
  | finished
deriving DecidableEq, Repr

structure Task where
  generation : Nat
  address : String
  backoff : Backoff
  hasConnected : Bool
  phase : Phase
  /-- An aborted task does not go on after its next wait. -/
  aborted : Bool
deriving DecidableEq, Repr

structure Session where
  address : Option String := none
  /-- The generation of the task that serves the session. -/
  task : Option Nat := none
deriving DecidableEq, Repr

structure Reader (M H : Type) where
  name : String
  config : Config
  registry : Registry H
  buffer : Ring M
  session : Session
  generation : Nat
  tasks : List Task
  stats : StreamStats
  /-- Without an executor no task can be started. -/
  executor : Bool

/-- How frames become messages, and what handlers do about an event. -/
structure Behaviour (M H : Type) (Program : Type) where
  decode : String → Except Json.DecodeError M
  respond : H → Event M → Program

namespace Reader

variable {M H W : Type}

def create (name : String) (config : Config) : Reader M H where
  name := name
  config := config
  registry := .empty
  buffer := .empty config.bufferLength.toNat
  session := {}
  generation := 0
  tasks := []
  stats := {}
  executor := true

def isCurrent (r : Reader M H) (generation : Nat) : Bool := r.generation == generation

def task? (r : Reader M H) (generation : Nat) : Option Task :=
  r.tasks.find? (·.generation == generation)

def updateTask (r : Reader M H) (generation : Nat) (f : Task → Task) : Reader M H :=
  { r with tasks := r.tasks.map fun t => if t.generation = generation then f t else t }

def abort (r : Reader M H) (generation : Option Nat) : Reader M H :=
  match generation with
  | none => r
  | some g => r.updateTask g ({ · with aborted := true })

/-- A task is running, be it connected or waiting to connect again. -/
def isActive (r : Reader M H) : Bool :=
  match r.session.task.bind r.task? with
  | some t => t.phase != .finished
  | none => false

/-- Starts a task under the next generation, for the session. -/
def start (r : Reader M H) (address : String) : Reader M H :=
  let g := r.generation + 1
  { r with
    generation := g
    session := ⟨some address, some g⟩
    tasks := r.tasks ++ [⟨g, address, r.config.backoff, false, .ready, false⟩] }

/-- Does nothing if the reader is active with that address already. -/
def connect (r : Reader M H) (address : String) : Reader M H :=
  if ! r.executor then r
  else if r.isActive && r.session.address == some address then r
  else (r.abort r.session.task).start address

/-- From here on no task is current. -/
def supersede (r : Reader M H) : Reader M H := { r with generation := r.generation + 1 }

def leaveSession (r : Reader M H) : Reader M H := { r with session := {} }

def dropSubscriptions (r : Reader M H) : Reader M H := { r with registry := r.registry.clear }

/-- Ends the session, its task and every subscription. -/
def destroy (r : Reader M H) : Reader M H :=
  let t := r.session.task
  (r.supersede.leaveSession.abort t).dropSubscriptions

def report (r : Reader M H) (now : Nat) : StreamReport :=
  r.stats.report r.buffer.length r.buffer.capacity now

def recent (r : Reader M H) : List M := r.buffer.history

/-- What a handler, or any other program, asks of a reader. -/
inductive Call (H : Type) where
  | subscribe (kind : EventKind) (handler : H)
  | unsubscribe (id : SubscriptionId)
  | connect (address : String)
  | destroy
  /-- A frame that counts as if it had come from the transport. -/
  | push (frame : String)
  | report

inductive Reply where
  | done
  | subscribed (id : SubscriptionId)
  | unsubscribed (found : Bool)
  | pushed (result : Except StreamError Unit)
  | reported (report : StreamReport)

abbrev Program (H W : Type) := Script (Call H) Reply W

structure State (M H W : Type) where
  reader : Reader M H
  own : W

namespace State

def on (s : State M H W) (f : Reader M H → Reader M H) : State M H W := { s with reader := f s.reader }

end State

def countFrame (r : Reader M H) (size : Nat) : Reader M H := { r with stats := r.stats.frame size }

def keep (r : Reader M H) (m : M) : Reader M H := { r with buffer := r.buffer.push m }

def noteDelivered (now : Nat) (r : Reader M H) : Reader M H :=
  { r with stats := r.stats.delivered now }

def noteParseError (r : Reader M H) : Reader M H := { r with stats := r.stats.parseError }

def noteTransportError (r : Reader M H) : Reader M H := { r with stats := r.stats.transportError }

def noteConnected (again : Bool) (r : Reader M H) : Reader M H :=
  { r with stats := r.stats.connected again }

abbrev Dispatch (M H W : Type) := Event M → State M H W → Option (State M H W)

variable (b : Behaviour M H (Program H W)) (now : Nat)

def reportParseError (dispatch : Dispatch M H W) (e : Json.DecodeError) (s : State M H W) :
    Option (State M H W) :=
  dispatch (.error (.parse e)) (s.on noteParseError)

/-- A message enters the buffer before the subscribers see it. -/
def ingest (dispatch : Dispatch M H W) (text : String) (s : State M H W) :
    Option (State M H W × Except StreamError Unit) :=
  let s := s.on (·.countFrame text.utf8ByteSize)
  match b.decode text with
  | .ok m => do
    let s ← dispatch (.data m) (s.on (·.keep m))
    some (s.on (noteDelivered now), .ok ())
  | .error e => do
    let s ← reportParseError dispatch e s
    some (s, .error (.parse e))

def perform (dispatch : Dispatch M H W) (c : Call H) (s : State M H W) :
    Option (State M H W × Reply) :=
  match c with
  | .subscribe kind h =>
    let (registry, id) := s.reader.registry.subscribe kind h
    some (s.on ({ · with registry }), .subscribed id)
  | .unsubscribe id =>
    let (registry, found) := s.reader.registry.unsubscribe id
    some (s.on ({ · with registry }), .unsubscribed found)
  | .connect address => some (s.on (·.connect address), .done)
  | .destroy => some (s.on destroy, .done)
  | .push frame => (ingest b now dispatch frame s).map fun (s, r) => (s, .pushed r)
  | .report => some (s, .reported (s.reader.report now))

def exec (dispatch : Dispatch M H W) : Program H W → State M H W → Option (State M H W) :=
  Script.exec (·.own) (fun f s => { s with own := f s.own }) (perform b now dispatch)

/-- Handlers that cause further dispatches may do so to a bounded depth. -/
def dispatch : Nat → Dispatch M H W
  | 0, _, _ => none
  | depth + 1, e, s =>
    (s.reader.registry.handlers e.kind).foldlM
      (fun s h => exec b now (dispatch depth) (b.respond h e) s) s

/-- A task tells of its transport only while it is current. -/
def emit (dispatch : Dispatch M H W) (generation : Nat) (e : Event M) (s : State M H W) :
    Option (State M H W) :=
  if s.reader.isCurrent generation then dispatch e s else some s

def reportTransportError (dispatch : Dispatch M H W) (generation : Nat) (e : StreamError)
    (s : State M H W) : Option (State M H W) :=
  emit dispatch generation (.error e) (s.on noteTransportError)

def finish (generation : Nat) (s : State M H W) : State M H W :=
  s.on (·.updateTask generation ({ · with phase := .finished }))

/-- What comes after a transport has gone: a wait, if the task is still current. -/
def retire (jitter : Rat) (generation : Nat) (s : State M H W) : State M H W :=
  if s.reader.isCurrent generation then
    s.on (·.updateTask generation fun t =>
      { t with phase := .waiting now (t.backoff.delay jitter), backoff := t.backoff.advance })
  else finish generation s

def closeChannel (dispatch : Dispatch M H W) (jitter : Rat) (generation : Nat) (s : State M H W) :
    Option (State M H W) :=
  (emit dispatch generation .close s).map (retire now jitter generation)

def receive (dispatch : Dispatch M H W) (jitter : Rat) (generation : Nat) (i : Item)
    (s : State M H W) : Option (State M H W) :=
  match i with
  | .ok (.text content) => (ingest b now dispatch content s).map (·.1)
  | .ok (.binary content) =>
    match String.fromUTF8? content with
    | some text => (ingest b now dispatch text s).map (·.1)
    | none => reportParseError dispatch .encoding (s.on (·.countFrame content.size))
  | .ok .close => closeChannel now dispatch jitter generation s
  | .error e => do
    let s ← reportTransportError dispatch generation e s
    closeChannel now dispatch jitter generation s

/-- A channel is open. Only the first one of a task is no reconnect. -/
def beginSession (dispatch : Dispatch M H W) (t : Task) (s : State M H W) :
    Option (State M H W) :=
  let s := s.on fun r =>
    (r.updateTask t.generation fun t =>
      { t with hasConnected := true, backoff := t.backoff.reset, phase := .reading }).noteConnected
      t.hasConnected
  if t.hasConnected then emit dispatch t.generation .reconnect s else some s

/-- What lets a task go on. -/
inductive Wake where
  | turn
  | opened (result : Except StreamError Unit)
  | item (i : Item)
  | ended

/-- A task goes on up to its next wait. The jitter is for the wait that this may end in. -/
def resume (dispatch : Dispatch M H W) (jitter : Rat) (t : Task) (w : Wake) (s : State M H W) :
    Option (State M H W) :=
  let g := t.generation
  match t.phase, w with
  | .ready, .turn | .waiting _ _, .turn =>
    if s.reader.isCurrent g then some (s.on (·.updateTask g ({ · with phase := .opening })))
    else some (finish g s)
  | .opening, .opened (.error e) =>
    (reportTransportError dispatch g e s).map (retire now jitter g)
  | .opening, .opened (.ok ()) =>
    if s.reader.isCurrent g then beginSession dispatch t s else some (finish g s)
  | .reading, .item i =>
    if s.reader.isCurrent g then receive b now dispatch jitter g i s else some (finish g s)
  | .reading, .ended => closeChannel now dispatch jitter g s
  | _, _ => some s

/-- One step of a task, which tells the subscribers what happens. -/
def step (depth : Nat) : Rat → Task → Wake → State M H W → Option (State M H W) :=
  resume b now (dispatch b now depth)

theorem destroy_session (r : Reader M H) : r.destroy.session = {} := by
  cases h : r.session.task <;> simp [destroy, supersede, leaveSession, abort, dropSubscriptions,
    updateTask, h]

theorem destroy_subscriptions (r : Reader M H) (kind : EventKind) :
    r.destroy.registry.count kind = 0 := by
  simp [destroy, dropSubscriptions, Registry.count_clear]

end Reader

end TrafficWatch.Stream
