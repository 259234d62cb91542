import Mathlib.Data.List.Nodup
import Mathlib.Logic.Function.Basic
import TrafficWatch.Proofs.Ring
import TrafficWatch.Proofs.Stream.Supersession

/-!
Any number of callers that feed frames to one reader at the same time, the reader's task among
them. A frame is counted and parsed outside the lock; with the lock its message enters the buffer
and goes to the subscribers one after the other. Handlers, and whoever else calls the reader, may
act between any two steps.
-/

namespace TrafficWatch.Stream

variable {M H : Type}

namespace Registry

/-- Numbers are not used twice. -/
structure Distinct (r : Registry H) : Prop where
  ids : (r.entries.map (·.1)).Nodup
  numbers : ∀ x ∈ r.entries, x.1.number < r.nextNumber

theorem distinct_empty : (empty : Registry H).Distinct := ⟨List.nodup_nil, nofun⟩

theorem Distinct.subscribe {r : Registry H} (h : r.Distinct) (kind : EventKind) (handler : H) :
    (r.subscribe kind handler).1.Distinct where
  ids := by
    have hnew : ∀ id ∈ r.entries.map (·.1), id ≠ ⟨kind, r.nextNumber⟩ := by
      rintro _ hm rfl
      obtain ⟨x, hx, heq⟩ := List.mem_map.mp hm
      exact Nat.lt_irrefl _ (heq ▸ h.numbers x hx)
    simpa [Registry.subscribe, List.nodup_append] using ⟨h.ids, by simpa using hnew⟩
  numbers x hx := by
    rcases List.mem_append.mp hx with hx | hx
    · exact Nat.lt_succ_of_lt (h.numbers x hx)
    · rw [List.mem_singleton.mp hx]
      exact Nat.lt_succ_self _

theorem Distinct.unsubscribe {r : Registry H} (h : r.Distinct) (id : SubscriptionId) :
    (r.unsubscribe id).1.Distinct where
  ids := h.ids.sublist (List.filter_sublist.map _)
  numbers x hx := h.numbers x (List.mem_filter.mp hx).1

theorem distinct_clear (r : Registry H) : r.clear.Distinct := ⟨List.nodup_nil, nofun⟩

/-- Those whom an event of the kind goes to. -/
def audience (r : Registry H) (kind : EventKind) : List (SubscriptionId × H) :=
  r.entries.filter (·.1.kind == kind)

theorem Distinct.countP_audience {r : Registry H} (h : r.Distinct) {id : SubscriptionId}
    (hid : id ∈ r.entries.map (·.1)) : (r.audience id.kind).countP (·.1 == id) = 1 := by
  have hkind : ∀ x ∈ r.entries, ((x.1 == id && x.1.kind == id.kind) = true ↔ (x.1 == id) = true) := by
    intro x _
    simp only [Bool.and_eq_true, beq_iff_eq, and_iff_left_iff_imp]
    exact fun hx => hx ▸ rfl
  have hcount : (r.entries.map (·.1)).countP (· == id) = 1 := List.count_eq_one_of_mem h.ids hid
  rwa [audience, List.countP_filter, List.countP_congr hkind, ← Function.comp_def (· == id),
    ← List.countP_map]

/-- What a call makes of the registry. -/
def after (r : Registry H) : Reader.Call H → Registry H
  | .subscribe kind handler => (r.subscribe kind handler).1
  | .unsubscribe id => (r.unsubscribe id).1
  | .destroy => r.clear
  | .connect _ | .push _ | .report => r

theorem Distinct.after {r : Registry H} (h : r.Distinct) (c : Reader.Call H) : (r.after c).Distinct := by
  cases c with
  | subscribe kind handler => exact h.subscribe kind handler
  | unsubscribe id => exact h.unsubscribe id
  | destroy => exact distinct_clear r
  | connect address | push frame | report => exact h

theorem mem_after {r : Registry H} {id : SubscriptionId} (hid : id ∈ r.entries.map (·.1))
    {c : Reader.Call H} (hunsubscribe : c ≠ .unsubscribe id) (hdestroy : c ≠ .destroy) :
    id ∈ (r.after c).entries.map (·.1) := by
  cases c with
  | subscribe kind handler =>
    rw [after, Registry.subscribe, List.map_append]
    exact List.mem_append_left _ hid
  | unsubscribe other =>
    obtain ⟨x, hx, rfl⟩ := List.mem_map.mp hid
    have hne : x.1 ≠ other := fun h => hunsubscribe (h ▸ rfl)
    exact List.mem_map_of_mem (List.mem_filter.mpr ⟨hx, by simpa using hne⟩)
  | destroy => exact absurd rfl hdestroy
  | connect address | push frame | report => exact hid

end Registry

namespace Reader

/-- How far a caller is with the frame that it feeds. -/
inductive Stage (M H : Type) where
  /-- The frame has been counted and parsed, and waits for the lock. -/
  | waiting (m : M)
  | locked (m : M)
  /-- The message is in the buffer. -/
  | kept (m : M)
  | telling (m : M) (rest : List (SubscriptionId × H))
  | told
  | rejected (e : Json.DecodeError)
  /-- An event that is no message goes to its subscribers without the lock. -/
  | reporting (e : Event M) (rest : List (SubscriptionId × H))

structure Feeding (M H : Type) where
  reader : Reader M H
  /-- The frame of each caller that has one. -/
  frames : Nat → Option (Stage M H) := fun _ => none
  lock : Option Nat := none
  /-- The messages so far, in the order in which they entered the buffer, with their callers. -/
  entered : List (Nat × M) := []
  /-- What subscribers have been told so far. -/
  seen : List (SubscriptionId × Event M) := []

inductive Act (M H : Type) where
  | feed (caller : Nat) (frame : String)
  /-- A binary frame that is no text. -/
  | garbled (caller : Nat) (size : Nat)
  /-- The task tells of its transport. -/
  | emit (caller : Nat) (e : Event M)
  | goOn (caller : Nat) (now : Nat)
  | call (c : Call H)
  /-- Whatever else is done to a reader. -/
  | elsewhere (session : Session) (generation : Nat) (tasks : List Task) (stats : StreamStats)
      (executor : Bool)

namespace Feeding

def idle (name : String) (config : Config) : Feeding M H where
  reader := create name config

def put (s : Feeding M H) (caller : Nat) (frame : Option (Stage M H)) : Feeding M H :=
  { s with frames := Function.update s.frames caller frame }

/-- A caller that has no frame comes with one. -/
def come (s : Feeding M H) (caller : Nat) (size : Nat) (frame : Stage M H) :
    Option (Feeding M H) :=
  match s.frames caller with
  | some _ => none
  | none => some ({ s with reader := s.reader.countFrame size }.put caller (some frame))

/-- There is no step for a frame that waits while another caller has the lock. -/
def advance (s : Feeding M H) (caller now : Nat) : Stage M H → Option (Feeding M H)
  | .waiting m =>
    match s.lock with
    | some _ => none
    | none => some ({ s with lock := some caller }.put caller (some (.locked m)))
  | .locked m =>
    some ({ s with
      reader := s.reader.keep m
      entered := s.entered ++ [(caller, m)] }.put caller (some (.kept m)))
  | .kept m => some (s.put caller (some (.telling m (s.reader.registry.audience .data))))
  | .telling m ((id, _) :: rest) =>
    some ({ s with seen := s.seen ++ [(id, Event.data m)] }.put caller (some (.telling m rest)))
  | .telling _ [] =>
    some ({ s with reader := s.reader.noteDelivered now }.put caller (some .told))
  | .told => some ({ s with lock := none }.put caller none)
  | .rejected e =>
    some ({ s with reader := s.reader.noteParseError }.put caller
      (some (.reporting (.error (.parse e)) (s.reader.registry.audience .error))))
  | .reporting e ((id, _) :: rest) =>
    some ({ s with seen := s.seen ++ [(id, e)] }.put caller (some (.reporting e rest)))
  | .reporting _ [] => some (s.put caller none)

/-- Handlers do nothing by themselves here: what they do to the reader are acts of their own. -/
def silent (decode : String → Except Json.DecodeError M) : Behaviour M H (Program H Unit) where
  decode := decode
  respond _ _ := .done

variable (decode : String → Except Json.DecodeError M)

def act (s : Feeding M H) : Act M H → Option (Feeding M H)
  | .feed caller frame =>
    s.come caller frame.utf8ByteSize <|
      match decode frame with
      | .ok m => .waiting m
      | .error e => .rejected e
  | .garbled caller size => s.come caller size (.rejected .encoding)
  | .emit caller e =>
    match s.frames caller with
    | some _ => none
    | none =>
      if e.kind = .data then none
      else some (s.put caller (some (.reporting e (s.reader.registry.audience e.kind))))
  | .goOn caller now => (s.frames caller).bind (s.advance caller now)
  | .call c =>
    (perform (silent decode) 0 (fun _ _ => none) c ⟨s.reader, ()⟩).map fun r =>
      { s with reader := r.1.reader }
  | .elsewhere session generation tasks stats executor =>
    some { s with reader := { s.reader with session, generation, tasks, stats, executor } }

def run (s : Feeding M H) (acts : List (Act M H)) : Option (Feeding M H) := acts.foldlM (act decode) s

end Feeding

namespace Feeding

/-! A frame that meets no other goes as it does when there is only one thread. -/

section Alone

variable (decode : String → Except Json.DecodeError M) (caller now : Nat)

theorem run_append (s : Feeding M H) (acts more : List (Act M H)) :
    run decode s (acts ++ more) = (run decode s acts).bind fun s' => run decode s' more :=
  List.foldlM_append

theorem dispatch_silent (depth : Nat) (e : Event M) (st : State M H Unit) :
    dispatch (silent decode) now (depth + 1) e st = some st := by
  have hall (hs : List H) (st : State M H Unit) :
      hs.foldlM (fun st h => exec (silent decode) now (dispatch (silent decode) now depth)
        ((silent decode).respond h e) st) st = some st := by
    induction hs with
    | nil => rfl
    | cons h hs ih => exact ih
  exact hall _ st

/-- A caller that tells one subscriber after the other tells all of them. -/
theorem run_telling {k : List (SubscriptionId × H) → Stage M H} {e : Event M}
    (hk : ∀ (s : Feeding M H) id h rest, s.advance caller now (k ((id, h) :: rest)) =
      some ({ s with seen := s.seen ++ [(id, e)] }.put caller (some (k rest))))
    (rest : List (SubscriptionId × H)) (s : Feeding M H) :
    run decode (s.put caller (some (k rest))) (List.replicate rest.length (.goOn caller now)) =
      some ({ s with seen := s.seen ++ rest.map fun (x : SubscriptionId × H) => (x.1, e) }.put caller
        (some (k []))) := by
  induction rest generalizing s with
  | nil => simp [run]
  | cons x rest ih =>
    have hact : act decode (s.put caller (some (k (x :: rest)))) (.goOn caller now) =
        some ({ s with seen := s.seen ++ [(x.1, e)] }.put caller (some (k rest))) := by
      simp only [act, put, Function.update_self, Option.bind_some, hk, Function.update_idem]
    rw [List.length_cons, List.replicate_succ, run, List.foldlM_cons, hact]
    refine (ih { s with seen := s.seen ++ [(x.1, e)] }).trans ?_
    simp [List.append_assoc]

theorem exists_run_feed (s : Feeding M H) (hlock : s.lock = none) (hframe : s.frames caller = none)
    (frame : String) :
    ∃ n reader entered seen result,
      run decode s (.feed caller frame :: List.replicate n (.goOn caller now)) =
        some { s with reader, entered, seen } ∧
      ingest (silent decode) now (dispatch (silent decode) now 1) frame ⟨s.reader, ()⟩ =
        some (⟨reader, ()⟩, result) := by
  have hback : Function.update s.frames caller none = s.frames := by
    rw [← hframe, Function.update_eq_self]
  let counted := s.reader.countFrame frame.utf8ByteSize
  cases hd : decode frame with
  | ok m =>
    let rest := s.reader.registry.audience .data
    let s₁ : Feeding M H :=
      { s with reader := counted.keep m, lock := some caller, entered := s.entered ++ [(caller, m)] }
    have hfirst : run decode s (.feed caller frame :: List.replicate 3 (.goOn caller now)) =
        some (s₁.put caller (some (.telling m rest))) := by
      simp [run, act, come, advance, put, hframe, hlock, hd, s₁, rest, List.replicate, countFrame,
        keep, counted]
    have htell := run_telling (k := .telling m) decode caller now (fun _ _ _ _ => rfl) rest s₁
    refine ⟨3 + rest.length + 2, (counted.keep m).noteDelivered now, s₁.entered,
      s.seen ++ rest.map fun x => (x.1, .data m), .ok (), ?_, ?_⟩
    · rw [List.replicate_add, List.replicate_add, ← List.cons_append, ← List.cons_append, run_append,
        run_append, hfirst, Option.bind_some, htell]
      simp [run, act, advance, put, List.replicate, hback, hlock, s₁]
    · have hdecode : (silent decode : Behaviour M H (Program H Unit)).decode frame = .ok m := hd
      simp only [ingest, hdecode]
      rw [dispatch_silent decode now 0]
      rfl
  | error e =>
    let rest := s.reader.registry.audience .error
    let s₁ : Feeding M H := { s with reader := counted.noteParseError }
    have hfirst : run decode s (.feed caller frame :: List.replicate 1 (.goOn caller now)) =
        some (s₁.put caller (some (.reporting (.error (.parse e)) rest))) := by
      simp [run, act, come, advance, put, hframe, hd, s₁, rest, List.replicate, countFrame,
        noteParseError, counted]
    have htell := run_telling (k := .reporting (.error (.parse e))) decode caller now
      (fun _ _ _ _ => rfl) rest s₁
    refine ⟨1 + rest.length + 1, counted.noteParseError, s.entered,
      s.seen ++ rest.map fun x => (x.1, .error (.parse e)), .error (.parse e), ?_, ?_⟩
    · rw [List.replicate_add, List.replicate_add, ← List.cons_append, ← List.cons_append, run_append,
        run_append, hfirst, Option.bind_some, htell]
      simp [run, act, advance, put, List.replicate, hback, s₁]
    · have hdecode : (silent decode : Behaviour M H (Program H Unit)).decode frame = .error e := hd
      simp only [ingest, reportParseError, hdecode]
      rw [dispatch_silent decode now 0]
      rfl

end Alone

end Feeding

/-- The caller has the lock. -/
def Stage.inside : Stage M H → Bool
  | .locked _ | .kept _ | .telling _ _ | .told => true
  | _ => false

/-- The message has entered the buffer, and the lock has not been released. -/
def Stage.between : Stage M H → Bool
  | .kept _ | .telling _ _ | .told => true
  | _ => false

/-- The message that is to enter the buffer. -/
def Stage.ahead : Stage M H → List M
  | .waiting m | .locked m => [m]
  | _ => []

/-- What a subscriber is still to be told. -/
def Stage.owed (id : SubscriptionId) : Stage M H → List M
  | .kept m => [m]
  | .telling m rest => List.replicate (rest.countP (·.1 == id)) m
  | _ => []

def Act.isFrame : Act M H → Bool
  | .feed _ _ | .garbled _ _ => true
  | _ => false

def Act.removes (id : SubscriptionId) : Act M H → Bool
  | .call (.unsubscribe id') => id' = id
  | .call .destroy => true
  | _ => false

namespace Feeding

/-- The messages of the frames that a caller feeds and that are accepted, in its own order. -/
def acceptedBy (decode : String → Except Json.DecodeError M) (caller : Nat)
    (acts : List (Act M H)) : List M :=
  acts.filterMap fun
    | .feed c frame => if c = caller then (decode frame).toOption else none
    | _ => none

def messages (s : Feeding M H) : List M := s.entered.map (·.2)

def enteredBy (s : Feeding M H) (caller : Nat) : List M :=
  (s.entered.filter (·.1 == caller)).map (·.2)

def aheadOf (s : Feeding M H) (caller : Nat) : List M := (s.frames caller).elim [] Stage.ahead

def seenBy (s : Feeding M H) (id : SubscriptionId) : List (Event M) :=
  (s.seen.filter (·.1 == id)).map (·.2)

/-- No frame is between its entry into the buffer and the release of the lock. -/
def Quiet (s : Feeding M H) : Prop := ∀ caller, ∀ stage ∈ s.frames caller, stage.between = false

/-- What holds between any two steps, when the callers have fed these messages. -/
structure Sound (capacity : Nat) (fed : Nat → List M) (s : Feeding M H) : Prop where
  alone : ∀ c, ∀ stage ∈ s.frames c, stage.inside = true → s.lock = some c
  aside : ∀ c e rest, s.frames c = some (.reporting e rest) →
    e.kind ≠ .data ∧ ∀ x ∈ rest, x.1.kind = e.kind
  distinct : s.reader.registry.Distinct
  buffer : Ring.Holds capacity s.reader.buffer s.messages
  order : ∀ c, s.enteredBy c ++ s.aheadOf c = fed c

variable {decode : String → Except Json.DecodeError M} {capacity now caller : Nat}
variable {fed fed' : Nat → List M} {s s' : Feeding M H} {frame : Option (Stage M H)}

/-- A step of one caller, by what it has to leave alone and what it comes to. -/
theorem Sound.put (h : Sound capacity fed s) (hframes : s'.frames = s.frames)
    (hlock : ∀ c ≠ caller, s.lock = some c → s'.lock = some c)
    (halone : ∀ stage ∈ frame, stage.inside = true → s'.lock = some caller)
    (haside : ∀ e rest, frame = some (.reporting e rest) →
      e.kind ≠ .data ∧ ∀ x ∈ rest, x.1.kind = e.kind)
    (hregistry : s'.reader.registry = s.reader.registry)
    (hbuffer : Ring.Holds capacity s'.reader.buffer s'.messages)
    (hothers : ∀ c ≠ caller, s'.enteredBy c = s.enteredBy c ∧ fed' c = fed c)
    (hown : s'.enteredBy caller ++ frame.elim [] Stage.ahead = fed' caller) :
    Sound capacity fed' (s'.put caller frame) where
  alone c stage hs hin := by
    by_cases hc : c = caller
    · subst hc
      exact halone stage (by simpa [Feeding.put] using hs) hin
    · exact hlock c hc (h.alone c stage (by simpa [Feeding.put, hc, hframes] using hs) hin)
  aside c e rest hs := by
    by_cases hc : c = caller
    · subst hc
      exact haside e rest (by simpa [Feeding.put] using hs)
    · exact h.aside c e rest (by simpa [Feeding.put, hc, hframes] using hs)
  distinct := by
    have hr : (s'.put caller frame).reader.registry = s.reader.registry := hregistry
    exact hr ▸ h.distinct
  buffer := hbuffer
  order c := by
    by_cases hc : c = caller
    · subst hc
      simpa [aheadOf, enteredBy, Feeding.put] using hown
    · have ho := h.order c
      rw [← (hothers c hc).1, ← (hothers c hc).2] at ho
      simpa [aheadOf, enteredBy, Feeding.put, hc, hframes] using ho

/-- A step of one caller after which no message more has entered the buffer. -/
theorem Sound.turn (h : Sound capacity fed s) (hframes : s'.frames = s.frames)
    (hlock : ∀ c ≠ caller, s.lock = some c → s'.lock = some c)
    (halone : ∀ stage ∈ frame, stage.inside = true → s'.lock = some caller)
    (haside : ∀ e rest, frame = some (.reporting e rest) →
      e.kind ≠ .data ∧ ∀ x ∈ rest, x.1.kind = e.kind)
    (hregistry : s'.reader.registry = s.reader.registry)
    (hbuffer : s'.reader.buffer = s.reader.buffer) (hentered : s'.entered = s.entered)
    (hahead : frame.elim [] Stage.ahead = s.aheadOf caller) :
    Sound capacity fed (s'.put caller frame) := by
  have hby (c : Nat) : s'.enteredBy c = s.enteredBy c := by rw [enteredBy, hentered, enteredBy]
  refine h.put hframes hlock halone haside hregistry ?_ (fun c _ => ⟨hby c, rfl⟩) ?_
  · rw [messages, hbuffer, hentered]
    exact h.buffer
  · rw [hby, hahead]
    exact h.order caller

theorem aheadOf_eq {stage : Stage M H} (hs : s.frames caller = some stage) :
    s.aheadOf caller = stage.ahead := by rw [aheadOf, hs, Option.elim_some]

theorem Sound.lock (h : Sound capacity fed s) {stage : Stage M H}
    (hs : s.frames caller = some stage) (hin : stage.inside = true) : s.lock = some caller :=
  h.alone caller stage hs hin

theorem Sound.advance (h : Sound capacity fed s) {stage : Stage M H}
    (hs : s.frames caller = some stage) (ha : s.advance caller now stage = some s') :
    Sound capacity fed s' := by
  have hahead := aheadOf_eq hs
  have hkeep : ∀ c ≠ caller, s.lock = some c → s.lock = some c := fun _ _ h => h
  cases stage with
  | waiting m =>
    simp only [Feeding.advance] at ha
    cases hlock : s.lock with
    | some c =>
      rw [hlock] at ha
      cases ha
    | none =>
      rw [hlock] at ha
      obtain rfl := Option.some.inj ha
      exact h.turn rfl (fun c _ hc => nomatch hlock.symm.trans hc) (fun _ _ _ => rfl) nofun rfl rfl
        rfl hahead.symm
  | locked m =>
    obtain rfl := Option.some.inj ha
    have hown : s.enteredBy caller ++ [m] = fed caller := by
      rw [← h.order caller, hahead]
      rfl
    refine h.put rfl hkeep (fun _ _ _ => h.lock hs rfl) nofun rfl ?_ (fun c hc => ⟨?_, rfl⟩) ?_
    · simpa [messages, keep] using h.buffer.push m
    · simp [enteredBy, List.filter_append, Ne.symm hc]
    · simpa [enteredBy, List.filter_append, Stage.ahead] using hown
  | kept m =>
    obtain rfl := Option.some.inj ha
    exact h.turn rfl hkeep (fun _ _ _ => h.lock hs rfl) nofun rfl rfl rfl hahead.symm
  | telling m rest =>
    cases rest with
    | nil =>
      obtain rfl := Option.some.inj ha
      exact h.turn rfl hkeep (fun _ _ _ => h.lock hs rfl) nofun rfl rfl rfl hahead.symm
    | cons x rest =>
      obtain rfl := Option.some.inj ha
      exact h.turn rfl hkeep (fun _ _ _ => h.lock hs rfl) nofun rfl rfl rfl hahead.symm
  | told =>
    obtain rfl := Option.some.inj ha
    have hmine := h.lock hs rfl
    refine h.turn rfl (fun c hc hl => ?_) nofun nofun rfl rfl rfl hahead.symm
    exact absurd (Option.some.inj (hl.symm.trans hmine)) hc
  | rejected e =>
    obtain rfl := Option.some.inj ha
    refine h.turn rfl hkeep (by rintro _ ⟨⟩ ⟨⟩) ?_ rfl rfl rfl hahead.symm
    rintro _ _ ⟨⟩
    exact ⟨nofun, fun x hx => by simpa [Event.kind] using (List.mem_filter.mp hx).2⟩
  | reporting e rest =>
    obtain ⟨hkind, hrest⟩ := h.aside caller e rest hs
    cases rest with
    | nil =>
      obtain rfl := Option.some.inj ha
      exact h.turn rfl hkeep nofun nofun rfl rfl rfl hahead.symm
    | cons x rest =>
      obtain rfl := Option.some.inj ha
      refine h.turn rfl hkeep (by rintro _ ⟨⟩ ⟨⟩) ?_ rfl rfl rfl hahead.symm
      rintro _ _ ⟨⟩
      exact ⟨hkind, fun y hy => hrest y (List.mem_cons_of_mem x hy)⟩

theorem come_eq_some {size : Nat} {stage : Stage M H} (hs : s.come caller size stage = some s') :
    s.frames caller = none ∧
      s' = { s with reader := s.reader.countFrame size }.put caller (some stage) := by
  unfold come at hs
  cases hframe : s.frames caller <;> rw [hframe] at hs
  · exact ⟨rfl, (Option.some.inj hs).symm⟩
  · cases hs

theorem Sound.come (h : Sound capacity fed s) {size : Nat} {stage : Stage M H}
    (hs : s.come caller size stage = some s') (houtside : stage.inside = false)
    (hreport : ∀ e rest, stage ≠ .reporting e rest) :
    Sound capacity (fun c => fed c ++ if c = caller then stage.ahead else []) s' := by
  obtain ⟨hnone, rfl⟩ := come_eq_some hs
  refine h.put rfl (fun _ _ h => h) ?_ (fun e rest heq => absurd (Option.some.inj heq) (hreport e rest))
    rfl h.buffer (fun c hc => ⟨rfl, by simp [hc]⟩) ?_
  · rintro _ ⟨⟩ hin
    rw [houtside] at hin
    cases hin
  · have hown : s.enteredBy caller = fed caller := by
      simpa [aheadOf, hnone] using h.order caller
    simpa [enteredBy] using hown

theorem perform_call {c : Call H} {st st' : State M H Unit} {reply : Reply}
    (hc : perform (silent decode) 0 (fun _ _ => none) c st = some (st', reply)) :
    st'.reader.registry = st.reader.registry.after c ∧ st'.reader.buffer = st.reader.buffer := by
  cases c with
  | subscribe kind handler | unsubscribe id | report =>
    obtain ⟨rfl, -⟩ := Prod.mk.inj (Option.some.inj hc)
    exact ⟨rfl, rfl⟩
  | connect address =>
    obtain ⟨rfl, -⟩ := Prod.mk.inj (Option.some.inj hc)
    rcases connect_eq st.reader address with heq | heq
    · simp [State.on, heq, Registry.after]
    · cases ht : st.reader.session.task <;>
        simp [State.on, heq, ht, abort, start, updateTask, Registry.after]
  | destroy =>
    obtain ⟨rfl, -⟩ := Prod.mk.inj (Option.some.inj hc)
    cases ht : st.reader.session.task <;>
      simp [State.on, Reader.destroy, ht, abort, supersede, leaveSession, dropSubscriptions,
        updateTask, Registry.after]
  | push frame =>
    obtain ⟨⟨st₁, r⟩, hi, -⟩ := Option.map_eq_some_iff.mp hc
    unfold ingest reportParseError at hi
    dsimp only at hi
    split at hi <;> cases hi

/-- What is done to the reader by others, which leaves the frames where they are. -/
theorem Sound.elsewhere (h : Sound capacity fed s) {r : Reader M H} (hr : r.registry.Distinct)
    (hbuffer : r.buffer = s.reader.buffer) : Sound capacity fed { s with reader := r } :=
  ⟨h.alone, h.aside, hr, hbuffer ▸ h.buffer, h.order⟩

theorem Sound.act (h : Sound capacity fed s) {a : Act M H} (hs : act decode s a = some s') :
    Sound capacity (fun c => fed c ++ acceptedBy decode c [a]) s' := by
  have hnone (hs : Sound capacity fed s') (ha : ∀ c, acceptedBy decode c [a] = []) :
      Sound capacity (fun c => fed c ++ acceptedBy decode c [a]) s' := by
    simpa [ha] using hs
  cases a with
  | feed c frame =>
    simp only [Feeding.act] at hs
    have hfed (c' : Nat) : acceptedBy decode c' [(.feed c frame : Act M H)] =
        if c' = c then (decode frame).toOption.toList else [] := by
      by_cases hc : c = c'
      · cases hd : decode frame <;> simp [acceptedBy, hc, hd, Except.toOption]
      · simp [acceptedBy, hc, Ne.symm hc]
    simp only [hfed]
    cases hd : decode frame with
    | ok m =>
      rw [hd] at hs
      exact h.come hs rfl nofun
    | error e =>
      rw [hd] at hs
      exact h.come hs rfl nofun
  | garbled c size =>
    refine hnone ?_ fun _ => rfl
    simpa [Stage.ahead] using h.come hs rfl nofun
  | emit c e =>
    refine hnone ?_ fun _ => rfl
    simp only [Feeding.act] at hs
    cases hframe : s.frames c with
    | some stage =>
      rw [hframe] at hs
      cases hs
    | none =>
      rw [hframe] at hs
      dsimp only at hs
      split at hs
      · cases hs
      · next hkind =>
        obtain rfl := Option.some.inj hs
        refine h.turn rfl (fun _ _ h => h) (by rintro _ ⟨⟩ ⟨⟩) ?_ rfl rfl rfl
          (by rw [aheadOf, hframe]; rfl)
        rintro _ _ ⟨⟩
        exact ⟨hkind, fun x hx => by simpa using (List.mem_filter.mp hx).2⟩
  | goOn c now =>
    refine hnone ?_ fun _ => rfl
    obtain ⟨stage, hstage, ha⟩ := Option.bind_eq_some_iff.mp hs
    exact h.advance hstage ha
  | call c =>
    refine hnone ?_ fun _ => rfl
    obtain ⟨⟨⟨r, own⟩, reply⟩, hr, rfl⟩ := Option.map_eq_some_iff.mp hs
    obtain ⟨hregistry, hbuffer⟩ := perform_call hr
    exact h.elsewhere (hregistry ▸ h.distinct.after c) hbuffer
  | elsewhere session generation tasks stats executor =>
    refine hnone ?_ fun _ => rfl
    obtain rfl := Option.some.inj hs
    exact h.elsewhere h.distinct rfl

theorem acceptedBy_cons (c : Nat) (a : Act M H) (acts : List (Act M H)) :
    acceptedBy decode c (a :: acts) = acceptedBy decode c [a] ++ acceptedBy decode c acts :=
  List.filterMap_append (l := [a])

theorem Sound.run {acts : List (Act M H)} (h : Sound capacity fed s)
    (hs : run decode s acts = some s') :
    Sound capacity (fun c => fed c ++ acceptedBy decode c acts) s' := by
  induction acts generalizing s fed with
  | nil =>
    obtain rfl := Option.some.inj hs
    simpa [acceptedBy] using h
  | cons a acts ih =>
    obtain ⟨s₁, h₁, h₂⟩ := Option.bind_eq_some_iff.mp hs
    simpa only [acceptedBy_cons _ a acts, List.append_assoc] using ih (h.act h₁) h₂

/-- What steps of some kind keep where the record is sound, runs of them keep. -/
theorem run_keeps {P : Feeding M H → Prop} {q : Act M H → Prop}
    (step : ∀ {fed s s'}, P s → Sound capacity fed s → ∀ a, q a → act decode s a = some s' → P s')
    {acts : List (Act M H)} (hsound : Sound capacity fed s) (h : P s) (hq : ∀ a ∈ acts, q a)
    (hs : run decode s acts = some s') : P s' := by
  induction acts generalizing s fed with
  | nil =>
    obtain rfl := Option.some.inj hs
    exact h
  | cons a acts ih =>
    obtain ⟨s₁, h₁, h₂⟩ := Option.bind_eq_some_iff.mp hs
    have ha := step h hsound a (hq a List.mem_cons_self) h₁
    exact ih (hsound.act h₁) ha (fun a ha => hq a (List.mem_cons_of_mem _ ha)) h₂

theorem sound_idle (name : String) (config : Config) :
    Sound config.bufferLength.toNat (fun _ => []) (idle name config : Feeding M H) where
  alone := nofun
  aside := nofun
  distinct := Registry.distinct_empty
  buffer := Ring.holds_empty _
  order := fun _ => rfl

/-! What one subscriber is told. -/

def owed (s : Feeding M H) (id : SubscriptionId) : List M :=
  (s.lock.bind s.frames).elim [] (Stage.owed id)

/-- A subscriber that has been told of every message so far, but for what it is still owed. -/
structure Tells (id : SubscriptionId) (s : Feeding M H) : Prop where
  registered : id ∈ s.reader.registry.entries.map (·.1)
  told : s.seenBy id ++ (s.owed id).map .data = s.messages.map .data

variable {id : SubscriptionId}

theorem owed_put_of_lock (hlock : s.lock = some caller) :
    (s.put caller frame).owed id = frame.elim [] (Stage.owed id) := by
  simp [owed, Feeding.put, hlock]

theorem owed_of_lock {stage : Stage M H} (hlock : s.lock = some caller)
    (hs : s.frames caller = some stage) : s.owed id = stage.owed id := by
  simp [owed, hlock, hs]

/-- A step of a caller that owes nothing before it and after it. -/
theorem owed_put_of_nil (hold : (s.frames caller).elim [] (Stage.owed id) = [])
    (hnew : frame.elim [] (Stage.owed id) = []) : (s.put caller frame).owed id = s.owed id := by
  cases hlock : s.lock with
  | none => simp [owed, Feeding.put, hlock]
  | some c =>
    by_cases hc : c = caller
    · subst hc
      rw [owed_put_of_lock hlock, hnew, owed, hlock]
      exact hold.symm
    · simp [owed, Feeding.put, hlock, hc]

theorem seenBy_append {other : SubscriptionId} {e : Event M}
    (hseen : s'.seen = s.seen ++ [(other, e)]) :
    s'.seenBy id = s.seenBy id ++ if other = id then [e] else [] := by
  by_cases hother : other = id <;> simp [seenBy, hseen, List.filter_append, hother]

/-- A step that tells this subscriber nothing and with which no message more has entered. -/
theorem Tells.turn (h : Tells id s) (hregistry : s'.reader.registry = s.reader.registry)
    (hseen : s'.seenBy id = s.seenBy id) (hentered : s'.entered = s.entered)
    (howed : s'.owed id = s.owed id) : Tells id s' where
  registered := by
    rw [hregistry]
    exact h.registered
  told := by
    rw [hseen, howed, messages, hentered]
    exact h.told

/-- A step of the caller that has the lock: what has been told and what is owed afterwards is what
was owed before, and what has entered. -/
theorem Tells.inside (h : Tells id s) {stage stage' : Stage M H} (hlock : s.lock = some caller)
    (hs : s.frames caller = some stage) (hlock' : s'.lock = some caller)
    (hs' : s'.frames caller = some stage')
    (hregistry : s'.reader.registry = s.reader.registry) {es : List (Event M)} {ms : List M}
    (hseen : s'.seenBy id = s.seenBy id ++ es) (hmessages : s'.messages = s.messages ++ ms)
    (howed : es ++ (stage'.owed id).map .data = (stage.owed id ++ ms).map .data) : Tells id s' where
  registered := by
    rw [hregistry]
    exact h.registered
  told := by
    have htold := h.told
    rw [owed_of_lock hlock hs] at htold
    rw [owed_of_lock hlock' hs', hseen, hmessages, List.append_assoc, howed, List.map_append,
      ← List.append_assoc, htold, List.map_append]

theorem put_frames (s : Feeding M H) (stage : Stage M H) :
    (s.put caller (some stage)).frames caller = some stage := Function.update_self ..

theorem Tells.advance (h : Tells id s) (hsound : Sound capacity fed s) (hkind : id.kind = .data)
    {stage : Stage M H} (hs : s.frames caller = some stage)
    (ha : s.advance caller now stage = some s') : Tells id s' := by
  have hold (hnil : stage.owed id = []) : (s.frames caller).elim [] (Stage.owed id) = [] := by
    rw [hs]
    exact hnil
  cases stage with
  | waiting m =>
    simp only [Feeding.advance] at ha
    cases hlock : s.lock with
    | some c =>
      rw [hlock] at ha
      cases ha
    | none =>
      rw [hlock] at ha
      obtain rfl := Option.some.inj ha
      have hnew : s.owed id = [] := by rw [owed, hlock]; rfl
      exact h.turn rfl rfl rfl ((owed_of_lock rfl (put_frames _ _)).trans hnew.symm)
  | locked m =>
    obtain rfl := Option.some.inj ha
    have hlock := hsound.lock hs rfl
    exact h.inside hlock hs hlock (put_frames _ _) rfl (List.append_nil _).symm List.map_append rfl
  | kept m =>
    obtain rfl := Option.some.inj ha
    have hlock := hsound.lock hs rfl
    have hone : Stage.owed id (.telling m (s.reader.registry.audience .data)) = [m] := by
      have hcount := hsound.distinct.countP_audience h.registered
      rw [hkind] at hcount
      rw [Stage.owed, hcount, List.replicate_one]
    refine h.inside hlock hs hlock (put_frames _ _) rfl (List.append_nil _).symm
      (List.append_nil _).symm ?_
    rw [hone]
    rfl
  | telling m rest =>
    have hlock := hsound.lock hs rfl
    cases rest with
    | nil =>
      obtain rfl := Option.some.inj ha
      exact h.turn rfl rfl rfl (owed_put_of_nil (hold rfl) rfl)
    | cons x rest =>
      obtain rfl := Option.some.inj ha
      refine h.inside hlock hs hlock (put_frames _ _) rfl (seenBy_append rfl)
        (List.append_nil _).symm ?_
      by_cases hx : x.1 = id
      · simp [Stage.owed, hx, List.replicate_succ]
      · simp [Stage.owed, hx]
  | told =>
    obtain rfl := Option.some.inj ha
    refine h.turn rfl rfl rfl ?_
    rw [owed_of_lock (hsound.lock hs rfl) hs]
    rfl
  | rejected e =>
    obtain rfl := Option.some.inj ha
    exact h.turn rfl rfl rfl (owed_put_of_nil (hold rfl) rfl)
  | reporting e rest =>
    cases rest with
    | nil =>
      obtain rfl := Option.some.inj ha
      exact h.turn rfl rfl rfl (owed_put_of_nil (hold rfl) rfl)
    | cons x rest =>
      obtain rfl := Option.some.inj ha
      obtain ⟨hevent, hrest⟩ := hsound.aside caller e _ hs
      have hne : x.1 ≠ id := fun heq =>
        hevent ((hrest x List.mem_cons_self).symm.trans (heq ▸ hkind))
      refine h.turn rfl ?_ rfl (owed_put_of_nil (hold rfl) rfl)
      exact (seenBy_append rfl).trans (by rw [if_neg hne, List.append_nil])

theorem Tells.act (h : Tells id s) (hsound : Sound capacity fed s) (hkind : id.kind = .data)
    {a : Act M H} (hremoves : a.removes id = false) (hs : act decode s a = some s') :
    Tells id s' := by
  have hcome {c size : Nat} {stage : Stage M H} (hnil : stage.owed id = [])
      (hc : s.come c size stage = some s') : Tells id s' := by
    obtain ⟨hnone, rfl⟩ := come_eq_some hc
    exact h.turn rfl rfl rfl (owed_put_of_nil (by rw [hnone]; rfl) hnil)
  cases a with
  | feed c frame =>
    simp only [Feeding.act] at hs
    cases hd : decode frame <;> rw [hd] at hs <;> exact hcome rfl hs
  | garbled c size => exact hcome rfl hs
  | emit c e =>
    simp only [Feeding.act] at hs
    cases hframe : s.frames c with
    | some stage =>
      rw [hframe] at hs
      cases hs
    | none =>
      rw [hframe] at hs
      dsimp only at hs
      split at hs
      · cases hs
      · obtain rfl := Option.some.inj hs
        exact h.turn rfl rfl rfl (owed_put_of_nil (by rw [hframe]; rfl) rfl)
  | goOn c now =>
    obtain ⟨stage, hstage, ha⟩ := Option.bind_eq_some_iff.mp hs
    exact h.advance hsound hkind hstage ha
  | call c =>
    obtain ⟨⟨⟨r, own⟩, reply⟩, hr, rfl⟩ := Option.map_eq_some_iff.mp hs
    obtain ⟨hregistry, -⟩ := perform_call hr
    refine ⟨?_, h.told⟩
    have hmem : id ∈ (s.reader.registry.after c).entries.map (·.1) :=
      Registry.mem_after h.registered (by rintro rfl; simp [Act.removes] at hremoves)
        (by rintro rfl; simp [Act.removes] at hremoves)
    exact hregistry ▸ hmem
  | elsewhere session generation tasks stats executor =>
    obtain rfl := Option.some.inj hs
    exact ⟨h.registered, h.told⟩

theorem Tells.run {acts : List (Act M H)} (h : Tells id s) (hsound : Sound capacity fed s)
    (hkind : id.kind = .data) (hremoves : ∀ a ∈ acts, a.removes id = false)
    (hs : run decode s acts = some s') : Tells id s' :=
  run_keeps (fun h hsound _ ha hs => h.act hsound hkind ha hs) hsound h hremoves hs

/-- No frame has come so far. -/
structure Unfed (s : Feeding M H) : Prop where
  entered : s.entered = []
  seen : ∀ x ∈ s.seen, x.1.kind ≠ .data
  frames : ∀ c, ∀ stage ∈ s.frames c, ∃ e rest, stage = .reporting e rest

theorem unfed_idle (name : String) (config : Config) : Unfed (idle name config : Feeding M H) where
  entered := rfl
  seen x hx := by cases hx
  frames c stage hs := by cases hs

theorem Unfed.put (h : Unfed s) (hframes : s'.frames = s.frames) (hentered : s'.entered = s.entered)
    (hseen : ∀ x ∈ s'.seen, x.1.kind ≠ .data)
    (hframe : ∀ stage ∈ frame, ∃ e rest, stage = .reporting e rest) :
    Unfed (s'.put caller frame) where
  entered := hentered.trans h.entered
  seen := hseen
  frames c stage hs := by
    by_cases hc : c = caller
    · subst hc
      exact hframe stage (by simpa [Feeding.put] using hs)
    · exact h.frames c stage (by simpa [Feeding.put, hc, hframes] using hs)

theorem Unfed.act (h : Unfed s) (hsound : Sound capacity fed s) {a : Act M H}
    (hframe : a.isFrame = false) (hs : act decode s a = some s') : Unfed s' := by
  cases a with
  | feed c frame | garbled c size => cases hframe
  | emit c e =>
    simp only [Feeding.act] at hs
    cases hc : s.frames c with
    | some stage =>
      rw [hc] at hs
      cases hs
    | none =>
      rw [hc] at hs
      dsimp only at hs
      split at hs
      · cases hs
      · obtain rfl := Option.some.inj hs
        exact h.put rfl rfl h.seen (by rintro _ ⟨⟩; exact ⟨_, _, rfl⟩)
  | goOn c now =>
    obtain ⟨stage, hstage, ha⟩ := Option.bind_eq_some_iff.mp hs
    obtain ⟨e, rest, rfl⟩ := h.frames c stage hstage
    cases rest with
    | nil =>
      obtain rfl := Option.some.inj ha
      exact h.put rfl rfl h.seen nofun
    | cons x rest =>
      obtain rfl := Option.some.inj ha
      obtain ⟨hevent, hrest⟩ := hsound.aside c e _ hstage
      refine h.put rfl rfl (fun y hy => ?_) (by rintro _ ⟨⟩; exact ⟨_, _, rfl⟩)
      rcases List.mem_append.mp hy with hy | hy
      · exact h.seen y hy
      · rw [List.mem_singleton.mp hy, hrest x List.mem_cons_self]
        exact hevent
  | call c =>
    obtain ⟨r, -, rfl⟩ := Option.map_eq_some_iff.mp hs
    exact ⟨h.entered, h.seen, h.frames⟩
  | elsewhere session generation tasks stats executor =>
    obtain rfl := Option.some.inj hs
    exact ⟨h.entered, h.seen, h.frames⟩

theorem Unfed.run {acts : List (Act M H)} (h : Unfed s) (hsound : Sound capacity fed s)
    (hframe : ∀ a ∈ acts, a.isFrame = false) (hs : run decode s acts = some s') : Unfed s' :=
  run_keeps (fun h hsound _ ha hs => h.act hsound ha hs) hsound h hframe hs

/-- Before the first frame there is nothing to be told. -/
theorem Unfed.tells (h : Unfed s) (hkind : id.kind = .data)
    (hid : id ∈ s.reader.registry.entries.map (·.1)) : Tells id s := by
  refine ⟨hid, ?_⟩
  have hseen : s.seenBy id = [] := by
    have hnone : s.seen.filter (·.1 == id) = [] :=
      List.filter_eq_nil_iff.mpr fun x hx heq => h.seen x hx (by rw [eq_of_beq heq, hkind])
    rw [seenBy, hnone, List.map_nil]
  have howed : s.owed id = [] := by
    cases hs : s.lock.bind s.frames with
    | none => rw [owed, hs, Option.elim_none]
    | some stage =>
      obtain ⟨c, -, hc⟩ := Option.bind_eq_some_iff.mp hs
      obtain ⟨e, rest, rfl⟩ := h.frames c stage hc
      rw [owed, hs]
      rfl
  rw [hseen, howed, messages, h.entered]
  rfl

theorem acceptedBy_of_no_frame {acts : List (Act M H)} (h : ∀ a ∈ acts, a.isFrame = false)
    (c : Nat) : acceptedBy decode c acts = [] := by
  refine List.filterMap_eq_nil_iff.mpr fun a ha => ?_
  cases a with
  | feed c frame => cases h _ ha
  | garbled | emit | goOn | call | elsewhere => rfl

theorem Quiet.owed (h : s.Quiet) (id : SubscriptionId) : s.owed id = [] := by
  cases hs : s.lock.bind s.frames with
  | none => rw [Feeding.owed, hs, Option.elim_none]
  | some stage =>
    obtain ⟨c, -, hc⟩ := Option.bind_eq_some_iff.mp hs
    have hb := h c stage hc
    rw [Feeding.owed, hs]
    cases stage with
    | kept m | telling m rest => cases hb
    | waiting m | locked m | told | rejected e | reporting e rest => rfl

/-- However the frames of any number of callers and all that is done to the reader in between fall
together: the buffer is the last messages that entered it, those of one caller entered in its own
order, and a subscriber that was there before the first frame and stays has been told of each once,
in the order in which they entered, whenever no frame is between its entry and the release. -/
theorem frames_told_in_buffer_order (decode : String → Except Json.DecodeError M) (name : String)
    (config : Config) {before after : List (Act M H)} {s₀ s : Feeding M H}
    (hbefore : run decode (idle name config) before = some s₀)
    (hfirst : ∀ a ∈ before, a.isFrame = false) (hafter : run decode s₀ after = some s)
    (hquiet : s.Quiet) :
    s.reader.recent = s.messages.rtake config.bufferLength.toNat ∧
      (∀ caller, s.enteredBy caller ++ s.aheadOf caller = acceptedBy decode caller after) ∧
      ∀ id ∈ s₀.reader.registry.entries.map (·.1), id.kind = .data →
        (∀ a ∈ after, a.removes id = false) → s.seenBy id = s.messages.map .data := by
  have hsound₀ := (sound_idle name config).run hbefore
  have hunfed := (unfed_idle name config).run (sound_idle name config) hfirst hbefore
  have hsound := hsound₀.run hafter
  refine ⟨hsound.buffer.history, fun caller => ?_, fun id hid hkind hremoves => ?_⟩
  · rw [hsound.order caller, acceptedBy_of_no_frame hfirst caller]
    rfl
  · have ht := ((hunfed.tells hkind hid).run hsound₀ hkind hremoves hafter).told
    rwa [hquiet.owed id, List.map_nil, List.append_nil] at ht

/-- Every frame but "x" is a message. -/
def plain (frame : String) : Except Json.DecodeError String :=
  if frame = "x" then .error .encoding else .ok frame

def crossing : List (Act String Unit) :=
  [.feed 1 "a", .feed 2 "b", .goOn 2 0, .feed 3 "x", .goOn 2 0, .goOn 3 0, .goOn 2 0, .goOn 3 0,
    .goOn 2 0, .goOn 2 1, .goOn 2 1] ++ List.replicate 6 (.goOn 1 2)

theorem crossing_told_in_buffer_order :
    ∃ s₀ s, run plain (idle "proxy" { bufferLength := 1 }) [.call (.subscribe .data ())] = some s₀ ∧
      run plain s₀ crossing = some s ∧ s.Quiet ∧ s.messages = ["b", "a"] ∧
      s.reader.recent = s.messages.rtake 1 ∧
      (∀ caller, s.enteredBy caller ++ s.aheadOf caller = acceptedBy plain caller crossing) ∧
      s.seenBy ⟨.data, 1⟩ = s.messages.map .data := by
  obtain ⟨s₀, s, hbefore, hid, hafter, hframes, hmessages⟩ : ∃ s₀ s,
      run plain (idle "proxy" { bufferLength := 1 }) [.call (.subscribe .data ())] = some s₀ ∧
      s₀.reader.registry.entries.map (·.1) = [⟨.data, 1⟩] ∧ run plain s₀ crossing = some s ∧
      (∀ caller, s.frames caller = none) ∧ s.messages = ["b", "a"] := by
    refine ⟨_, _, rfl, rfl, rfl, fun caller => ?_, rfl⟩
    by_cases h₁ : caller = 1
    · subst h₁
      rfl
    · by_cases h₂ : caller = 2
      · subst h₂
        rfl
      · by_cases h₃ : caller = 3
        · subst h₃
          rfl
        · simp [Feeding.put, idle, h₁, h₂, h₃]
  have hquiet : s.Quiet := fun caller stage hs => nomatch (hframes caller).symm.trans hs
  obtain ⟨hbuffer, horder, htold⟩ := frames_told_in_buffer_order plain "proxy" { bufferLength := 1 }
    hbefore (by simp [Act.isFrame]) hafter hquiet
  exact ⟨s₀, s, hbefore, hafter, hquiet, hmessages, hbuffer, horder,
    htold _ (by simp [hid]) rfl (by decide)⟩

end Feeding

end Reader

end TrafficWatch.Stream
