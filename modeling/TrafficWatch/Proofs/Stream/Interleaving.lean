import Mathlib.Data.List.Basic
import TrafficWatch.Proofs.Stream.Projection

/-!
A reader under any interleaving of calls and task steps, and the same run with a trace: which task
told the subscribers of what, under which generation, and which calls put an end to sessions. The
trace is beside the run and does not change it.
-/

namespace TrafficWatch.Stream

variable {C R M H W T : Type}

namespace Script

/-- The same program over a state that holds something beside its own. -/
def beside : Script C R W → Script C R (W × T)
  | .done => .done
  | .look k => .look fun w => (k w.1).beside
  | .note f k => .note (fun w => (f w.1, w.2)) k.beside
  | .call c k => .call c fun r => (k r).beside

variable {S S' : Type} {own' : S' → W × T} {change' : (W × T → W × T) → S' → S'}
  {make : C → S' → Option (S' × R)}

/-- Calls that do the same without what is beside it make programs do the same without it. -/
theorem map_exec_beside (plain : S' → S) {own : S → W} {change : (W → W) → S → S}
    {perform : C → S → Option (S × R)} (hown : ∀ s, (own' s).1 = own (plain s))
    (hchange : ∀ f s, plain (change' (fun w => (f w.1, w.2)) s) = change f (plain s))
    (hcall : ∀ c s, (make c s).map (fun r => (plain r.1, r.2)) = perform c (plain s))
    (p : Script C R W) (s : S') :
    (exec own' change' make p.beside s).map plain = exec own change perform p (plain s) := by
  induction p generalizing s with
  | done => rfl
  | look k ih =>
    simp only [beside, exec, hown]
    exact ih _ s
  | note f k ih =>
    simp only [beside, exec, ← hchange]
    exact ih _
  | call c k ih =>
    simp only [beside, exec]
    rw [← hcall c s]
    cases make c s with
    | none => rfl
    | some r => exact ih r.2 r.1

/-- A property that neither calls nor notes put an end to, a program does not either. -/
theorem exec_beside_keeps {I : S' → Prop}
    (note : ∀ {s} (f : W → W), I s → I (change' (fun w => (f w.1, w.2)) s))
    (call : ∀ {c s s' r}, I s → make c s = some (s', r) → I s') (p : Script C R W) {s s' : S'}
    (h : I s) (he : exec own' change' make p.beside s = some s') : I s' := by
  induction p generalizing s with
  | done =>
    obtain rfl := Option.some.inj he
    exact h
  | look k ih => exact ih _ h he
  | note f k ih => exact ih (note f h) he
  | call c k ih =>
    obtain ⟨⟨s₁, r⟩, h₁, h₂⟩ := Option.bind_eq_some_iff.mp he
    exact ih r (call h h₁) h₂

/-- Calls that have a result keep it, and so do programs of them. -/
theorem exec_of_exec {own : S → W} {change : (W → W) → S → S}
    {perform further : C → S → Option (S × R)}
    (h : ∀ {c s r}, perform c s = some r → further c s = some r) (p : Script C R W) {s s' : S}
    (he : exec own change perform p s = some s') : exec own change further p s = some s' := by
  induction p generalizing s with
  | done => exact he
  | look k ih => exact ih _ he
  | note f k ih => exact ih he
  | call c k ih =>
    obtain ⟨⟨s₁, r⟩, h₁, h₂⟩ := Option.bind_eq_some_iff.mp he
    exact Option.bind_eq_some_iff.mpr ⟨(s₁, r), h h₁, ih r h₂⟩

end Script

def Behaviour.beside (b : Behaviour M H (Reader.Program H W)) :
    Behaviour M H (Reader.Program H (W × T)) where
  decode := b.decode
  respond h e := (b.respond h e).beside

namespace Reader

/-- What may happen to a reader next. A task that has been aborted may still take a step here, which
only adds to the runs. -/
inductive Move (H W : Type) where
  | program (p : Program H W)
  | step (generation : Nat) (jitter : Rat) (w : Wake)

variable (b : Behaviour M H (Program H W)) (depth : Nat)

def move (now : Nat) (m : Move H W) (s : State M H W) : Option (State M H W) :=
  match m with
  | .program p => exec b now (dispatch b now depth) p s
  | .step g jitter w =>
    match s.reader.task? g with
    | none => some s
    | some t => step b now depth jitter t w s

/-- Moves one after the other, each at its time. -/
def run (moves : List (Nat × Move H W)) (s : State M H W) : Option (State M H W) :=
  moves.foldlM (fun s m => move b depth m.1 m.2 s) s

/-- Calls that have the same effect on the reader as without what is beside it. -/
theorem plain_exec_beside {d : Dispatch M H W} (now : Nat)
    {make : Call H → State M H (W × T) → Option (State M H (W × T) × Reply)}
    (h : ∀ c s, (make c s).map (fun r => (r.1.plain, r.2)) = perform b now d c s.plain)
    (p : Program H W) (s : State M H (W × T)) :
    (Script.exec (·.own) (fun f s => { s with own := f s.own }) make p.beside s).map State.plain =
      exec b now d p s.plain := by
  unfold exec
  exact Script.map_exec_beside State.plain (fun _ => rfl) (fun _ _ => rfl) h p s

theorem exec_beside_keeps {I : State M H (W × T) → Prop}
    {make : Call H → State M H (W × T) → Option (State M H (W × T) × Reply)}
    (own : ∀ {s} w, I s → I { s with own := (w, s.own.2) })
    (call : ∀ {c s s' r}, I s → make c s = some (s', r) → I s') (p : Program H W)
    {s s' : State M H (W × T)} (h : I s)
    (he : Script.exec (·.own) (fun f s => { s with own := f s.own }) make p.beside s = some s') :
    I s' :=
  Script.exec_beside_keeps (fun {s} f h => own (f s.own.1) h) call p h he

inductive Mark (M : Type) where
  /-- A task began to tell the subscribers of an event, under the generation that was current. -/
  | told (task : Nat) (event : Event M) (current : Nat)
  /-- A call put an end to the sessions of the tasks there were. -/
  | superseded (tasks : List Nat)

abbrev Traced (M H W : Type) := State M H (W × List (Mark M))

namespace Traced

def plain (s : Traced M H W) : State M H W := ⟨s.reader, s.own.1⟩

def trace (s : Traced M H W) : List (Mark M) := s.own.2

def mark (s : Traced M H W) (m : Mark M) : Traced M H W :=
  { s with own := (s.own.1, s.own.2 ++ [m]) }

def supersede (s : Traced M H W) : Traced M H W :=
  s.mark (.superseded (s.reader.tasks.map (·.generation)))

/-- A connect that finds the reader active with the address leaves the session alone. -/
def announce (c : Call H) (s : Traced M H W) : Traced M H W :=
  match c with
  | .connect address =>
    if (s.reader.connect address).generation = s.reader.generation then s else s.supersede
  | .destroy => s.supersede
  | _ => s

def perform (now : Nat) (d : Dispatch M H (W × List (Mark M))) (c : Call H) (s : Traced M H W) :
    Option (Traced M H W × Reply) :=
  Reader.perform b.beside now d c (s.announce c)

def exec (now : Nat) (d : Dispatch M H (W × List (Mark M))) (p : Program H W) (s : Traced M H W) :
    Option (Traced M H W) :=
  Script.exec (·.own) (fun f s => { s with own := f s.own }) (perform b now d) p.beside s

def dispatch (now : Nat) : Nat → Dispatch M H (W × List (Mark M))
  | 0, _, _ => none
  | depth + 1, e, s =>
    (s.reader.registry.handlers e.kind).foldlM
      (fun s h => exec b now (dispatch now depth) (b.respond h e) s) s

/-- A task's dispatches are noted as they begin. -/
def tell (now : Nat) (task : Nat) : Dispatch M H (W × List (Mark M)) := fun e s =>
  dispatch b now depth e (Traced.mark s (.told task e s.reader.generation))

def move (now : Nat) (m : Move H W) (s : Traced M H W) : Option (Traced M H W) :=
  match m with
  | .program p => exec b now (dispatch b now depth) p s
  | .step g jitter w =>
    match s.reader.task? g with
    | none => some s
    | some t => resume b.beside now (tell b depth now g) jitter t w s

def run (moves : List (Nat × Move H W)) (s : Traced M H W) : Option (Traced M H W) :=
  moves.foldlM (fun s m => move b depth m.1 m.2 s) s

/-! What a traced run does is what the run does. -/

/-- A dispatch that keeps a trace, and the dispatch it stands for. -/
def Shadows (d' : Dispatch M H (W × List (Mark M))) (d : Dispatch M H W) : Prop :=
  ∀ e (s : Traced M H W), (d' e s).map plain = d e s.plain

variable (now : Nat) {d' : Dispatch M H (W × List (Mark M))} {d : Dispatch M H W}

theorem plain_announce (c : Call H) (s : Traced M H W) : (s.announce c).plain = s.plain := by
  unfold announce
  split
  · split <;> rfl
  · rfl
  · rfl

theorem Shadows.projects (h : Shadows d' d) : Projects d' d := h

theorem Shadows.perform (h : Shadows d' d) (c : Call H) (s : Traced M H W) :
    (perform b now d' c s).map (fun r => (Traced.plain r.1, r.2)) =
      Reader.perform b now d c s.plain := by
  unfold Traced.perform
  rw [← plain_announce c s]
  exact h.projects.perform now (s.announce c) rfl c

theorem Shadows.exec (h : Shadows d' d) (p : Program H W) (s : Traced M H W) :
    (exec b now d' p s).map plain = Reader.exec b now d p s.plain :=
  plain_exec_beside b now (h.perform b now) p s

theorem shadows_dispatch (depth : Nat) :
    Shadows (dispatch b now depth) (Reader.dispatch b now depth) :=
  projects_rounds now (fun d h e => Traced.exec b now d (b.respond h e)) (fun _ _ => rfl)
    (fun _ _ _ => rfl) (fun _ _ (hd : Shadows _ _) h e => hd.exec b now (b.respond h e)) depth

theorem shadows_tell (task : Nat) :
    Shadows (tell b depth now task) (Reader.dispatch b now depth) :=
  fun e s => shadows_dispatch b now depth e (s.mark (.told task e s.reader.generation))

theorem plain_move (m : Move H W) (s : Traced M H W) :
    (move b depth now m s).map plain = Reader.move b depth now m s.plain := by
  cases m with
  | program p => exact (shadows_dispatch b now depth).exec b now p s
  | step g jitter w =>
    simp only [Traced.move, Reader.move, plain]
    cases s.reader.task? g with
    | none => rfl
    | some t => exact (shadows_tell b depth now g).projects.resume now jitter s rfl t w

theorem plain_run (moves : List (Nat × Move H W)) (s : Traced M H W) :
    (run b depth moves s).map plain = Reader.run b depth moves s.plain := by
  refine foldlM_map_plain s ?_ moves
  exact fun m s => plain_move b depth m.1 m.2 s

end Traced

end Reader

end TrafficWatch.Stream
