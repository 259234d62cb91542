import Mathlib.Data.List.Nodup
import TrafficWatch.Proofs.Stream.ConcurrentCalls

/-!
The session of a reader is what the calls on it have asked for, between the calls and inside the
handlers that make them. A run is told with a log of its calls, each with the reader that it found;
the log is beside the run and does not change it.
-/

namespace TrafficWatch.Stream.Reader

variable {M H W : Type}

/-- What a call asks the session to be, if it is about the session at all. -/
def Call.session? : Call H → Option (Option String)
  | .connect address => some (some address)
  | .destroy => some none
  | _ => none

/-- What the last connect or destroy asked for. -/
def lastAsked (calls : List (Call H)) : Option (Option String) :=
  (calls.filterMap Call.session?).getLast?

/-- A call, with the reader that it found. -/
structure Made (M H : Type) where
  call : Call H
  reader : Reader M H

abbrev Logged (M H W : Type) := State M H (W × List (Made M H))

/-- A task that came to open its transport. -/
structure Opens (r r' : Reader M H) (t : Task) : Prop where
  mem : t ∈ r'.tasks
  opening : t.phase = .opening
  before : ∀ t₀ ∈ r.tasks, t₀.generation = t.generation → t₀.phase ≠ .opening

/-- A reader whose session is the one that these calls have asked for. -/
structure Follows (r : Reader M H) (calls : List (Call H)) : Prop where
  address : ∀ a, r.session.address = some a ↔ lastAsked calls = some (some a)
  active : r.isActive = true ↔ ∃ a, r.session.address = some a
  /-- The task of the session is the current one, and has not ended. -/
  task : ∀ g, r.session.task = some g → r.isCurrent g = true ∧
    ∃ t, r.task? g = some t ∧ t.phase ≠ .finished ∧ t.aborted = false
  again : ∀ a, r.session.address = some a → r.connect a = r
  /-- To connect elsewhere leaves one task that goes on. -/
  instead : ∀ a, r.session.address ≠ some a → ∃ t, (r.connect a).tasks.filter (! ·.aborted) = [t] ∧
    t.address = a ∧ (r.connect a).session = ⟨some a, some t.generation⟩ ∧
    (r.connect a).isCurrent t.generation = true
  /-- A second destroy takes a generation and does nothing else. -/
  twice : calls.getLast? = some .destroy → r.destroy = r.supersede

namespace Logged

def log (s : Logged M H W) : List (Made M H) := s.own.2

def calls (s : Logged M H W) : List (Call H) := s.log.map (·.call)

def note (c : Call H) (s : Logged M H W) : Logged M H W :=
  { s with own := (s.own.1, s.own.2 ++ [⟨c, s.reader⟩]) }

variable (b : Behaviour M H (Program H W)) (depth : Nat)

def perform (now : Nat) (d : Dispatch M H (W × List (Made M H))) (c : Call H) (s : Logged M H W) :
    Option (Logged M H W × Reply) :=
  Reader.perform b.beside now d c (s.note c)

def exec (now : Nat) (d : Dispatch M H (W × List (Made M H))) (p : Program H W)
    (s : Logged M H W) : Option (Logged M H W) :=
  Script.exec (·.own) (fun f s => { s with own := f s.own }) (perform b now d) p.beside s

def dispatch (now : Nat) : Nat → Dispatch M H (W × List (Made M H))
  | 0, _, _ => none
  | depth + 1, e, s =>
    (s.reader.registry.handlers e.kind).foldlM
      (fun s h => exec b now (dispatch now depth) (b.respond h e) s) s

def move (now : Nat) (m : Move H W) (s : Logged M H W) : Option (Logged M H W) :=
  match m with
  | .program p => exec b now (dispatch b now depth) p s
  | .step g jitter w =>
    match s.reader.task? g with
    | none => some s
    | some t => resume b.beside now (dispatch b now depth) jitter t w s

def run (moves : List (Nat × Move H W)) (s : Logged M H W) : Option (Logged M H W) :=
  moves.foldlM (fun s m => move b depth m.1 m.2 s) s

/-! What a logged run does is what the run does. -/

variable (now : Nat) {d' : Dispatch M H (W × List (Made M H))} {d : Dispatch M H W}

theorem plain_exec (h : Projects d' d) (p : Program H W) (s : Logged M H W) :
    (exec b now d' p s).map State.plain = Reader.exec b now d p s.plain :=
  plain_exec_beside b now (fun c s => h.perform now (Logged.note c s) rfl c) p s

theorem plain_dispatch (depth : Nat) :
    Projects (dispatch b now depth) (Reader.dispatch b now depth) :=
  projects_rounds now (fun d h e => exec b now d (b.respond h e)) (fun _ _ => rfl)
    (fun _ _ _ => rfl) (fun _ _ hd h e => plain_exec b now hd (b.respond h e)) depth

theorem plain_move (m : Move H W) (s : Logged M H W) :
    (move b depth now m s).map State.plain = Reader.move b depth now m s.plain := by
  cases m with
  | program p => exact plain_exec b now (plain_dispatch b now depth) p s
  | step g jitter w =>
    simp only [Logged.move, Reader.move, State.plain]
    cases s.reader.task? g with
    | none => rfl
    | some t => exact (plain_dispatch b now depth).resume now jitter s rfl t w

theorem plain_run (moves : List (Nat × Move H W)) (s : Logged M H W) :
    (run b depth moves s).map State.plain = Reader.run b depth moves s.plain := by
  refine foldlM_map_plain s ?_ moves
  exact fun m s => plain_move b depth m.1 m.2 s

end Logged

/-! The session between any two calls and steps. -/

/-- The session has a task: the current one, which goes on. -/
structure Served (r : Reader M H) (t : Task) : Prop where
  mem : t ∈ r.tasks
  session : r.session = ⟨some t.address, some t.generation⟩
  current : t.generation = r.generation
  unfinished : t.phase ≠ .finished
  kept : t.aborted = false

/-- There is no session, and all tasks are behind. -/
structure Vacant (r : Reader M H) : Prop where
  session : r.session = {}
  behind : ∀ t ∈ r.tasks, t.generation < r.generation

structure Consistent (r : Reader M H) (calls : List (Call H)) : Prop where
  executor : r.executor = true
  bounded : ∀ t ∈ r.tasks, t.generation ≤ r.generation
  distinct : (r.tasks.map (·.generation)).Nodup
  others : ∀ t ∈ r.tasks, r.session.task ≠ some t.generation → t.aborted = true
  session : (r.Vacant ∧ (lastAsked calls).join = none) ∨
    ∃ t, r.Served t ∧ lastAsked calls = some (some t.address)
  left : calls.getLast? = some .destroy → r.registry.entries = []

theorem lastAsked_append (calls : List (Call H)) (c : Call H) :
    lastAsked (calls ++ [c]) = c.session?.or (lastAsked calls) := by
  cases h : c.session? <;> simp [lastAsked, h]

theorem task?_of_mem {r : Reader M H} (hd : (r.tasks.map (·.generation)).Nodup) {t : Task}
    (ht : t ∈ r.tasks) : r.task? t.generation = some t := by
  obtain ⟨t₀, h₀⟩ : ∃ t₀, r.task? t.generation = some t₀ :=
    Option.isSome_iff_exists.mp (List.find?_isSome.mpr ⟨t, ht, beq_self_eq_true _⟩)
  have hg : t₀.generation = t.generation := by simpa using List.find?_some h₀
  rw [h₀, List.inj_on_of_nodup_map hd (List.mem_of_find?_eq_some h₀) ht hg]

namespace Consistent

variable {r : Reader M H} {calls : List (Call H)}

theorem served (h : r.Consistent calls) {a : String} (ha : r.session.address = some a) :
    ∃ t, r.Served t ∧ t.address = a ∧ lastAsked calls = some (some a) := by
  rcases h.session with ⟨hv, -⟩ | ⟨t, ht, hl⟩
  · rw [hv.session] at ha
    cases ha
  · rw [ht.session] at ha
    obtain rfl := Option.some.inj ha
    exact ⟨t, ht, rfl, hl⟩

theorem address (h : r.Consistent calls) (a : String) :
    r.session.address = some a ↔ lastAsked calls = some (some a) := by
  refine ⟨fun ha => (h.served ha).choose_spec.2.2, fun hl => ?_⟩
  rcases h.session with ⟨-, hn⟩ | ⟨t, ht, hl'⟩
  · rw [hl] at hn
    cases hn
  · rw [ht.session, Option.some.inj (Option.some.inj (hl'.symm.trans hl))]

theorem isActive_of_served (h : r.Consistent calls) {t : Task} (ht : r.Served t) :
    r.isActive = true := by
  have hs : r.session.task = some t.generation := by rw [ht.session]
  simpa [isActive, hs, task?_of_mem h.distinct ht.mem] using ht.unfinished

theorem active (h : r.Consistent calls) :
    r.isActive = true ↔ ∃ a, r.session.address = some a := by
  constructor
  · intro ha
    rcases h.session with ⟨hv, -⟩ | ⟨t, ht, -⟩
    · simp [isActive, hv.session] at ha
    · exact ⟨t.address, by rw [ht.session]⟩
  · rintro ⟨a, ha⟩
    obtain ⟨t, ht, -⟩ := h.served ha
    exact h.isActive_of_served ht

theorem task (h : r.Consistent calls) {g : Nat} (hg : r.session.task = some g) :
    r.isCurrent g = true ∧ ∃ t, r.task? g = some t ∧ t.phase ≠ .finished ∧ t.aborted = false := by
  rcases h.session with ⟨hv, -⟩ | ⟨t, ht, -⟩
  · rw [hv.session] at hg
    cases hg
  · rw [ht.session] at hg
    obtain rfl := Option.some.inj hg
    exact ⟨by simp [isCurrent, ht.current], t, task?_of_mem h.distinct ht.mem, ht.unfinished, ht.kept⟩

theorem again (h : r.Consistent calls) {a : String} (ha : r.session.address = some a) :
    r.connect a = r := by
  have hactive := h.active.mpr ⟨a, ha⟩
  simp [connect, h.executor, hactive, ha]

theorem connect_of_ne (h : r.Consistent calls) {a : String} (ha : r.session.address ≠ some a) :
    r.connect a = (r.abort r.session.task).start a := by
  simp [connect, h.executor, ha]

/-- A call that takes the session from its task leaves no task that goes on. -/
theorem aborted (h : r.Consistent calls) {t : Task} (ht : t ∈ (r.abort r.session.task).tasks) :
    t.aborted = true := by
  obtain ⟨t₀, ht₀, heq, ha⟩ := (Shared.onward_abort r r.session.task).aborted t ht
  by_cases hs : r.session.task = some t.generation
  · exact Shared.aborted_of_abort r (hs ▸ ht)
  · exact ha (h.others t₀ ht₀ (heq ▸ hs))

theorem instead (h : r.Consistent calls) {a : String} (ha : r.session.address ≠ some a) :
    ∃ t, (r.connect a).tasks.filter (! ·.aborted) = [t] ∧ t.address = a ∧
      (r.connect a).session = ⟨some a, some t.generation⟩ ∧
      (r.connect a).isCurrent t.generation = true := by
  rw [h.connect_of_ne ha]
  let t : Task :=
    ⟨(r.abort r.session.task).generation + 1, a, (r.abort r.session.task).config.backoff, false,
      .ready, false⟩
  refine ⟨t, ?_, rfl, rfl, by simp [t, isCurrent, start]⟩
  have hold : (r.abort r.session.task).tasks.filter (! ·.aborted) = [] :=
    List.filter_eq_nil_iff.mpr fun t ht => by simp [h.aborted ht]
  simp [t, start, List.filter_append, hold]

theorem vacant (h : r.Consistent calls) (hl : (lastAsked calls).join = none) : r.Vacant := by
  rcases h.session with ⟨hv, -⟩ | ⟨t, -, ht⟩
  · exact hv
  · rw [ht] at hl
    cases hl

theorem twice (h : r.Consistent calls) (hl : calls.getLast? = some .destroy) :
    r.destroy = r.supersede := by
  obtain ⟨before, rfl⟩ := List.getLast?_eq_some_iff.mp hl
  have hv : r.session = {} := (h.vacant (by rw [lastAsked_append]; rfl)).session
  have hr : r.registry.clear = r.registry :=
    congrArg (Registry.mk · r.registry.nextNumber) (h.left hl).symm
  have hs : { r.supersede with session := {}, registry := r.registry.clear } = r.supersede := by
    rw [hr, ← hv]
    rfl
  simpa [destroy, hv, abort, leaveSession, dropSubscriptions, supersede] using hs

theorem follows (h : r.Consistent calls) : r.Follows calls where
  address := h.address
  active := h.active
  task _ := h.task
  again _ := h.again
  instead _ := h.instead
  twice := h.twice

/-! What the calls and the steps of tasks keep. -/

theorem updateTask (h : r.Consistent calls) (g : Nat) {f : Task → Task} (hf : Advances f)
    (hfinished : r.isCurrent g = true → ∀ t, (f t).phase ≠ .finished) :
    (r.updateTask g f).Consistent calls := by
  have hsteady := Traced.steady_updateTask r g hf.generation
  have hmem {t : Task} (ht : t ∈ (r.updateTask g f).tasks) :
      ∃ t₀ ∈ r.tasks, t₀.generation = t.generation ∧ t₀.aborted = t.aborted := by
    obtain ⟨t₀, ht₀, rfl⟩ := List.mem_map.mp ht
    refine ⟨t₀, ht₀, ?_⟩
    split
    · exact ⟨(hf.generation t₀).symm, (hf.aborted t₀).symm⟩
    · exact ⟨rfl, rfl⟩
  exact {
    executor := h.executor
    bounded := hsteady.le h.bounded
    distinct := hsteady.tasks ▸ h.distinct
    others := fun t ht hs => by
      obtain ⟨t₀, ht₀, hg, ha⟩ := hmem ht
      exact ha ▸ h.others t₀ ht₀ (hg ▸ hs)
    session := by
      rcases h.session with ⟨hv, hl⟩ | ⟨t, ht, hl⟩
      · refine Or.inl ⟨⟨hv.session, fun t ht => ?_⟩, hl⟩
        obtain ⟨t₀, ht₀, hg, -⟩ := hmem ht
        exact hg ▸ hv.behind t₀ ht₀
      · refine Or.inr ⟨if t.generation = g then f t else t, ?_⟩
        have hm := List.mem_map_of_mem (f := fun t => if t.generation = g then f t else t) ht.mem
        split at hm
        · next hg =>
          have hc : r.isCurrent g = true := by simp [isCurrent, ← hg, ht.current]
          rw [if_pos hg]
          refine ⟨⟨hm, ?_, (hf.generation t).trans ht.current, hfinished hc t,
            (hf.aborted t).trans ht.kept⟩, by rw [hl, hf.address]⟩
          rw [hf.address, hf.generation]
          exact ht.session
        · next hg =>
          rw [if_neg hg]
          exact ⟨⟨hm, ht.session, ht.current, ht.unfinished, ht.kept⟩, hl⟩
    left := h.left }

theorem frame (h : r.Consistent calls) {calls' : List (Call H)}
    (hasked : lastAsked calls' = lastAsked calls) {registry : Registry H}
    (hleft : calls'.getLast? = some .destroy → registry.entries = []) (buffer : Ring M)
    (stats : StreamStats) : Consistent { r with registry, buffer, stats } calls' where
  executor := h.executor
  bounded := h.bounded
  distinct := h.distinct
  others := h.others
  session := by
    rw [hasked]
    rcases h.session with ⟨hv, hl⟩ | ⟨t, ht, hl⟩
    · exact Or.inl ⟨⟨hv.session, hv.behind⟩, hl⟩
    · exact Or.inr ⟨t, ⟨ht.mem, ht.session, ht.current, ht.unfinished, ht.kept⟩, hl⟩
  left := hleft

/-- A call that is not about the session, and any change to the registry that it makes. -/
theorem aside (h : r.Consistent calls) {c : Call H} (hc : c.session? = none)
    (registry : Registry H) : Consistent { r with registry } (calls ++ [c]) := by
  have hasked : lastAsked (calls ++ [c]) = lastAsked calls := by
    rw [lastAsked_append, hc, Option.none_or]
  refine h.frame hasked (fun hl => ?_) r.buffer r.stats
  obtain rfl : c = .destroy := by simpa using hl
  cases hc

theorem destroy (h : r.Consistent calls) : r.destroy.Consistent (calls ++ [.destroy]) := by
  have hr := Shared.onward_abort r.supersede.leaveSession r.session.task
  have hle : ∀ t ∈ r.destroy.tasks, t.generation ≤ r.generation := hr.steady.le h.bounded
  have hg := destroy_generation r
  exact {
    executor := by
      cases ht : r.session.task <;>
        simp [Reader.destroy, ht, supersede, leaveSession, dropSubscriptions, abort,
          Reader.updateTask, h.executor]
    bounded := fun t ht => hg ▸ Nat.le_succ_of_le (hle t ht)
    distinct := hr.steady.tasks ▸ h.distinct
    others := fun t ht _ => by
      have htasks : r.destroy.tasks = (r.abort r.session.task).tasks := by
        cases hs : r.session.task <;> simp [Reader.destroy, hs, supersede, leaveSession,
          dropSubscriptions, abort, Reader.updateTask]
      exact h.aborted (htasks ▸ ht)
    session := by
      refine Or.inl ⟨⟨destroy_session r, fun t ht => hg ▸ Nat.lt_succ_of_le (hle t ht)⟩, ?_⟩
      rw [lastAsked_append]
      rfl
    left := fun _ => rfl }

theorem connect (h : r.Consistent calls) (a : String) :
    (r.connect a).Consistent (calls ++ [.connect a]) := by
  have hl : lastAsked (calls ++ [.connect a]) = some (some a) := lastAsked_append calls _
  by_cases ha : r.session.address = some a
  · obtain ⟨t, ht, rfl, -⟩ := h.served ha
    rw [h.again ha]
    exact ⟨h.executor, h.bounded, h.distinct, h.others, Or.inr ⟨t, ht, hl⟩, by simp⟩
  · rw [h.connect_of_ne ha]
    have hsteady := Traced.steady_abort r r.session.task
    have hold : ∀ t ∈ (r.abort r.session.task).tasks, t.generation ≤ r.generation :=
      hsteady.le h.bounded
    have hg := start_generation r r.session.task a
    exact {
      executor := by
        cases hs : r.session.task <;> simp [start, abort, Reader.updateTask, h.executor]
      bounded := fun t ht => hg ▸ start_tasks_le r r.session.task a h.bounded t ht
      distinct := by
        have hd : ((r.abort r.session.task).tasks.map (·.generation)).Nodup :=
          hsteady.tasks ▸ h.distinct
        have hn : (r.abort r.session.task).generation + 1 ∉
            (r.abort r.session.task).tasks.map (·.generation) := by
          rw [hsteady.generation]
          intro hm
          obtain ⟨t, ht, heq⟩ := List.mem_map.mp hm
          exact Nat.not_succ_le_self _ (heq ▸ hold t ht)
        simpa [start, List.nodup_append] using ⟨hd, by simpa using hn⟩
      others := fun t ht hs => by
        rcases List.mem_append.mp ht with ht | ht
        · exact h.aborted ht
        · rw [List.mem_singleton.mp ht] at hs
          exact absurd rfl hs
      session := Or.inr ⟨_, ⟨List.mem_append_right _ (List.mem_singleton_self _), rfl, rfl, nofun,
        rfl⟩, hl⟩
      left := by simp }

end Consistent

theorem consistent_create (name : String) (config : Config) :
    (create name config : Reader M H).Consistent [] where
  executor := rfl
  bounded := nofun
  distinct := List.nodup_nil
  others := nofun
  session := Or.inl ⟨⟨rfl, nofun⟩, rfl⟩
  left := nofun

/-! The same through a whole run. -/

namespace Logged

/-- What holds whatever the calls, the notes and the steps of tasks. -/
structure Robust (q : Phase → Prop) (I : Logged M H W → Prop) : Prop extends Lasting q I where
  own : ∀ {s} w, I s → I { s with own := (w, s.own.2) }
  registry : ∀ {s} {c : Call H} (registry : Registry H), c.session? = none → I s →
    I (State.on (Logged.note c s) ({ · with registry }))
  connect : ∀ {s} a, I s → I (State.on (Logged.note (.connect a) s) (·.connect a))
  destroy : ∀ {s}, I s → I (State.on (Logged.note .destroy s) Reader.destroy)

section Robust

variable {q : Phase → Prop} {I : Logged M H W → Prop} {b : Behaviour M H (Program H W)} {now : Nat}
variable {d : Dispatch M H (W × List (Made M H))} {s s' : Logged M H W}

theorem Robust.perform (hI : Robust q I) (hd : Keeps I (fun _ => True) d) (h : I s) {c : Call H}
    {r : Reply} (hc : perform b now d c s = some (s', r)) : I s' := by
  cases c with
  | subscribe kind handler | unsubscribe id =>
    obtain ⟨rfl, -⟩ := Prod.mk.inj (Option.some.inj hc)
    exact hI.registry _ rfl h
  | report =>
    obtain ⟨rfl, -⟩ := Prod.mk.inj (Option.some.inj hc)
    exact hI.registry s.reader.registry rfl h
  | connect address =>
    obtain ⟨rfl, -⟩ := Prod.mk.inj (Option.some.inj hc)
    exact hI.connect address h
  | destroy =>
    obtain ⟨rfl, -⟩ := Prod.mk.inj (Option.some.inj hc)
    exact hI.destroy h
  | push frame =>
    obtain ⟨⟨s₁, r₁⟩, h₁, heq⟩ := Option.map_eq_some_iff.mp hc
    cases heq
    have hn : I (Logged.note (.push frame) s) := hI.registry s.reader.registry rfl h
    exact hd.ingest hI.toLasting hn trivial h₁

theorem Robust.exec (hI : Robust q I) (hd : Keeps I (fun _ => True) d) (p : Program H W) (h : I s)
    (he : exec b now d p s = some s') : I s' :=
  exec_beside_keeps hI.own (fun h hc => hI.perform hd h hc) p h he

theorem Robust.dispatch (hI : Robust q I) (depth : Nat) :
    Keeps I (fun _ => True) (dispatch b now depth) :=
  keeps_rounds (fun d h e => Logged.exec b now d (b.respond h e)) (fun _ _ => rfl)
    (fun _ _ _ => rfl) (fun _ hd _ _ _ _ h hs => hI.exec hd _ h hs) depth

end Robust

/-- The session is what the calls have asked for, and was so when each of them was made. -/
structure Told (s : Logged M H W) : Prop where
  now : s.reader.Consistent s.calls
  past : ∀ before m after, s.log = before ++ m :: after →
    m.reader.Consistent (before.map (·.call))

theorem Told.made {s s' : Logged M H W} (h : s.Told) {c : Call H}
    (hlog : s'.log = s.log ++ [⟨c, s.reader⟩])
    (hnow : s'.reader.Consistent (s.calls ++ [c])) : s'.Told where
  now := by simpa [calls, hlog] using hnow
  past before m after heq := by
    rw [hlog] at heq
    rcases List.eq_nil_or_concat after with rfl | ⟨after, m', rfl⟩
    · obtain ⟨rfl, hm⟩ := List.append_inj' heq rfl
      obtain rfl := List.singleton_inj.mp hm
      exact h.now
    · rw [List.concat_eq_append, ← List.cons_append, ← List.append_assoc] at heq
      exact h.past before m after (List.append_inj' heq rfl).1

theorem robust_told : Robust (fun _ => True) (Told : Logged M H W → Prop) where
  aside buffer stats h := ⟨h.now.frame rfl h.now.left buffer stats, h.past⟩
  task g _ hf _ hfinished h := ⟨h.now.updateTask g hf hfinished, h.past⟩
  own _ h := ⟨h.now, h.past⟩
  registry registry hc h := h.made rfl (h.now.aside hc registry)
  connect a h := h.made rfl (h.now.connect a)
  destroy h := h.made rfl h.now.destroy

variable {b : Behaviour M H (Program H W)} {depth now : Nat} {s s' : Logged M H W}

theorem Told.move (h : s.Told) {m : Move H W} (hs : move b depth now m s = some s') : s'.Told := by
  have hd : Keeps Told (fun _ => True) (dispatch b now depth) := robust_told.dispatch depth
  cases m with
  | program p => exact robust_told.exec hd p h hs
  | step g jitter w =>
    simp only [Logged.move] at hs
    cases ht : s.reader.task? g with
    | none =>
      rw [ht] at hs
      obtain rfl := Option.some.inj hs
      exact h
    | some t =>
      rw [ht] at hs
      exact (hd.weaken _).resume robust_told.toLasting (fun _ _ => trivial) (fun _ => trivial) h hs

theorem Told.run (h : s.Told) {moves : List (Nat × Move H W)}
    (hs : run b depth moves s = some s') : s'.Told :=
  foldlM_keeps (fun _ _ _ _ h hs => h.move hs) h hs

/-- No task has come to open its transport since a reader. -/
def Calm (r : Reader M H) (s : Logged M H W) : Prop := ∀ t, ¬ Opens r s.reader t

theorem Calm.tasks {r : Reader M H} (h : Calm r s) {t : Task} (ht : t ∈ s.reader.tasks)
    (hphase : t.phase = .opening) :
    ∃ t₀ ∈ r.tasks, t₀.generation = t.generation ∧ t₀.phase = .opening := by
  by_contra hn
  exact h t ⟨ht, hphase, fun t₀ ht₀ hg hp => hn ⟨t₀, ht₀, hg, hp⟩⟩

/-- Tasks whose phases are from before, or not the one of opening. -/
theorem Calm.of_tasks {r : Reader M H} (h : Calm r s)
    (ht : ∀ t ∈ s'.reader.tasks, t.phase = .opening →
      ∃ t₀ ∈ s.reader.tasks, t₀.generation = t.generation ∧ t₀.phase = .opening) : Calm r s' := by
  intro t ho
  obtain ⟨t₁, ht₁, hg₁, hp₁⟩ := ht t ho.mem ho.opening
  obtain ⟨t₀, ht₀, hg₀, hp₀⟩ := h.tasks ht₁ hp₁
  exact ho.before t₀ ht₀ (hg₀.trans hg₁) hp₀

theorem opening_of_abort (r : Reader M H) (g : Option Nat) {t : Task} (ht : t ∈ (r.abort g).tasks)
    (hp : t.phase = .opening) :
    ∃ t₀ ∈ r.tasks, t₀.generation = t.generation ∧ t₀.phase = .opening := by
  cases g with
  | none => exact ⟨t, ht, rfl, hp⟩
  | some g =>
    obtain ⟨t₀, ht₀, rfl⟩ := List.mem_map.mp ht
    refine ⟨t₀, ht₀, ?_⟩
    by_cases hg : t₀.generation = g <;> simpa [hg] using hp

theorem robust_calm (r : Reader M H) : Robust (· ≠ .opening) (Calm r : Logged M H W → Prop) where
  aside _ _ h := h.of_tasks fun t ht hp => ⟨t, ht, rfl, hp⟩
  task g f hf hq _ h := h.of_tasks fun t ht hp => by
    obtain ⟨t₀, ht₀, rfl⟩ := List.mem_map.mp ht
    split at hp
    · exact absurd hp (hq t₀)
    · next hg =>
      rw [if_neg hg]
      exact ⟨t₀, ht₀, rfl, hp⟩
  own _ h := h.of_tasks fun t ht hp => ⟨t, ht, rfl, hp⟩
  registry _ _ h := h.of_tasks fun t ht hp => ⟨t, ht, rfl, hp⟩
  connect a h := h.of_tasks fun t ht hp => by
    rename_i s
    rcases connect_eq s.reader a with heq | heq
    · exact ⟨t, heq ▸ ht, rfl, hp⟩
    · have ht : t ∈ ((s.reader.abort s.reader.session.task).start a).tasks := heq ▸ ht
      rcases List.mem_append.mp ht with ht | ht
      · exact opening_of_abort s.reader _ ht hp
      · rw [List.mem_singleton.mp ht] at hp
        cases hp
  destroy h := h.of_tasks fun t ht hp => by
    rename_i s
    exact opening_of_abort s.reader.supersede.leaveSession s.reader.session.task ht hp

theorem calm_self (s : Logged M H W) : Calm s.reader s :=
  fun t ho => ho.before t ho.mem rfl ho.opening

theorem Told.current (h : s.Told) {t : Task} (ht : t ∈ s.reader.tasks)
    (hc : s.reader.isCurrent t.generation = true) :
    lastAsked s.calls = some (some t.address) := by
  have hg : s.reader.generation = t.generation := by simpa [isCurrent] using hc
  rcases h.now.session with ⟨hv, -⟩ | ⟨t₀, ht₀, hl⟩
  · exact absurd (hv.behind t ht) (by simp [hg])
  · obtain rfl := List.inj_on_of_nodup_map h.now.distinct ht₀.mem ht (ht₀.current.trans hg)
    exact hl

/-- All that a task's turn comes to. -/
theorem resume_turn {b : Behaviour M H (Program H W)} {d : Dispatch M H W} {jitter : Rat} {t : Task}
    {s s' : State M H W} (hs : resume b now d jitter t .turn s = some s') :
    s' = s ∨ ¬ s.reader.isCurrent t.generation = true ∧ s' = finish t.generation s ∨
      s.reader.isCurrent t.generation = true ∧
        s' = s.on (·.updateTask t.generation ({ · with phase := .opening })) := by
  unfold resume at hs
  dsimp only at hs
  split at hs
  · split at hs
    · next hc => exact Or.inr (Or.inr ⟨hc, (Option.some.inj hs).symm⟩)
    · next hc => exact Or.inr (Or.inl ⟨hc, (Option.some.inj hs).symm⟩)
  · split at hs
    · next hc => exact Or.inr (Or.inr ⟨hc, (Option.some.inj hs).symm⟩)
    · next hc => exact Or.inr (Or.inl ⟨hc, (Option.some.inj hs).symm⟩)
  · contradiction
  · contradiction
  · contradiction
  · contradiction
  · exact Or.inl (Option.some.inj hs).symm

/-- A task comes to open its transport on a turn of its own, in which no call is made. -/
theorem Told.opens (h : s.Told) {m : Move H W} (hs : Logged.move b depth now m s = some s') {t : Task}
    (ho : Opens s.reader s'.reader t) :
    s'.own = s.own ∧ lastAsked s.calls = some (some t.address) := by
  have hI : Robust (· ≠ .opening) (Calm s.reader : Logged M H W → Prop) := robust_calm s.reader
  have hd : Keeps (Calm s.reader) (fun _ => True) (dispatch b now depth) := hI.dispatch depth
  cases m with
  | program p => exact absurd ho (hI.exec hd p (calm_self s) hs t)
  | step g jitter w =>
    simp only [Logged.move] at hs
    cases ht : s.reader.task? g with
    | none =>
      rw [ht] at hs
      obtain rfl := Option.some.inj hs
      exact absurd ho (calm_self s t)
    | some t₁ =>
      rw [ht] at hs
      have hbehind (hw : w ≠ .turn) : s'.own = s.own ∧ lastAsked s.calls = some (some t.address) :=
        absurd ho ((hd.weaken _).resume hI.toLasting (fun _ h => h) (fun hw' => absurd hw' hw)
          (calm_self s) hs t)
      cases w with
      | opened result | item i | ended => exact hbehind nofun
      | turn =>
        rcases resume_turn hs with rfl | ⟨hc, rfl⟩ | ⟨hc, rfl⟩
        · exact absurd ho (calm_self _ t)
        · exact absurd ho (hI.finish nofun (calm_self s) hc t)
        · refine ⟨rfl, ?_⟩
          obtain ⟨t₀, ht₀, heq⟩ := List.mem_map.mp ho.mem
          split at heq
          · next hg =>
            have hl := h.current ht₀ (hg ▸ hc)
            rw [hl, ← heq]
          · obtain rfl := heq
            exact absurd ho.opening (ho.before t₀ ht₀ rfl)

/-- A reader before anything has been asked of it. -/
def fresh (name : String) (config : Config) (own : W) : Logged M H W :=
  ⟨create name config, own, []⟩

theorem told_fresh (name : String) (config : Config) (own : W) :
    Told (fresh name config own : Logged M H W) where
  now := consistent_create name config
  past before m after heq := by simp [fresh, log] at heq

/-- Whatever the calls, by programs or by handlers, and whatever the steps of the tasks: the session
is what the last connect or destroy asked for, at the end and each time a call is made. A transport
is opened for an address only while that address is what was asked for last. -/
theorem session_follows_calls (b : Behaviour M H (Program H W)) (depth : Nat) (name : String)
    (config : Config) (own : W) (moves : List (Nat × Move H W)) :
    (Logged.run b depth moves (fresh name config own)).map State.plain =
        Reader.run b depth moves ⟨create name config, own⟩ ∧
      ∀ s, Logged.run b depth moves (fresh name config own) = some s →
        s.reader.Follows s.calls ∧
        (∀ before m after, s.log = before ++ m :: after →
          m.reader.Follows (before.map (·.call))) ∧
        ∀ now m s', Logged.move b depth now m s = some s' →
          ∀ t, Opens s.reader s'.reader t →
            s'.own = s.own ∧ lastAsked s.calls = some (some t.address) := by
  refine ⟨plain_run b depth moves _, fun s hs => ?_⟩
  have ht := (told_fresh name config own).run hs
  exact ⟨ht.now.follows, fun before m after heq => (ht.past before m after heq).follows,
    fun _ _ _ hm _ ho => ht.opens hm ho⟩

/-- A subscriber that connects elsewhere at an error. -/
def moving : Behaviour Nat Unit (Program Unit Unit) where
  decode _ := .ok 0
  respond _ _ := .just (.connect "other")

def movingMoves : List (Nat × Move Unit Unit) := [
  (0, .program (.call (.subscribe .error ()) fun _ => .just (.connect "proxy"))),
  (0, .step 1 0 .turn),
  (1, .step 1 0 (.opened (.ok ()))),
  (2, .step 1 0 (.item (.error (.transport "reset"))))]

theorem session_follows_moving :
    ∃ s s' t, Logged.run moving 2 movingMoves (fresh "proxy" {} ()) = some s ∧
      s.log.map (·.call) = [.subscribe .error (), .connect "proxy", .connect "other"] ∧
      Logged.move moving 2 2 (.step 2 0 .turn) s = some s' ∧ Opens s.reader s'.reader t ∧
      s.reader.Follows s.calls ∧
      (∀ before m after, s.log = before ++ m :: after → m.reader.Follows (before.map (·.call))) ∧
      s'.own = s.own ∧ lastAsked s.calls = some (some t.address) := by
  obtain ⟨s, s', t, hs, hcalls, hs', ho⟩ : ∃ s s' t,
      Logged.run moving 2 movingMoves (fresh "proxy" {} ()) = some s ∧
      s.log.map (·.call) = [.subscribe .error (), .connect "proxy", .connect "other"] ∧
      Logged.move moving 2 2 (.step 2 0 .turn) s = some s' ∧ Opens s.reader s'.reader t := by
    refine ⟨_, _, ⟨2, "other", Config.backoff {}, false, .opening, false⟩, rfl, rfl, rfl, ?_⟩
    exact ⟨List.mem_cons_of_mem _ List.mem_cons_self, rfl, by decide⟩
  obtain ⟨hnow, hpast, hopens⟩ := (session_follows_calls moving 2 "proxy" {} () movingMoves).2 s hs
  exact ⟨s, s', t, hs, hcalls, hs', ho, hnow, hpast, hopens 2 _ s' hs' t ho⟩

end Logged

end TrafficWatch.Stream.Reader
