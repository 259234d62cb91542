import Mathlib.Control.Monad.Basic
import TrafficWatch.Tracking.Store

/-!
Any number of callers on one store at the same time. An operation has the lock of the store from
its first step to its last, so callers show only in the order in which they acquire it. A change of
retention is shown first, then remembered in the settings in memory, and then saved by way of the
temporary file; each step on the disk may fail, and something else may use the disk in between.
-/

namespace TrafficWatch.Tracking

open Files Time Wire

namespace Store

/-- The flag, the rows and the view under a new choice. -/
def retain (s : Store) (keep : Bool) : Store :=
  { s with
    keepClosed := keep
    table := if keep then s.table else s.table.evictCompleted.1 }.publish

def remember (s : Store) (keep : Bool) : Store :=
  { s with
    settings := { s.settings with current := { s.settings.current with keepClosed := keep } } }

/-- A feed before it notes how long it took. -/
def absorb (s : Store) (snapshot : Snapshot) (now : Instant) : Store :=
  { (s.feed snapshot now 0).1 with applyTimes := s.applyTimes }

def noteTime (s : Store) (milliseconds : Float) : Store :=
  { s with applyTimes := s.applyTimes.add milliseconds }

theorem setRetention_eq (d : Disk) (s : Store) (keep : Bool) :
    setRetention d s keep =
      ((SettingsStore.persist d s.settings.path { s.settings.current with keepClosed := keep }).1,
        (s.retain keep).remember keep) := by
  unfold setRetention SettingsStore.update
  dsimp only [publish]
  generalize SettingsStore.persist d s.settings.path
    { s.settings.current with keepClosed := keep } = r
  rfl

end Store

/-- An operation with the lock, by what it does next. -/
inductive Stage where
  | begin (op : Store.Op)
  | remember (keep : Bool)
  | makeRoom (settings : Settings)
  | write (path content : String)
  | moveInPlace (path : String)

/-- A store and the disk, with the operation that has the lock. -/
structure Shared where
  disk : Disk
  store : Store
  stage : Option Stage := none
  /-- The operations so far, in the order in which they acquired the lock. -/
  acquired : List Store.Op := []
  /-- What came of saving the settings, if they were saved since they last changed. -/
  saved : Option (Except SettingsError Unit) := none

namespace Shared

def idle (d : Disk) (settings : SettingsStore) : Shared where
  disk := d
  store := .create settings

def retain (s : Shared) (keep : Bool) : Shared :=
  { s with store := s.store.retain keep, stage := some (.remember keep) }

def finish (s : Shared) (saved : Except SettingsError Unit) : Shared :=
  { s with stage := none, saved := some saved }

def begin (s : Shared) : Store.Op → Shared
  | .feed snapshot now _ => { s with store := s.store.absorb snapshot now, stage := none }
  | .toggle => s.retain (! s.store.keepClosed)
  | .setRetention keep => s.retain keep
  | .clearClosed => { s with store := s.store.clearClosed.1, stage := none }
  | .restart => { s with store := s.store.noteRestart, stage := none }

def remember (s : Shared) (keep : Bool) : Shared :=
  let store := s.store.remember keep
  { s with store, stage := some (.makeRoom store.settings.current), saved := none }

def makeRoom (s : Shared) (settings : Settings) : Shared :=
  match s.store.settings.path with
  | none => s.finish (.ok ())
  | some path =>
    let p := Path.ofText path
    let (disk, made) := s.disk.ensureTree p.absolute p.components.reverse.tail
    match made with
    | .error e => { s with disk }.finish (.error (.disk path e))
    | .ok () => { s with disk, stage := some (.write path settings.json.prettyText) }

def write (s : Shared) (path content : String) : Shared :=
  match s.disk.write (SettingsStore.temporaryPath path) content with
  | .error e => s.finish (.error (.disk path e))
  | .ok disk => { s with disk, stage := some (.moveInPlace path) }

def moveInPlace (s : Shared) (path : String) : Shared :=
  match s.disk.moveFile (SettingsStore.temporaryPath path) path with
  | .error e => s.finish (.error (.disk path e))
  | .ok disk => { s with disk }.finish (.ok ())

def advance (s : Shared) : Stage → Shared
  | .begin op => s.begin op
  | .remember keep => s.remember keep
  | .makeRoom settings => s.makeRoom settings
  | .write path content => s.write path content
  | .moveInPlace path => s.moveInPlace path

/-- On another disk the settings file and the temporary one are the same. -/
def Spares (s : Shared) (disk : Disk) : Prop :=
  ∀ path ∈ s.store.settings.path, disk.readText path = s.disk.readText path ∧
    disk.readText (SettingsStore.temporaryPath path) =
      s.disk.readText (SettingsStore.temporaryPath path)

instance (s : Shared) (disk : Disk) : Decidable (s.Spares disk) := by
  unfold Spares
  infer_instance

inductive Move where
  | acquire (op : Store.Op)
  | goOn
  /-- A feed notes its time when it no longer has the lock. -/
  | time (milliseconds : Float)
  /-- Something else uses the disk, but not the settings file. -/
  | elsewhere (disk : Disk)
  /-- Something else uses the disk in whatever way. -/
  | interfere (disk : Disk)

def move (s : Shared) : Move → Option Shared
  | .acquire op =>
    match s.stage with
    | some _ => none
    | none => some { s with stage := some (.begin op), acquired := s.acquired ++ [op] }
  | .goOn => s.stage.map s.advance
  | .time ms => some { s with store := s.store.noteTime ms }
  | .elsewhere disk => if s.Spares disk then some { s with disk } else none
  | .interfere disk => some { s with disk }

def run (s : Shared) (moves : List Move) : Option Shared := moves.foldlM move s

theorem run_append (s : Shared) (moves more : List Move) :
    s.run (moves ++ more) = (s.run moves).bind fun s' => s'.run more :=
  List.foldlM_append

theorem run_goOn {s : Shared} {stage : Stage} (h : s.stage = some stage) (moves : List Move) :
    s.run (.goOn :: moves) = (s.advance stage).run moves := by
  rw [run, List.foldlM_cons, move, h]
  rfl

variable {s : Shared}

theorem write_of_error {path content : String} {e : DiskError}
    (h : s.disk.write (SettingsStore.temporaryPath path) content = .error e) :
    s.write path content = s.finish (.error (.disk path e)) := by
  unfold write
  rw [h]

theorem write_of_ok {path content : String} {d : Disk}
    (h : s.disk.write (SettingsStore.temporaryPath path) content = .ok d) :
    s.write path content = { s with disk := d, stage := some (.moveInPlace path) } := by
  unfold write
  rw [h]

theorem moveInPlace_of_error {path : String} {e : DiskError}
    (h : s.disk.moveFile (SettingsStore.temporaryPath path) path = .error e) :
    s.moveInPlace path = s.finish (.error (.disk path e)) := by
  unfold moveInPlace
  rw [h]

theorem moveInPlace_of_ok {path : String} {d : Disk}
    (h : s.disk.moveFile (SettingsStore.temporaryPath path) path = .ok d) :
    s.moveInPlace path = { s with disk := d }.finish (.ok ()) := by
  unfold moveInPlace
  rw [h]

/-- Without others at the disk, the steps of saving are those of a replacement. -/
theorem run_replaceContent {settings : Settings} {path : String} {d : Disk}
    {written : Except DiskError Unit} (h : s.stage = some (.makeRoom settings))
    (hpath : s.store.settings.path = some path)
    (hreplace : SettingsStore.replaceContent s.disk path settings.json.prettyText = (d, written)) :
    ∃ moves, s.run moves = some { s with
      disk := d, stage := none, saved := some (written.mapError (.disk path)) } := by
  have hroom : ∀ moves, s.run (.goOn :: moves) = (s.makeRoom settings).run moves := run_goOn h
  unfold makeRoom at hroom
  unfold SettingsStore.replaceContent at hreplace
  rw [hpath] at hroom
  dsimp only at hroom hreplace
  generalize s.disk.ensureTree (Path.ofText path).absolute
    (Path.ofText path).components.reverse.tail = r at hroom hreplace
  obtain ⟨room, made⟩ := r
  cases made with
  | error e =>
    cases hreplace
    exact ⟨_, hroom []⟩
  | ok _ =>
  dsimp only at hroom hreplace
  split at hreplace
  · next hwrite =>
    cases hreplace
    refine ⟨_, (hroom [.goOn]).trans ?_⟩
    rw [run_goOn (by rfl), advance, write_of_error (by exact hwrite)]
    rfl
  next hwrite =>
  split at hreplace
  · next hmove =>
    cases hreplace
    refine ⟨_, (hroom [.goOn, .goOn]).trans ?_⟩
    rw [run_goOn (by rfl), advance, write_of_ok (by exact hwrite), run_goOn (by rfl), advance,
      moveInPlace_of_error (by exact hmove)]
    rfl
  · next hmove =>
    cases hreplace
    refine ⟨_, (hroom [.goOn, .goOn]).trans ?_⟩
    rw [run_goOn (by rfl), advance, write_of_ok (by exact hwrite), run_goOn (by rfl), advance,
      moveInPlace_of_ok (by exact hmove)]
    rfl

/-- Without others at the disk, the steps of saving are those of a persist. -/
theorem run_persist {settings : Settings} (h : s.stage = some (.makeRoom settings)) :
    ∃ moves, s.run moves = some { s with
      disk := (SettingsStore.persist s.disk s.store.settings.path settings).1
      stage := none
      saved := some (SettingsStore.persist s.disk s.store.settings.path settings).2 } := by
  generalize hpath : s.store.settings.path = path
  cases path with
  | none =>
    refine ⟨[.goOn], ?_⟩
    rw [run_goOn h, advance]
    unfold makeRoom
    rw [hpath]
    rfl
  | some path => exact run_replaceContent h hpath rfl

theorem run_acquire (h : s.stage = none) (op : Store.Op) (moves : List Move) :
    s.run (.acquire op :: moves) =
      run { s with stage := some (.begin op), acquired := s.acquired ++ [op] } moves := by
  rw [run, List.foldlM_cons, move, h]
  rfl

theorem run_retain (keep : Bool) : ∃ moves s', (s.retain keep).run moves = some s' ∧
    s'.stage = none ∧ s'.acquired = s.acquired ∧
    (s'.disk, s'.store) = Store.setRetention s.disk s.store keep := by
  obtain ⟨moves, hmoves⟩ := run_persist (s := (s.retain keep).remember keep) rfl
  have hstage : (s.retain keep).stage = some (.remember keep) := rfl
  exact ⟨.goOn :: moves, _, (run_goOn hstage moves).trans hmoves, rfl, rfl,
    (Store.setRetention_eq s.disk s.store keep).symm⟩

/-- An operation on its own is done in moves. -/
theorem run_operation (h : s.stage = none) (op : Store.Op) : ∃ moves s', s.run moves = some s' ∧
    s'.stage = none ∧ s'.acquired = s.acquired ++ [op] ∧
    (s'.disk, s'.store) = (Store.step s.disk s.store op).1 := by
  have hbegin := fun moves => (run_acquire h op (.goOn :: moves)).trans (run_goOn (by rfl) moves)
  cases op with
  | feed snapshot now ms => exact ⟨_, _, hbegin [.time ms], rfl, rfl, rfl⟩
  | toggle =>
    obtain ⟨moves, s', hs', hstage, hacquired, hstep⟩ := run_retain _
    exact ⟨_, s', (hbegin moves).trans hs', hstage, hacquired, hstep⟩
  | setRetention keep =>
    obtain ⟨moves, s', hs', hstage, hacquired, hstep⟩ := run_retain keep
    exact ⟨_, s', (hbegin moves).trans hs', hstage, hacquired, hstep⟩
  | clearClosed => exact ⟨_, _, hbegin [], rfl, rfl, rfl⟩
  | restart => exact ⟨_, _, hbegin [], rfl, rfl, rfl⟩

/-- Operations one after the other are a way for callers to take turns. -/
theorem run_operations (h : s.stage = none) (ops : List Store.Op) :
    ∃ moves s', s.run moves = some s' ∧ s'.stage = none ∧ s'.acquired = s.acquired ++ ops ∧
      (s'.disk, s'.store) = Store.run s.disk s.store ops := by
  induction ops generalizing s with
  | nil => exact ⟨[], s, rfl, h, (List.append_nil _).symm, rfl⟩
  | cons op ops ih =>
    obtain ⟨moves, s', hs', hstage, hacquired, hstep⟩ := run_operation h op
    obtain ⟨more, s'', hs'', hstage', hacquired', hrun⟩ := ih hstage
    refine ⟨moves ++ more, s'', ?_, hstage', ?_, ?_⟩
    · rw [run_append, hs']
      exact hs''
    · rw [hacquired', hacquired, List.append_assoc, List.singleton_append]
    · rw [hrun, Store.run, ← hstep]

end Shared

end TrafficWatch.Tracking
