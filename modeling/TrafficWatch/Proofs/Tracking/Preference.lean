import Mathlib.Logic.Function.Iterate
import TrafficWatch.Proofs.Preferences
import TrafficWatch.Proofs.Tracking.Callers

/-!
The choice whether closed rows are kept, when any number of callers change it. It is in the view, in
the settings in memory and in their file. The lock of the store is kept until all three have it, so
between two operations they say the same, and no caller goes by a choice that another has changed.
-/

namespace TrafficWatch.Tracking

open Files

namespace Store

def Op.isToggle : Op → Bool
  | .toggle => true
  | _ => false

/-- Whether the settings are to be saved. -/
def Op.retains : Op → Bool
  | .toggle | .setRetention _ => true
  | _ => false

/-- The choice after an operation. -/
def Op.choose (keep : Bool) : Op → Bool
  | .toggle => ! keep
  | .setRetention k => k
  | _ => keep

theorem Op.choose_of_not_retains {op : Op} (h : op.retains = false) (keep : Bool) :
    op.choose keep = keep := by
  cases op with
  | toggle => cases h
  | setRetention => cases h
  | _ => rfl

/-- Without a setting among them, operations negate the choice once per toggle. -/
theorem foldl_choose {ops : List Op} (h : ∀ keep, .setRetention keep ∉ ops) (keep : Bool) :
    ops.foldl Op.choose keep = Bool.not^[ops.countP Op.isToggle] keep := by
  induction ops generalizing keep with
  | nil => rfl
  | cons op ops ih =>
    rw [List.foldl_cons, ih fun k hk => h k (List.mem_cons_of_mem _ hk)]
    cases op with
    | toggle => rw [List.countP_cons_of_pos rfl, Function.iterate_succ_apply, Op.choose]
    | setRetention k => exact absurd List.mem_cons_self (h k)
    | _ => rw [List.countP_cons_of_neg Bool.false_ne_true, Op.choose] <;> exact nofun

end Store

namespace Shared

variable {s : Shared}

/-- What a first step changes: the store shows the new choice, and its settings are as before. -/
theorem begin_cases (s : Shared) (op : Store.Op) : ∃ store : Store,
    store.settings = s.store.settings ∧ store.keepClosed = op.choose s.store.keepClosed ∧
      (s.store.view.keepClosed = s.store.keepClosed → store.view.keepClosed = store.keepClosed) ∧
      s.begin op =
        { s with store, stage := if op.retains then some (.remember store.keepClosed) else none } := by
  cases op with
  | feed snapshot now ms => exact ⟨s.store.absorb snapshot now, rfl, rfl, fun _ => rfl, rfl⟩
  | toggle => exact ⟨s.store.retain (! s.store.keepClosed), rfl, rfl, fun _ => rfl, rfl⟩
  | setRetention keep => exact ⟨s.store.retain keep, rfl, rfl, fun _ => rfl, rfl⟩
  | clearClosed =>
    refine ⟨s.store.clearClosed.1, ?_, ?_, ?_, rfl⟩
    all_goals
      unfold Store.clearClosed
      dsimp only
      split
    · rfl
    · rfl
    · rfl
    · rfl
    · exact fun _ => rfl
    · exact id
  | restart => exact ⟨s.store.noteRestart, rfl, rfl, fun _ => rfl, rfl⟩

/-- A flag, and the one in the settings, are the choice after some operations. -/
structure Decided (initial flag memory : Bool) (ops : List Store.Op) : Prop where
  flag_eq : flag = ops.foldl Store.Op.choose initial
  memory_eq : memory = flag

/-- What holds of the two flags at a stage, by what came of saving them. -/
def FlagsAt (initial flag memory : Bool) (acquired : List Store.Op)
    (saved : Option (Except SettingsError Unit)) : Option Stage → Prop
  | none =>
    Decided initial flag memory acquired ∧
      (saved = none → ∀ op ∈ acquired, op.retains = false)
  | some (.begin op) => ∃ ops, acquired = ops ++ [op] ∧ Decided initial flag memory ops ∧
    (saved = none → ∀ op ∈ ops, op.retains = false)
  | some (.remember keep) => flag = acquired.foldl Store.Op.choose initial ∧ keep = flag
  | some _ => Decided initial flag memory acquired

/-- What holds at any time, whatever becomes of the disk. -/
structure Agrees (path : Option String) (initial : Settings) (s : Shared) : Prop where
  path_eq : s.store.settings.path = path
  others : s.store.settings.current =
    { initial with keepClosed := s.store.settings.current.keepClosed }
  shown : s.store.view.keepClosed = s.store.keepClosed
  flags : FlagsAt initial.keepClosed s.store.keepClosed s.store.settings.current.keepClosed
    s.acquired s.saved s.stage

variable {path : Option String} {initial : Settings}

theorem agrees_idle (d : Disk) (settings : SettingsStore) :
    (idle d settings).Agrees settings.path settings.current where
  path_eq := rfl
  others := rfl
  shown := rfl
  flags := ⟨⟨rfl, rfl⟩, fun _ _ h => absurd h List.not_mem_nil⟩

theorem Agrees.flagsAt {stage : Option Stage} (h : s.Agrees path initial)
    (hstage : s.stage = stage) : FlagsAt initial.keepClosed s.store.keepClosed
      s.store.settings.current.keepClosed s.acquired s.saved stage :=
  hstage ▸ h.flags

theorem Agrees.acquire (h : s.Agrees path initial) (hstage : s.stage = none) (op : Store.Op) :
    Agrees path initial { s with stage := some (.begin op), acquired := s.acquired ++ [op] } :=
  ⟨h.path_eq, h.others, h.shown, s.acquired, rfl, h.flagsAt hstage⟩

theorem Agrees.begin {op : Store.Op} (h : s.Agrees path initial)
    (hstage : s.stage = some (.begin op)) : (s.begin op).Agrees path initial := by
  obtain ⟨store, hsettings, hkeep, hshown, hbegin⟩ := begin_cases s op
  obtain ⟨ops, hops, hdecided, hsaved⟩ := h.flagsAt hstage
  -- from here on the operation counts among those that the choice comes from
  have hchosen : store.keepClosed = s.acquired.foldl Store.Op.choose initial.keepClosed := by
    rw [hkeep, hdecided.flag_eq, hops, List.foldl_concat]
  rw [hbegin]
  refine ⟨?path, ?others, hshown h.shown, ?flag⟩
  case path => exact (congrArg SettingsStore.path hsettings).trans h.path_eq
  case others =>
    dsimp only
    rw [hsettings]
    exact h.others
  case flag =>
    cases hretains : op.retains with
    | true => exact ⟨hchosen, rfl⟩
    | false =>
      refine ⟨⟨hchosen, ?_⟩, fun hnone op' hop' => ?_⟩
      · rw [hsettings, hkeep, Store.Op.choose_of_not_retains hretains]
        exact hdecided.memory_eq
      · rw [hops, List.mem_append, List.mem_singleton] at hop'
        obtain hop' | rfl := hop'
        · exact hsaved hnone op' hop'
        · exact hretains

theorem Agrees.remember {keep : Bool} (h : s.Agrees path initial)
    (hstage : s.stage = some (.remember keep)) : (s.remember keep).Agrees path initial := by
  obtain ⟨hflag, rfl⟩ := h.flagsAt hstage
  have hothers : { s.store.settings.current with keepClosed := s.store.keepClosed } =
      { initial with keepClosed := s.store.keepClosed } := by
    rw [h.others]
  exact ⟨h.path_eq, hothers, h.shown, hflag, rfl⟩

/-- What holds while the settings are being saved. -/
def Saving (initial : Bool) (s : Shared) : Prop :=
  Decided initial s.store.keepClosed s.store.settings.current.keepClosed s.acquired

theorem Agrees.finish (h : s.Agrees path initial) (hsaving : s.Saving initial.keepClosed)
    (disk : Disk) (saved : Except SettingsError Unit) :
    ({ s with disk }.finish saved).Agrees path initial :=
  ⟨h.path_eq, h.others, h.shown, hsaving, nofun⟩

theorem Agrees.makeRoom {settings : Settings} (h : s.Agrees path initial)
    (hstage : s.stage = some (.makeRoom settings)) : (s.makeRoom settings).Agrees path initial := by
  have hsaving : s.Saving initial.keepClosed := h.flagsAt hstage
  unfold Shared.makeRoom
  split
  · exact h.finish hsaving s.disk _
  · dsimp only
    split
    · exact h.finish hsaving _ _
    · exact ⟨h.path_eq, h.others, h.shown, hsaving⟩

theorem Agrees.write {p content : String} (h : s.Agrees path initial)
    (hstage : s.stage = some (.write p content)) : (s.write p content).Agrees path initial := by
  have hsaving : s.Saving initial.keepClosed := h.flagsAt hstage
  unfold Shared.write
  split
  · exact h.finish hsaving s.disk _
  · exact ⟨h.path_eq, h.others, h.shown, hsaving⟩

theorem Agrees.moveInPlace {p : String} (h : s.Agrees path initial)
    (hstage : s.stage = some (.moveInPlace p)) : (s.moveInPlace p).Agrees path initial := by
  have hsaving : s.Saving initial.keepClosed := h.flagsAt hstage
  unfold Shared.moveInPlace
  split
  · exact h.finish hsaving s.disk _
  · exact h.finish hsaving _ _

theorem Agrees.advance {stage : Stage} (h : s.Agrees path initial) (hstage : s.stage = some stage) :
    (s.advance stage).Agrees path initial := by
  cases stage with
  | begin op => exact h.begin hstage
  | remember keep => exact h.remember hstage
  | makeRoom settings =>
    rw [Shared.advance]
    exact h.makeRoom hstage
  | write p content =>
    rw [Shared.advance]
    exact h.write hstage
  | moveInPlace p =>
    rw [Shared.advance]
    exact h.moveInPlace hstage

theorem move_cases {m : Move} {s' : Shared} (hmove : s.move m = some s') :
    match m with
    | .acquire op => s.stage = none ∧
      s' = { s with stage := some (.begin op), acquired := s.acquired ++ [op] }
    | .goOn => ∃ stage, s.stage = some stage ∧ s' = s.advance stage
    | .time ms => s' = { s with store := s.store.noteTime ms }
    | .elsewhere disk => s.Spares disk ∧ s' = { s with disk }
    | .interfere disk => s' = { s with disk } := by
  cases m with
  | acquire op =>
    cases hstage : s.stage with
    | none =>
      rw [move, hstage] at hmove
      exact ⟨rfl, (Option.some.inj hmove).symm⟩
    | some stage =>
      rw [move, hstage] at hmove
      cases hmove
  | goOn =>
    obtain ⟨stage, hstage, rfl⟩ := Option.map_eq_some_iff.mp hmove
    exact ⟨stage, hstage, rfl⟩
  | time ms => exact (Option.some.inj hmove).symm
  | elsewhere disk =>
    rw [move] at hmove
    split at hmove
    · next hspares => exact ⟨hspares, (Option.some.inj hmove).symm⟩
    · cases hmove
  | interfere disk => exact (Option.some.inj hmove).symm

theorem Agrees.move {m : Move} {s' : Shared} (h : s.Agrees path initial)
    (hmove : s.move m = some s') : s'.Agrees path initial := by
  have hcases := move_cases hmove
  cases m with
  | acquire op =>
    obtain ⟨hstage, rfl⟩ := hcases
    exact h.acquire hstage op
  | goOn =>
    obtain ⟨stage, hstage, rfl⟩ := hcases
    exact h.advance hstage
  | time ms =>
    cases hcases
    exact ⟨h.path_eq, h.others, h.shown, h.flags⟩
  | elsewhere disk =>
    obtain ⟨-, rfl⟩ := hcases
    exact ⟨h.path_eq, h.others, h.shown, h.flags⟩
  | interfere disk =>
    cases hcases
    exact ⟨h.path_eq, h.others, h.shown, h.flags⟩

/-- A state that every move leads from into another such one is never left. -/
theorem run_keeps {P : Shared → Prop} {moves : List Move} {s s' : Shared}
    (step : ∀ m ∈ moves, ∀ {s s'}, P s → move s m = some s' → P s') (hs : P s)
    (hrun : s.run moves = some s') : P s' := by
  induction moves generalizing s with
  | nil =>
    cases hrun
    exact hs
  | cons m moves ih =>
    rw [run, List.foldlM_cons] at hrun
    obtain ⟨s₁, hstep, hrest⟩ := Option.bind_eq_some_iff.mp hrun
    exact ih (fun m hm => step m (List.mem_cons_of_mem _ hm))
      (step m List.mem_cons_self hs hstep) hrest

theorem Agrees.run {moves : List Move} {s' : Shared} (h : s.Agrees path initial)
    (hrun : s.run moves = some s') : s'.Agrees path initial :=
  run_keeps (fun _ _ {_ _} h hmove => h.move hmove) h hrun

/-- What holds of the settings file at a stage, by what came of saving the settings. -/
def FileAt (path : String) (settings : Settings) (disk : Disk)
    (saved : Option (Except SettingsError Unit)) : Option Stage → Prop
  | some (.makeRoom new) => saved = none ∧ new = settings
  | some (.write p content) => saved = none ∧ p = path ∧ content = settings.json.prettyText
  | some (.moveInPlace p) => saved = none ∧ p = path ∧
    disk.readText (SettingsStore.temporaryPath path) = .ok settings.json.prettyText
  | _ => saved = some (.ok ()) → disk.readText path = .ok settings.json.prettyText

/-- What holds at any time if nothing else writes the settings. -/
structure OnFile (path : String) (s : Shared) : Prop where
  path_eq : s.store.settings.path = some path
  file : FileAt path s.store.settings.current s.disk s.saved s.stage

variable {file : String}

theorem onFile_idle (d : Disk) (path : String) (settings : Settings) :
    (idle d ⟨some path, settings⟩).OnFile path :=
  ⟨rfl, nofun⟩

theorem OnFile.fileAt {stage : Option Stage} (h : s.OnFile file) (hstage : s.stage = stage) :
    FileAt file s.store.settings.current s.disk s.saved stage :=
  hstage ▸ h.file

theorem OnFile.readText (h : s.OnFile file) (hsaved : s.saved = some (.ok ())) :
    s.disk.readText file = .ok s.store.settings.current.json.prettyText := by
  cases hstage : s.stage with
  | none => exact h.fileAt hstage hsaved
  | some stage =>
    have hfile := h.fileAt hstage
    rw [hsaved] at hfile
    cases stage with
    | begin op => exact hfile rfl
    | remember keep => exact hfile rfl
    -- while the settings are being saved, nothing has come of it yet
    | makeRoom settings => exact nomatch hfile.1
    | write p content => exact nomatch hfile.1
    | moveInPlace p => exact nomatch hfile.1

theorem OnFile.acquire (h : s.OnFile file) (hstage : s.stage = none) (op : Store.Op) :
    OnFile file { s with stage := some (.begin op), acquired := s.acquired ++ [op] } := by
  have hfile := h.fileAt hstage
  exact ⟨h.path_eq, hfile⟩

theorem OnFile.begin {op : Store.Op} (h : s.OnFile file) (hstage : s.stage = some (.begin op)) :
    (s.begin op).OnFile file := by
  obtain ⟨store, hsettings, -, -, hbegin⟩ := begin_cases s op
  have hfile := h.fileAt hstage
  rw [hbegin]
  refine ⟨(congrArg SettingsStore.path hsettings).trans h.path_eq, ?_⟩
  dsimp only
  rw [hsettings]
  cases op.retains with
  | true => exact hfile
  | false => exact hfile

theorem OnFile.remember (h : s.OnFile file) (keep : Bool) : (s.remember keep).OnFile file :=
  ⟨h.path_eq, rfl, rfl⟩

theorem OnFile.fail (h : s.OnFile file) (disk : Disk) (e : SettingsError) :
    ({ s with disk }.finish (.error e)).OnFile file :=
  ⟨h.path_eq, nofun⟩

theorem OnFile.makeRoom {settings : Settings} (h : s.OnFile file)
    (hstage : s.stage = some (.makeRoom settings)) : (s.makeRoom settings).OnFile file := by
  obtain ⟨hsaved, rfl⟩ := h.fileAt hstage
  unfold Shared.makeRoom
  rw [h.path_eq]
  dsimp only
  split
  · exact h.fail _ _
  · exact ⟨h.path_eq, hsaved, rfl, rfl⟩

theorem OnFile.write {p content : String} (h : s.OnFile file)
    (hstage : s.stage = some (.write p content)) : (s.write p content).OnFile file := by
  obtain ⟨hsaved, rfl, rfl⟩ := h.fileAt hstage
  unfold Shared.write
  split
  · exact h.fail s.disk _
  · next hwrite => exact ⟨h.path_eq, hsaved, rfl, Disk.readText_of_write hwrite⟩

theorem OnFile.moveInPlace {p : String} (h : s.OnFile file)
    (hstage : s.stage = some (.moveInPlace p)) : (s.moveInPlace p).OnFile file := by
  obtain ⟨hsaved, rfl, htemporary⟩ := h.fileAt hstage
  unfold Shared.moveInPlace
  split
  · exact h.fail s.disk _
  · next hmove => exact ⟨h.path_eq, fun _ => (Disk.readText_of_moveFile hmove).trans htemporary⟩

theorem OnFile.advance {stage : Stage} (h : s.OnFile file) (hstage : s.stage = some stage) :
    (s.advance stage).OnFile file := by
  cases stage with
  | begin op => exact h.begin hstage
  | remember keep => exact h.remember keep
  | makeRoom settings =>
    rw [Shared.advance]
    exact h.makeRoom hstage
  | write p content =>
    rw [Shared.advance]
    exact h.write hstage
  | moveInPlace p =>
    rw [Shared.advance]
    exact h.moveInPlace hstage

theorem OnFile.elsewhere {disk : Disk} (h : s.OnFile file) (hspares : s.Spares disk) :
    OnFile file { s with disk } := by
  obtain ⟨hread, htemporary⟩ := hspares file h.path_eq
  refine ⟨h.path_eq, ?_⟩
  have hfile := h.file
  unfold FileAt at hfile ⊢
  dsimp only
  rw [hread, htemporary]
  exact hfile

theorem OnFile.move {m : Move} {s' : Shared} (h : s.OnFile file) (hmove : s.move m = some s')
    (hm : ∀ disk, m ≠ .interfere disk) : s'.OnFile file := by
  have hcases := move_cases hmove
  cases m with
  | acquire op =>
    obtain ⟨hstage, rfl⟩ := hcases
    exact h.acquire hstage op
  | goOn =>
    obtain ⟨stage, hstage, rfl⟩ := hcases
    exact h.advance hstage
  | time ms =>
    cases hcases
    exact ⟨h.path_eq, h.file⟩
  | elsewhere disk =>
    obtain ⟨hspares, rfl⟩ := hcases
    exact h.elsewhere hspares
  | interfere disk => exact absurd rfl (hm disk)

theorem OnFile.run {moves : List Move} {s' : Shared} (h : s.OnFile file)
    (hmoves : ∀ disk, .interfere disk ∉ moves) (hrun : s.run moves = some s') : s'.OnFile file := by
  refine run_keeps (fun m hm {s s'} h hmove => h.move hmove ?_) h hrun
  rintro disk rfl
  exact hmoves disk hm

/-- Whatever callers do on a store from its start, and in whatever order they acquire its lock.
Between two operations the view shows the flag of the settings in memory, even if they could not be
saved, and no toggle is lost. Once they have been saved, and if nothing else writes the file, it is
they that are loaded from it, with the other preferences as they were, and a store created from the
file starts with the flag of this one. -/
theorem preference_agrees (d : Disk) (path : String) (initial : Settings) (moves : List Move)
    (s : Shared) (hrun : (idle d ⟨some path, initial⟩).run moves = some s) :
    (s.stage = none →
      s.store.keepClosed = s.store.settings.current.keepClosed ∧
      s.store.view.keepClosed = s.store.settings.current.keepClosed ∧
      (∀ earlier keep later, s.acquired = earlier ++ .setRetention keep :: later →
        (∀ k, .setRetention k ∉ later) →
        s.store.keepClosed = Bool.not^[later.countP Store.Op.isToggle] keep) ∧
      ((∀ k, .setRetention k ∉ s.acquired) →
        s.store.keepClosed = Bool.not^[s.acquired.countP Store.Op.isToggle] initial.keepClosed) ∧
      ((∃ op ∈ s.acquired, op.retains = true) → s.saved ≠ none)) ∧
    s.store.settings.current.language = initial.language ∧
    s.store.settings.current.logLevel = initial.logLevel ∧
    ((∀ disk, .interfere disk ∉ moves) → s.saved = some (.ok ()) →
      SettingsStore.load s.disk path = .ok s.store.settings ∧
      (s.stage = none → ∀ loaded, SettingsStore.load s.disk path = .ok loaded →
        (Store.create loaded).keepClosed = s.store.keepClosed ∧
        (Store.create loaded).view.keepClosed = s.store.view.keepClosed)) := by
  have hagrees : s.Agrees (some path) initial := (agrees_idle d ⟨some path, initial⟩).run hrun
  have hload : (∀ disk, .interfere disk ∉ moves) → s.saved = some (.ok ()) →
      SettingsStore.load s.disk path = .ok s.store.settings := fun hmoves hsaved => by
    have hfile := (onFile_idle d path initial).run hmoves hrun
    rw [SettingsStore.load_of_readText (hfile.readText hsaved), ← hagrees.path_eq]
  refine ⟨fun hstage => ?free, ?language, ?level, fun hmoves hsaved => ?saved⟩
  case free =>
    obtain ⟨hdecided, hsaved⟩ := hagrees.flagsAt hstage
    refine ⟨hdecided.memory_eq.symm, hagrees.shown.trans hdecided.memory_eq.symm,
      fun earlier keep later hops hlater => ?_, fun hops => ?_, ?_⟩
    · rw [hdecided.flag_eq, hops, List.foldl_append, List.foldl_cons, Store.Op.choose,
        Store.foldl_choose hlater]
    · rw [hdecided.flag_eq, Store.foldl_choose hops]
    · rintro ⟨op, hop, hretains⟩ hnone
      exact nomatch hretains.symm.trans (hsaved hnone op hop)
  case language => rw [hagrees.others]
  case level => rw [hagrees.others]
  case saved =>
    refine ⟨hload hmoves hsaved, fun hstage loaded hloaded => ?_⟩
    obtain rfl : s.store.settings = loaded :=
      Except.ok.inj ((hload hmoves hsaved).symm.trans hloaded)
    have hmemory := (hagrees.flagsAt hstage).1.memory_eq
    exact ⟨hmemory, hmemory.trans hagrees.shown.symm⟩

/-- Two toggles and a feed; between the steps of the first toggle a directory is made, and the feed
notes its time while the second has the lock. -/
def crossing : List Move :=
  [.acquire .toggle, .goOn, .goOn, .elsewhere (Disk.empty.put ["logs"] .directory), .goOn, .goOn,
    .goOn, .acquire (.feed {} ⟨0, 0, 0⟩ 1), .goOn, .acquire .toggle, .goOn, .time 1, .goOn, .goOn,
    .goOn, .goOn]

/-- A toggle that cannot write the temporary file. -/
def thwarted : List Move :=
  [.interfere (Disk.empty.put ["settings.json.tmp"] .directory), .acquire .toggle, .goOn, .goOn,
    .goOn, .goOn]

theorem preference_agrees_crossing_and_thwarted :
    (∃ s, (idle .empty ⟨some "settings.json", { language := some "en_US" }⟩).run crossing = some s ∧
      s.stage = none ∧ s.saved = some (.ok ()) ∧
      s.store.view.keepClosed = s.store.settings.current.keepClosed ∧
      s.store.settings.current.language = some "en_US" ∧
      SettingsStore.load s.disk "settings.json" = .ok s.store.settings) ∧
    ∃ s, (idle .empty ⟨some "settings.json", {}⟩).run thwarted = some s ∧ s.stage = none ∧
      s.saved = some (.error (.disk "settings.json" .isADirectory)) ∧
      s.store.view.keepClosed = s.store.settings.current.keepClosed := by
  have hcrossing :
      ((idle .empty ⟨some "settings.json", { language := some "en_US" }⟩).run crossing).any
        (fun s => s.stage.isNone && s.saved == some (.ok ())) = true := by decide +kernel
  have hthwarted : ((idle .empty ⟨some "settings.json", {}⟩).run thwarted).any
      (fun s => s.stage.isNone &&
        s.saved == some (.error (.disk "settings.json" .isADirectory))) = true := by decide +kernel
  obtain ⟨s, hs, hdone⟩ := (Option.any_eq_true _ _).mp hcrossing
  obtain ⟨t, ht, hfailed⟩ := (Option.any_eq_true _ _).mp hthwarted
  simp only [Bool.and_eq_true, Option.isNone_iff_eq_none, beq_iff_eq] at hdone hfailed
  obtain ⟨hfree, hlanguage, -, hload⟩ := preference_agrees _ _ _ _ s hs
  have hspared : ∀ disk, .interfere disk ∉ crossing := fun disk h => by simp [crossing] at h
  have hfree' := (preference_agrees _ _ _ _ t ht).1
  exact ⟨⟨s, hs, hdone.1, hdone.2, (hfree hdone.1).2.1, hlanguage, (hload hspared hdone.2).1⟩,
    t, ht, hfailed.1, hfailed.2, (hfree' hfailed.1).2.1⟩

end Shared

end TrafficWatch.Tracking
