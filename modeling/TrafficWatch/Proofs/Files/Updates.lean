import TrafficWatch.Proofs.Files.Trees
import TrafficWatch.Proofs.Preferences

/-!
What an update of the preferences does to the files. The temporary file stands beside the real one
under another name, so what was saved before is there until the new content is moved over it; and an
update that fails leaves it as it was.
-/

namespace TrafficWatch

open Files

namespace Files.Path

variable {path n : String} {pre : List String}

theorem splitName_ofList {front tail : List Char} (hfront : front ≠ []) (htail : '.' ∉ tail) :
    splitName (String.ofList (front ++ '.' :: tail)) =
      (String.ofList front, some (String.ofList tail)) := by
  have hall : ∀ c ∈ tail.reverse, (c != '.') = true := fun c hc =>
    bne_iff_ne.mpr fun h => htail (h ▸ List.mem_reverse.mp hc)
  have hlast : ((front ++ '.' :: tail).reverse.takeWhile (· != '.')).reverse = tail := by
    rw [List.reverse_append, List.reverse_cons, List.append_assoc,
      List.takeWhile_append_of_pos hall, List.singleton_append,
      List.takeWhile_cons_of_neg (by decide), List.append_nil, List.reverse_reverse]
  have hlength : (front ++ '.' :: tail).length - tail.length - 1 = front.length := by
    rw [List.length_append, List.length_cons]
    omega
  rw [splitName, String.toList_ofList, hlast, hlength, List.take_left, if_neg (by simpa using hfront)]

/-- The name of a temporary file is not the one that it is made of. -/
theorem splitName_ne (n : String) : (splitName n).1 ++ "." ++ "json.tmp" ≠ n := by
  intro h
  let front := (splitName n).1.toList ++ ".json".toList
  have hn : n = String.ofList (front ++ '.' :: "tmp".toList) := by
    rw [← String.toList_inj, String.toList_ofList, ← h, String.toList_append, String.toList_append,
      List.append_assoc, List.append_assoc]
    rfl
  have hstem : (splitName n).1.toList = front := by
    have hfront : front ≠ [] := by simp [front]
    have hsplit := congrArg Prod.fst (splitName_ofList hfront (show '.' ∉ "tmp".toList by decide))
    rw [← hn] at hsplit
    rw [hsplit, String.toList_ofList]
  have hlength := congrArg List.length hstem
  simp [front] at hlength

theorem slash_not_mem_splitName (h : '/' ∉ n.toList) : '/' ∉ (splitName n).1.toList := by
  unfold splitName
  dsimp only
  split
  · exact h
  · rw [String.toList_ofList]
    exact fun hm => h (List.mem_of_mem_take hm)

end Files.Path

namespace SettingsStore

variable {d d' : Disk} {path content n : String} {pre : List String} {l l' : Location}

/-- The name of the temporary file beside a file. -/
def temporaryName (n : String) : String := (Path.splitName n).1 ++ "." ++ "json.tmp"

theorem temporaryPath_of_nameless (h : (Path.ofText path).fileName? = none) :
    temporaryPath path = (Path.ofText path).text := by
  rw [temporaryPath, Path.withExtension, h]

/-- The path of the temporary file, where there is a name to make another one of. -/
theorem withExtension_of_named (h : (Path.ofText path).fileName? = some n) :
    (Path.ofText path).withExtension "json.tmp" = { Path.ofText path with
      components := (Path.ofText path).components.dropLast ++ [temporaryName n] } := by
  rw [Path.withExtension, h]
  rfl

theorem length_temporaryName (n : String) : 9 ≤ (temporaryName n).toList.length := by
  simp [temporaryName]

theorem temporaryName_ne {s : String} (hs : s.toList.length < 9) (n : String) :
    temporaryName n ≠ s := by
  rintro rfl
  exact absurd (length_temporaryName n) (Nat.not_le.mpr hs)

theorem temporaryName_not_neutral (n : String) : Path.isNeutral (temporaryName n) = false := by
  have hempty : temporaryName n ≠ "" := temporaryName_ne (by decide) n
  have hdot : temporaryName n ≠ "." := temporaryName_ne (by decide) n
  simp [Path.isNeutral, hempty, hdot]

theorem proper_withExtension (path : String) :
    ((Path.ofText path).withExtension "json.tmp").Proper := by
  have hproper := Path.proper_ofText path
  cases h : (Path.ofText path).fileName? with
  | none =>
    rw [Path.withExtension, h]
    exact hproper
  | some n =>
    have hmem : n ∈ (Path.ofText path).components :=
      List.mem_of_getLast? (Option.filter_eq_some_iff.mp h).1
    have hslash := Path.slash_not_mem_splitName (hproper n hmem).2
    rw [withExtension_of_named h]
    refine List.forall_mem_append.mpr ⟨fun c hc => hproper c ((List.dropLast_sublist _).subset hc),
      List.forall_mem_singleton.mpr ⟨temporaryName_ne (by decide) n, ?_⟩⟩
    rw [temporaryName, String.toList_append, String.toList_append, List.mem_append, List.mem_append]
    rintro ((hm | hm) | hm)
    · exact hslash hm
    · exact absurd hm (by decide)
    · exact absurd hm (by decide)

theorem names_temporaryPath_of_nameless (h : (Path.ofText path).fileName? = none) :
    Path.names (temporaryPath path) = Path.names path := by
  rw [temporaryPath_of_nameless h, Path.names_text (Path.proper_ofText path), Path.components_filter]

/-- The temporary file has the directory of the real one, and another name. -/
theorem names_temporaryPath (h : (Path.ofText path).fileName? = some n)
    (hnames : Path.names path = pre ++ [n]) :
    Path.names (temporaryPath path) = pre ++ [temporaryName n] := by
  rw [temporaryPath, Path.names_text (proper_withExtension path), withExtension_of_named h]
  simp only [List.filter_append, Path.dropLast_components_filter hnames]
  rw [List.filter_cons_of_pos (by simp [temporaryName_not_neutral]), List.filter_nil]

theorem start_temporaryPath (d : Disk) (path : String) :
    d.start (temporaryPath path) = d.start path := by
  have habsolute : ((Path.ofText path).withExtension "json.tmp").absolute =
      (Path.ofText path).absolute := by
    cases h : (Path.ofText path).fileName? with
    | none => rw [Path.withExtension, h]
    | some n => rw [withExtension_of_named h]
  rw [temporaryPath, Disk.start_text (proper_withExtension path), habsolute, Disk.start]

/-- Where there is a name, the temporary file is somewhere else. -/
theorem locate_temporaryPath_ne (hname : (Path.ofText path).fileName?.isSome)
    (h : d.locate path = .ok l) (h' : d.locate (temporaryPath path) = .ok l') : l' ≠ l := by
  obtain ⟨n, hn⟩ := Option.isSome_iff_exists.mp hname
  obtain ⟨hup, pre, hnames⟩ := Path.fileName?_eq_some.mp hn
  have hwalk := Disk.walk_names h
  have hwalk' := Disk.walk_names h'
  rw [hnames] at hwalk
  rw [start_temporaryPath, names_temporaryPath hn hnames] at hwalk'
  obtain ⟨q, hq, -, -, rfl⟩ := Disk.walk_concat.mp hwalk
  obtain ⟨q', hq', -, -, rfl⟩ := Disk.walk_concat.mp hwalk'
  obtain rfl := Except.ok.inj (hq.symm.trans hq')
  rw [Disk.next_of_plain (Path.not_neutral_of_names hnames) hup,
    Disk.next_of_plain (temporaryName_not_neutral n) (temporaryName_ne (by decide) n)]
  intro heq
  exact Path.splitName_ne n (List.singleton_inj.mp (List.append_cancel_left heq))

theorem temporaryPath_ne (hname : (Path.ofText path).fileName?.isSome) :
    Path.ofText (temporaryPath path) ≠ Path.ofText path := by
  intro heq
  obtain ⟨n, hn⟩ := Option.isSome_iff_exists.mp hname
  obtain ⟨-, pre, hnames⟩ := Path.fileName?_eq_some.mp hn
  have hsame := (Path.components_filter _).symm.trans
    (heq ▸ Path.components_filter path : _ = Path.names path)
  rw [names_temporaryPath hn hnames, hnames] at hsame
  exact Path.splitName_ne n (List.singleton_inj.mp (List.append_cancel_left hsame))

/-- Where no other name can be made, the temporary file would be a directory. -/
theorem temporary_directory (htree : d.Tree) (hname : (Path.ofText path).fileName? = none)
    (h : d.locate (temporaryPath path) = .ok l) : d.lookup l = some .directory := by
  refine htree.directory_of_nameless ?_ h
  rw [Path.fileName?_ofText, names_temporaryPath_of_nameless hname, ← Path.fileName?_ofText, hname]

/-- The directory of a file. -/
def directoryOf (path : String) : Path :=
  { Path.ofText path with components := (Path.ofText path).components.dropLast }

/-- How far a replacement comes. -/
inductive Replaced (d : Disk) (path content : String) : Disk → Except DiskError Unit → Prop where
  | early {d₁ : Disk} {e : DiskError} (grown : Disk.Grown (directoryOf path) d d₁) (tree : d₁.Tree) :
    Replaced d path content d₁ (.error e)
  | late {d₁ : Disk} {e : DiskError} {l : Location} (grown : Disk.Grown (directoryOf path) d d₁)
    (tree : d₁.Tree) (temporary : d₁.locate (temporaryPath path) = .ok l)
    (free : d₁.lookup l ≠ some .directory) :
    Replaced d path content (d₁.put l (.file content.toUTF8)) (.error e)
  | done {d₁ d₂ : Disk} {l l' : Location} (grown : Disk.Grown (directoryOf path) d d₁)
    (tree : d₁.Tree) (temporary : d₁.locate (temporaryPath path) = .ok l)
    (free : d₁.lookup l ≠ some .directory) (written : d₂ = d₁.put l (.file content.toUTF8))
    (target : d₂.locate path = .ok l') (free' : d₂.lookup l' ≠ some .directory) :
    Replaced d path content
      { d₂ with entries := (d₂.entries.erase l).insert l' (.file content.toUTF8) } (.ok ())

theorem replaced (htree : d.Tree) (path content : String) : Replaced d path content
    (replaceContent d path content).1 (replaceContent d path content).2 := by
  have hdirectory : (Path.ofText path).components.reverse.tail.reverse =
      (Path.ofText path).components.dropLast := by
    rw [List.tail_reverse, List.reverse_reverse]
  have hproper : Path.Proper (directoryOf path) := fun c hc =>
    Path.proper_ofText path c ((List.dropLast_sublist _).subset hc)
  cases hensure : d.ensureTree (Path.ofText path).absolute (Path.ofText path).components.reverse.tail with
  | mk d₁ made =>
  obtain ⟨hgrown, htree₁⟩ := htree.ensureTree (hdirectory ▸ hproper) hensure
  rw [hdirectory] at hgrown
  unfold replaceContent
  simp only [hensure]
  split
  · exact .early hgrown htree₁
  split
  · exact .early hgrown htree₁
  next d₂ hwrite =>
  obtain ⟨l, hl, hfree, rfl⟩ := Disk.write_eq_ok hwrite
  split
  · exact .late hgrown htree₁ hl hfree
  · next d₃ hmove =>
    obtain ⟨old, new, b, hold, hnew, hb, hfree', rfl⟩ := Disk.moveFile_eq_ok hmove
    have hl' := (Disk.keeps_put hfree (.file content.toUTF8)).locate hl
    obtain rfl := Except.ok.inj (hl'.symm.trans hold)
    rw [Disk.lookup_put _ (Disk.ne_nil_of_lookup hfree), if_pos rfl] at hb
    obtain rfl : content.toUTF8 = b := by simpa using hb
    exact .done hgrown htree₁ hl hfree rfl hnew hfree'

/-- The directories on the way to a file are not where the file is. -/
theorem not_on_the_way (hup : ".." ∉ Path.parts path) (hl : l = d.start path ++ Path.names path) :
    ¬ (".." ∈ (directoryOf path).components ∨
      (l <+: d.way (directoryOf path) ∧ l ≠ d.base (directoryOf path).absolute)) := by
  rintro (hm | ⟨hfront, hbase⟩)
  · exact hup (Path.mem_parts_of_mem_components ((List.dropLast_sublist _).subset hm) (by decide))
  · rcases List.eq_nil_or_concat (Path.names path) with hnil | ⟨pre, n, hnames⟩
    · rw [hnil, List.append_nil] at hl
      exact hbase hl
    · rw [List.concat_eq_append] at hnames
      have hway : d.way (directoryOf path) = d.start path ++ pre :=
        congrArg (d.start path ++ ·) (Path.dropLast_components_filter hnames)
      rw [hl, hnames, hway, List.prefix_append_right_inj] at hfront
      have hlength := hfront.length_le
      rw [List.length_append, List.length_singleton] at hlength
      omega

/-- What a path led to is still there if only directories have been made, and nothing else has
happened to it. -/
theorem find?_kept (htree : d.Tree) {d₁ : Disk} (hgrown : Disk.Grown (directoryOf path) d d₁)
    (hkeeps : d₁.Keeps d') (hsame : ∀ l, d'.locate path = .ok l → d'.lookup l = d₁.lookup l) :
    (∀ e, d.find? path = some e → d'.find? path = some e) ∧
      (".." ∉ Path.parts path → d'.find? path = d.find? path) := by
  have hforth (e : Files.Entry) (he : d.find? path = some e) : d'.find? path = some e := by
    obtain ⟨l, hl, he⟩ := Disk.find?_eq_some.mp he
    have hl' := (hgrown.keeps.trans hkeeps).locate hl
    refine Disk.find?_eq_some.mpr ⟨l, hl', ?_⟩
    rw [hsame l hl']
    rcases hgrown.spares l with heq | ⟨hnone, -⟩
    · exact heq.trans he
    · rw [he] at hnone
      cases hnone
  refine ⟨hforth, fun hup => Option.ext fun e => ⟨fun he => ?_, hforth e⟩⟩
  obtain ⟨l, hl, he⟩ := Disk.find?_eq_some.mp he
  have hstart : d'.start path = d.start path := by
    rw [Disk.start, Disk.start, Disk.base, Disk.base, (hgrown.keeps.trans hkeeps).1]
  obtain ⟨hpossible, hwalk⟩ := Disk.locate_eq_ok.mp hl
  rw [hstart] at hwalk
  have hdown : l = d.start path ++ Path.names path := Disk.walk_down hup hwalk
  have hlookup : d.lookup l = some e := by
    rcases hgrown.lookup l with heq | ⟨-, -, hway⟩
    · rw [← heq, ← hsame l hl, he]
    · exact absurd hway (not_on_the_way hup hdown)
  have hback := htree.walk_back hup hwalk hlookup he
  exact Disk.find?_eq_some.mpr ⟨l, Disk.locate_eq_ok.mpr ⟨hpossible, hback⟩, hlookup⟩

section Replaced

variable {e : DiskError} {r : Except DiskError Unit}

theorem Replaced.tree (h : Replaced d path content d' r) : d'.Tree := by
  cases h with
  | early grown tree => exact tree
  | late grown tree temporary free => exact tree.put free (tree.parent temporary) _
  | @done d₁ d₂ l l' grown tree temporary free written target free' =>
    have htree : d₂.Tree := written ▸ tree.put free (tree.parent temporary) _
    refine htree.moved ?_ free' (htree.parent target) _
    rw [written, Disk.lookup_put _ (Disk.ne_nil_of_lookup free), if_pos rfl]
    exact nofun

/-- Nothing is left of the temporary file, and no other file is different. -/
theorem Replaced.saved (h : Replaced d path content d' (.ok ())) :
    d'.find? (temporaryPath path) = none ∧ ∀ l, d'.locate path ≠ .ok l →
      d'.locate (temporaryPath path) ≠ .ok l → d.Spares d' l := by
  cases h with
  | @done d₁ d₂ t f grown tree temporary free written target free' =>
    have hname : (Path.ofText path).fileName?.isSome := by
      rw [Option.isSome_iff_ne_none]
      exact fun hnone => free (temporary_directory tree hnone temporary)
    have hput : d₁.Keeps d₂ := written ▸ Disk.keeps_put free _
    have htemporary := hput.locate temporary
    have hfile : d₂.lookup t = some (.file content.toUTF8) := by
      rw [written, Disk.lookup_put _ (Disk.ne_nil_of_lookup free), if_pos rfl]
    have hfree : d₂.lookup t ≠ some .directory := by
      rw [hfile]
      exact nofun
    have hmoved := Disk.lookup_moved d₂ (Disk.ne_nil_of_lookup hfree) (Disk.ne_nil_of_lookup free')
      (.file content.toUTF8)
    have hkeeps := Disk.keeps_moved hfree free' (.file content.toUTF8)
    have hne : t ≠ f := locate_temporaryPath_ne hname target htemporary
    refine ⟨?_, fun l hl hl' => ?_⟩
    · rw [Disk.find?_of_locate (hkeeps.locate htemporary), hmoved, if_neg hne.symm, if_pos rfl]
    · have hf : f ≠ l := fun heq => hl (heq ▸ hkeeps.locate target)
      have ht : t ≠ l := fun heq => hl' (heq ▸ hkeeps.locate htemporary)
      have hlookup : d₂.lookup l = d₁.lookup l := by
        rw [written, Disk.lookup_put _ (Disk.ne_nil_of_lookup free), if_neg ht]
      rw [Disk.Spares, hmoved, if_neg hf, if_neg ht, hlookup]
      exact grown.spares l

/-- At most the temporary file is different, and directories are new. -/
theorem Replaced.failed (htree : d.Tree) (h : Replaced d path content d' (.error e)) :
    (∀ entry, d.find? path = some entry → d'.find? path = some entry) ∧
      (".." ∉ Path.parts path → d'.find? path = d.find? path) ∧
      (∀ l, d'.locate path = .ok l → d.Spares d' l) ∧
      ∀ l, d'.locate (temporaryPath path) ≠ .ok l → d.Spares d' l := by
  cases h with
  | early grown tree =>
    obtain ⟨hthere, hsame⟩ := find?_kept htree grown ⟨rfl, fun _ h => h⟩ fun _ _ => rfl
    exact ⟨hthere, hsame, fun l _ => grown.spares l, fun l _ => grown.spares l⟩
  | @late d₁ e t grown tree temporary free =>
    have hname : (Path.ofText path).fileName?.isSome := by
      rw [Option.isSome_iff_ne_none]
      exact fun hnone => free (temporary_directory tree hnone temporary)
    have hkeeps := Disk.keeps_put free (.file content.toUTF8)
    have hother (l : Location) (hl : t ≠ l) :
        (d₁.put t (.file content.toUTF8)).lookup l = d₁.lookup l := by
      rw [Disk.lookup_put _ (Disk.ne_nil_of_lookup free), if_neg hl]
    have hspares (l : Location) (hl : t ≠ l) : d.Spares (d₁.put t (.file content.toUTF8)) l := by
      rw [Disk.Spares, hother l hl]
      exact grown.spares l
    have hne (l : Location) (hl : (d₁.put t (.file content.toUTF8)).locate path = .ok l) : t ≠ l :=
      locate_temporaryPath_ne hname hl (hkeeps.locate temporary)
    obtain ⟨hthere, hsame⟩ := find?_kept htree grown hkeeps fun l hl => hother l (hne l hl)
    exact ⟨hthere, hsame, fun l hl => hspares l (hne l hl),
      fun l hl => hspares l fun heq => hl (heq ▸ hkeeps.locate temporary)⟩

end Replaced

/-- What an update leaves behind, in memory and in the files. -/
structure Careful (d : Disk) (path : String) (new : Settings) (u : Updated) : Prop where
  /-- The settings in memory are the new ones in any case. -/
  store : u.store = ⟨some path, new⟩
  tree : u.disk.Tree
  saved : ∀ s, u.result = .ok s → s = new ∧ load u.disk path = .ok ⟨some path, s⟩ ∧
    u.disk.find? (temporaryPath path) = none ∧ ∀ l, u.disk.locate path ≠ .ok l →
      u.disk.locate (temporaryPath path) ≠ .ok l → d.Spares u.disk l
  /-- Where there was nothing, there is nothing, unless the directories that have been made let the
  path lead up through them to something else. -/
  failed : ∀ e, u.result = .error e →
    (∀ entry, d.find? path = some entry → u.disk.find? path = some entry) ∧
      (".." ∉ Path.parts path → u.disk.find? path = d.find? path) ∧
      (∀ l, u.disk.locate path = .ok l → d.Spares u.disk l) ∧
      ∀ l, u.disk.locate (temporaryPath path) ≠ .ok l → d.Spares u.disk l
  named : ∀ l, d.locate path = .ok l → d.lookup l ≠ some .directory →
    (Path.ofText path).fileName?.isSome
  apart : (Path.ofText path).fileName?.isSome →
    Path.ofText (temporaryPath path) ≠ Path.ofText path ∧
      ∀ l, d.locate path = .ok l → d.locate (temporaryPath path) ≠ .ok l

theorem update_eq (d : Disk) (path : String) (s : Settings) (change : Settings → Settings) :
    update d ⟨some path, s⟩ change =
      { disk := (replaceContent d path (change s).json.prettyText).1
        store := ⟨some path, change s⟩
        result := ((replaceContent d path (change s).json.prettyText).2.mapError (.disk path)).map
          fun _ => change s } := by
  simp only [update, persist]

theorem update_careful (htree : d.Tree) (path : String) (s : Settings)
    (change : Settings → Settings) :
    Careful d path (change s) (update d ⟨some path, s⟩ change) := by
  have hreplaced := replaced htree path (change s).json.prettyText
  have hload (new : Settings) (h : (update d ⟨some path, s⟩ change).result = .ok new) :=
    load_of_update h
  rw [update_eq] at hload ⊢
  generalize (replaceContent d path (change s).json.prettyText).1 = d' at *
  generalize (replaceContent d path (change s).json.prettyText).2 = written at *
  refine ⟨rfl, hreplaced.tree, fun new hnew => ?saved, fun e he => ?failed, fun l hl hfile => ?named,
    fun hname => ⟨temporaryPath_ne hname, fun l hl hl' => locate_temporaryPath_ne hname hl hl' rfl⟩⟩
  case saved =>
    have hload := hload new hnew
    obtain ⟨⟨⟩, hok, rfl⟩ := map_eq_ok.mp hnew
    rw [mapError_eq_ok.mp hok] at hreplaced
    exact ⟨rfl, hload, hreplaced.saved⟩
  case failed =>
    cases written with
    | ok u => cases he
    | error err => exact hreplaced.failed htree
  case named =>
    rw [Option.isSome_iff_ne_none]
    exact fun hnone => hfile (htree.directory_of_nameless hnone hl)

/-- A directory with a settings file in it. -/
def housed : Disk := (Disk.empty.put ["cfg"] .directory).put ["cfg", "s.json"] (.file "old".toUTF8)

def verbose (s : Settings) : Settings := { s with logLevel := "debug" }

theorem empty_tree : Disk.Tree .empty := fun l e h => by
  by_cases hl : l = []
  · rw [hl]
    rfl
  · rw [Disk.lookup_of_ne_nil hl] at h
    simp [Disk.empty] at h

theorem housed_tree : housed.Tree := by
  have hdirectory : (Disk.empty.put ["cfg"] .directory).Tree :=
    empty_tree.put (by decide +kernel) (by decide +kernel) _
  exact hdirectory.put (by decide +kernel) (by decide +kernel) _

/-- The file is replaced; the directory cannot be. -/
theorem update_careful_of_housed : housed.Tree ∧
    load (update housed ⟨some "cfg/s.json", {}⟩ verbose).disk "cfg/s.json" =
      .ok ⟨some "cfg/s.json", verbose {}⟩ ∧
    (update housed ⟨some "cfg/s.json", {}⟩ verbose).disk.find? "cfg/s.json.tmp" = none ∧
    (update housed ⟨some "cfg", {}⟩ verbose).result = .error (.disk "cfg" .isADirectory) ∧
    (update housed ⟨some "cfg", {}⟩ verbose).disk.find? "cfg" = some .directory ∧
    (update housed ⟨some "cfg", {}⟩ verbose).disk.find? "cfg/s.json" =
      some (.file "old".toUTF8) := by
  have hok : (update housed ⟨some "cfg/s.json", {}⟩ verbose).result = .ok (verbose {}) := by
    decide +kernel
  have herror : (update housed ⟨some "cfg", {}⟩ verbose).result =
      .error (.disk "cfg" .isADirectory) := by decide +kernel
  obtain ⟨-, hload, hgone, -⟩ := (update_careful housed_tree "cfg/s.json" {} verbose).saved _ hok
  obtain ⟨hthere, -⟩ := (update_careful housed_tree "cfg" {} verbose).failed _ herror
  exact ⟨housed_tree, hload, hgone, herror, hthere _ (by decide +kernel), by decide +kernel⟩

/-- On the way up through a missing directory that very directory is made, and the path leads to it:
where nothing was there is something, and the defaults are no longer what is loaded. -/
theorem update_makes_directory : Disk.Tree .empty ∧
    (update .empty ⟨some "a/../a", {}⟩ verbose).result = .error (.disk "a/../a" .isADirectory) ∧
    Disk.empty.find? "a/../a" = none ∧
    (update .empty ⟨some "a/../a", {}⟩ verbose).disk.find? "a/../a" = some .directory ∧
    load .empty "a/../a" = .ok ⟨some "a/../a", {}⟩ ∧
    load (update .empty ⟨some "a/../a", {}⟩ verbose).disk "a/../a" =
      .error (.disk "a/../a" .isADirectory) := by
  refine ⟨empty_tree, ?_, ?_, ?_, ?_, ?_⟩ <;> decide +kernel

end SettingsStore

end TrafficWatch
