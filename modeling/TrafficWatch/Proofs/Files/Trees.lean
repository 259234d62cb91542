import Mathlib.Data.List.Induction
import TrafficWatch.Proofs.Files.Saving
import TrafficWatch.Proofs.Splitting

/-!
Where paths lead in a tree of files. A path goes through its names, one after the other; what says
nothing in it only asks that there is a directory. Making the directories of a path adds directories
where nothing was, and changes nothing else.
-/

namespace TrafficWatch.Files

namespace Path

/-- The names that a path goes through. -/
def names (path : String) : List String := (parts path).filter (! isNeutral ·)

/-- The components of a path as they come out of a text. -/
def Proper (p : Path) : Prop := ∀ c ∈ p.components, c ≠ "" ∧ '/' ∉ c.toList

variable {p : Path} {path c n : String} {pre : List String}

theorem slash_not_mem_parts (h : c ∈ parts path) : '/' ∉ c.toList := by
  obtain ⟨cs, hcs, rfl⟩ := List.mem_map.mp h
  rw [String.toList_ofList]
  exact not_mem_of_mem_splitOn hcs

theorem mem_names (h : c ∈ names path) : c ≠ "" ∧ c ≠ "." ∧ '/' ∉ c.toList := by
  obtain ⟨hpart, hneutral⟩ := List.mem_filter.mp h
  simp only [isNeutral, Bool.not_or, Bool.and_eq_true, Bool.not_eq_true', beq_eq_false_iff_ne]
    at hneutral
  exact ⟨hneutral.1, hneutral.2, slash_not_mem_parts hpart⟩

theorem not_neutral_of_names (h : names path = pre ++ [n]) : isNeutral n = false := by
  have hmem : n ∈ names path := h ▸ List.mem_append_right pre List.mem_cons_self
  simpa using (List.mem_filter.mp hmem).2

theorem parts_ne_nil (path : String) : parts path ≠ [] := fun h =>
  List.splitOn_ne_nil '/' path.toList (List.map_eq_nil_iff.mp h)

theorem proper_ofText (path : String) : (ofText path).Proper := by
  intro c hc
  rcases List.mem_append.mp hc with hc | hc
  · split at hc
    · obtain rfl := List.mem_singleton.mp hc
      decide
    · cases hc
  · have h := mem_names hc
    exact ⟨h.1, h.2.2⟩

theorem toList_text (p : Path) : p.text.toList =
    (if p.absolute then ['/'] else []) ++ ['/'].intercalate (p.components.map String.toList) := by
  rw [text, String.toList_append, String.toList_intercalate]
  cases p.absolute <;> rfl

theorem parts_text (h : p.Proper) (hne : p.components ≠ []) :
    parts p.text = (if p.absolute then [""] else []) ++ p.components := by
  have hslash : ∀ cs ∈ p.components.map String.toList, '/' ∉ cs := by
    intro cs hcs
    obtain ⟨c, hc, rfl⟩ := List.mem_map.mp hcs
    exact (h c hc).2
  have hback : (p.components.map String.toList).map String.ofList = p.components := by
    simp
  have hsplit := List.splitOn_intercalate '/' hslash (by simpa using hne)
  rw [parts, toList_text]
  cases p.absolute with
  | false => simp only [Bool.false_eq_true, ↓reduceIte, List.nil_append, hsplit, hback]
  | true =>
    simp only [↓reduceIte, List.singleton_append]
    rw [List.splitOn_cons_eq_if_modifyHead, if_pos (by decide), hsplit, List.map_cons, hback]

/-- A path that is written out goes through its components. -/
theorem names_text (h : p.Proper) : names p.text = p.components.filter (! isNeutral ·) := by
  by_cases hne : p.components = []
  · have htext : p.text = if p.absolute then "/" else "" := by
      rw [text, hne]
      cases p.absolute <;> rfl
    rw [names, htext, hne]
    cases p.absolute <;> decide
  · rw [names, parts_text h hne, List.filter_append]
    cases p.absolute <;> rfl

theorem head?_text (h : p.Proper) : p.text.toList.head? = some '/' ↔ p.absolute = true := by
  rw [toList_text]
  cases p.absolute with
  | true => simp
  | false =>
    cases hcs : p.components with
    | nil => simp
    | cons c cs =>
      have hc := h c (hcs ▸ List.mem_cons_self)
      obtain ⟨x, xs, hx⟩ := List.exists_cons_of_ne_nil
        (fun hnil => hc.1 (String.toList_eq_nil_iff.mp hnil))
      have hslash : x ≠ '/' := fun heq => hc.2 (hx ▸ heq ▸ List.mem_cons_self)
      cases cs <;> simp [hx, hslash]

theorem components_filter (path : String) :
    (ofText path).components.filter (! isNeutral ·) = names path := by
  have hnames : (names path).filter (! isNeutral ·) = names path := by
    rw [names, List.filter_filter]
    simp
  change ((if (parts path).head? == some "." then ["."] else []) ++ names path).filter _ = _
  rw [List.filter_append, hnames]
  split <;> rfl

/-- Without its last component a path goes through one name less. -/
theorem dropLast_components_filter (h : names path = pre ++ [n]) :
    (ofText path).components.dropLast.filter (! isNeutral ·) = pre := by
  have hcomponents : (ofText path).components =
      (if (parts path).head? == some "." then ["."] else []) ++ names path := rfl
  have hpre : pre.filter (! isNeutral ·) = pre := List.filter_eq_self.mpr fun c hc =>
    (List.mem_filter.mp (h ▸ List.mem_append_left [n] hc : c ∈ names path)).2
  rw [hcomponents, h, ← List.append_assoc, List.dropLast_concat, List.filter_append, hpre]
  split <;> rfl

theorem mem_parts_of_mem_components (h : c ∈ (ofText path).components) (hc : c ≠ ".") :
    c ∈ parts path := by
  rcases List.mem_append.mp h with h | h
  · split at h
    · exact absurd (List.mem_singleton.mp h) hc
    · cases h
  · exact (List.mem_filter.mp h).1

theorem fileName?_ofText (path : String) :
    (ofText path).fileName? = (names path).getLast?.filter (· != "..") := by
  have hcomponents : (ofText path).components =
      (if (parts path).head? == some "." then ["."] else []) ++ names path := rfl
  rw [fileName?, hcomponents]
  rcases List.eq_nil_or_concat (names path) with hnil | ⟨pre, n, hn⟩
  · rw [hnil, List.append_nil]
    split <;> rfl
  · have hmem : n ∈ names path := by
      rw [hn, List.concat_eq_append]
      exact List.mem_append_right pre List.mem_cons_self
    have hdot : n ≠ "." := (mem_names hmem).2.1
    rw [hn, List.concat_eq_append, ← List.append_assoc, List.getLast?_concat, List.getLast?_concat]
    simp [Option.filter, hdot]

theorem fileName?_eq_some : (ofText path).fileName? = some n ↔
    n ≠ ".." ∧ ∃ pre, names path = pre ++ [n] := by
  rw [fileName?_ofText, Option.filter_eq_some_iff, List.getLast?_eq_some_iff, bne_iff_ne, and_comm]

end Path

namespace Disk

variable {d d' : Disk} {path c : String} {l : Location} {here : Location} {cs : List String}

/-- Whatever is somewhere is in a directory. -/
def Tree (d : Disk) : Prop := ∀ l e, d.lookup l = some e → d.lookup l.dropLast = some .directory

/-- What a path leads to. -/
def find? (d : Disk) (path : String) : Option Entry := (d.locate path).toOption.bind d.lookup

/-- Where paths begin. -/
def base (d : Disk) (absolute : Bool) : Location := if absolute then [] else d.workingDirectory

def start (d : Disk) (path : String) : Location := d.base (Path.ofText path).absolute

theorem find?_of_locate (h : d.locate path = .ok l) : d.find? path = d.lookup l := by
  rw [find?, h]
  rfl

theorem find?_eq_some {e : Entry} :
    d.find? path = some e ↔ ∃ l, d.locate path = .ok l ∧ d.lookup l = some e := by
  constructor
  · intro h
    cases hl : d.locate path with
    | error err =>
      rw [find?, hl] at h
      cases h
    | ok l => exact ⟨l, rfl, (find?_of_locate hl).symm.trans h⟩
  · rintro ⟨l, hl, he⟩
    rw [find?_of_locate hl, he]

theorem Keeps.trans {d'' : Disk} (h : d.Keeps d') (h' : d'.Keeps d'') : d.Keeps d'' :=
  ⟨h'.1.trans h.1, fun l hl => h'.2 l (h.2 l hl)⟩

/-! Walking along a path. -/

/-- Where one more name leads from a directory. -/
def next (here : Location) (c : String) : Location :=
  if Path.isNeutral c then here else if c = ".." then here.dropLast else here ++ [c]

theorem next_of_plain (hneutral : Path.isNeutral c = false) (hup : c ≠ "..") :
    next here c = here ++ [c] := by
  rw [next, if_neg (by simp [hneutral]), if_neg hup]

theorem walk_cons : d.walk here (c :: cs) = .ok l ↔ d.lookup here = some .directory ∧
    c.utf8ByteSize ≤ Path.maxName ∧ d.walk (next here c) cs = .ok l := by
  rw [walk]
  cases d.lookup here with
  | none =>
    constructor
    · rintro ⟨⟩
    · rintro ⟨⟨⟩, -⟩
  | some e =>
    cases e with
    | file b =>
      constructor
      · rintro ⟨⟩
      · rintro ⟨⟨⟩, -⟩
    | directory =>
      dsimp only
      split
      · next hlong =>
        constructor
        · rintro ⟨⟩
        · exact fun h => absurd h.2.1 (Nat.not_le.mpr hlong)
      · next hshort => exact ⟨fun h => ⟨rfl, Nat.le_of_not_lt hshort, h⟩, fun h => h.2.2⟩

theorem walk_append {ds : List String} : d.walk here (cs ++ ds) = .ok l ↔
    ∃ q, d.walk here cs = .ok q ∧ d.walk q ds = .ok l := by
  induction cs generalizing here with
  | nil => exact ⟨fun h => ⟨here, rfl, h⟩, by rintro ⟨_, ⟨⟩, h⟩; exact h⟩
  | cons c cs ih =>
    simp only [List.cons_append, walk_cons, ih]
    constructor
    · rintro ⟨hdir, hlen, q, hq, hl⟩
      exact ⟨q, ⟨hdir, hlen, hq⟩, hl⟩
    · rintro ⟨q, ⟨hdir, hlen, hq⟩, hl⟩
      exact ⟨hdir, hlen, q, hq, hl⟩

theorem walk_concat : d.walk here (cs ++ [c]) = .ok l ↔ ∃ q, d.walk here cs = .ok q ∧
    d.lookup q = some .directory ∧ c.utf8ByteSize ≤ Path.maxName ∧ l = next q c := by
  simp only [walk_append, walk_cons]
  constructor
  · rintro ⟨q, hq, hdir, hlen, hl⟩
    exact ⟨q, hq, hdir, hlen, (Except.ok.inj hl).symm⟩
  · rintro ⟨q, hq, hdir, hlen, rfl⟩
    exact ⟨q, hq, hdir, hlen, rfl⟩

/-- What says nothing in a path makes no difference to where it leads. -/
theorem walk_filter (h : d.walk here cs = .ok l) :
    d.walk here (cs.filter (! Path.isNeutral ·)) = .ok l := by
  induction cs generalizing here with
  | nil => exact h
  | cons c cs ih =>
    obtain ⟨hdir, hlen, h⟩ := walk_cons.mp h
    cases hc : Path.isNeutral c with
    | true =>
      rw [List.filter_cons_of_neg (by simp [hc])]
      rw [next, if_pos hc] at h
      exact ih h
    | false =>
      rw [List.filter_cons_of_pos (by simp [hc])]
      exact walk_cons.mpr ⟨hdir, hlen, ih h⟩

/-- Without steps up a path leads below where it begins. -/
theorem walk_down (hup : ".." ∉ cs) (h : d.walk here cs = .ok l) :
    l = here ++ cs.filter (! Path.isNeutral ·) := by
  induction cs generalizing here with
  | nil => exact (Except.ok.inj h).symm.trans (List.append_nil here).symm
  | cons c cs ih =>
    obtain ⟨-, -, h⟩ := walk_cons.mp h
    obtain ⟨hc, hcs⟩ := not_or.mp (List.mem_cons.not.mp hup)
    have hl := ih hcs h
    cases hneutral : Path.isNeutral c with
    | true =>
      rw [List.filter_cons_of_neg (by simp [hneutral]), hl, next, if_pos hneutral]
    | false =>
      rw [List.filter_cons_of_pos (by simp [hneutral]), hl,
        next_of_plain hneutral fun h => hc h.symm, List.append_assoc, List.singleton_append]

theorem locate_eq_ok : d.locate path = .ok l ↔
    (path.toList.contains '\x00' = false ∧ path.isEmpty = false ∧
      path.utf8ByteSize ≤ Path.maxLength) ∧ d.walk (d.start path) (Path.parts path) = .ok l := by
  have hstart : (if path.toList.head? = some '/' then [] else d.workingDirectory) = d.start path :=
    if_congr beq_iff_eq.symm rfl rfl
  unfold locate
  rw [hstart]
  split
  · next h => exact ⟨nofun, fun h' => absurd (h.symm.trans h'.1.1) (by decide)⟩
  next hnull =>
  split
  · next h => exact ⟨nofun, fun h' => absurd (h.symm.trans h'.1.2.1) (by decide)⟩
  next hempty =>
  split
  · next h => exact ⟨nofun, fun h' => absurd h (Nat.not_lt.mpr h'.1.2.2)⟩
  · next hlong =>
    exact ⟨fun h => ⟨⟨Bool.eq_false_iff.mpr hnull, Bool.eq_false_iff.mpr hempty,
      Nat.le_of_not_lt hlong⟩, h⟩, fun h => h.2⟩

theorem walk_of_locate (h : d.locate path = .ok l) :
    d.walk (d.start path) (Path.parts path) = .ok l := (locate_eq_ok.mp h).2

theorem walk_names (h : d.locate path = .ok l) : d.walk (d.start path) (Path.names path) = .ok l :=
  walk_filter (walk_of_locate h)

theorem start_directory (h : d.locate path = .ok l) : d.lookup (d.start path) = some .directory := by
  obtain ⟨c, cs, hparts⟩ := List.exists_cons_of_ne_nil (Path.parts_ne_nil path)
  exact (walk_cons.mp (hparts ▸ walk_of_locate h)).1

/-! Trees. -/

theorem Tree.next (hd : d.Tree) (hdir : d.lookup here = some .directory) :
    d.lookup (next here c).dropLast = some .directory ∧
      (c = ".." → d.lookup (Disk.next here c) = some .directory) := by
  unfold Disk.next
  split
  · next hc => exact ⟨hd _ _ hdir, fun h => by rw [h] at hc; exact absurd hc (by decide)⟩
  split
  · exact ⟨hd _ _ (hd _ _ hdir), fun _ => hd _ _ hdir⟩
  · next hup => exact ⟨by rw [List.dropLast_concat, hdir], fun h => absurd h hup⟩

/-- A path leads into a directory, even if nothing is there. -/
theorem Tree.parent (hd : d.Tree) (h : d.locate path = .ok l) :
    d.lookup l.dropLast = some .directory := by
  obtain ⟨cs, c, hparts⟩ := (List.eq_nil_or_concat _).resolve_left (Path.parts_ne_nil path)
  have hwalk := walk_of_locate h
  rw [hparts, List.concat_eq_append] at hwalk
  obtain ⟨q, -, hdir, -, rfl⟩ := walk_concat.mp hwalk
  exact (hd.next hdir).1

/-- A path that names no file leads to a directory if it leads anywhere. -/
theorem Tree.directory_of_nameless (hd : d.Tree) (hname : (Path.ofText path).fileName? = none)
    (h : d.locate path = .ok l) : d.lookup l = some .directory := by
  have hwalk := walk_names h
  rcases List.eq_nil_or_concat (Path.names path) with hnil | ⟨pre, c, hc⟩
  · rw [hnil] at hwalk
    obtain rfl := Except.ok.inj hwalk
    exact start_directory h
  · rw [List.concat_eq_append] at hc
    rw [hc] at hwalk
    obtain ⟨q, -, hdir, -, rfl⟩ := walk_concat.mp hwalk
    have hup : c = ".." := by
      by_contra hne
      have hsome := Path.fileName?_eq_some.mpr ⟨hne, pre, hc⟩
      rw [hname] at hsome
      cases hsome
    exact (hd.next hdir).2 hup

theorem Tree.above (hd : d.Tree) {e : Entry} (below : Location) (hne : below ≠ [])
    (h : d.lookup (l ++ below) = some e) : d.lookup l = some .directory := by
  induction below using List.reverseRecOn generalizing e with
  | nil => exact absurd rfl hne
  | append_singleton below x ih =>
    rw [← List.append_assoc] at h
    have hparent := hd _ _ h
    rw [List.dropLast_concat] at hparent
    by_cases hbelow : below = []
    · rwa [hbelow, List.append_nil] at hparent
    · exact ih hbelow hparent

theorem Tree.put (hd : d.Tree) (hl : d.lookup l ≠ some .directory)
    (hparent : d.lookup l.dropLast = some .directory) (e : Entry) : (d.put l e).Tree := by
  intro l' e' h
  refine (keeps_put hl e).2 _ ?_
  rw [lookup_put d (ne_nil_of_lookup hl)] at h
  split at h
  · next heq => exact heq ▸ hparent
  · exact hd l' e' h

theorem Tree.moved (hd : d.Tree) {old new : Location} (hold : d.lookup old ≠ some .directory)
    (hnew : d.lookup new ≠ some .directory) (hparent : d.lookup new.dropLast = some .directory)
    (e : Entry) : Tree { d with entries := (d.entries.erase old).insert new e } := by
  intro l e' h
  refine (keeps_moved hold hnew e).2 _ ?_
  rw [lookup_moved d (ne_nil_of_lookup hold) (ne_nil_of_lookup hnew)] at h
  split at h
  · next heq => exact heq ▸ hparent
  split at h
  · cases h
  · exact hd l e' h

/-- Where nothing goes up, a path is walked in a tree if what it leads to is there. -/
theorem Tree.walk_back (hd : d.Tree) (hup : ".." ∉ cs) (h : d'.walk here cs = .ok l) {e : Entry}
    (he : d.lookup l = some e) (he' : d'.lookup l = some e) : d.walk here cs = .ok l := by
  induction cs generalizing here with
  | nil => exact h
  | cons c cs ih =>
    have hl := walk_down hup h
    obtain ⟨hdir, hlen, h⟩ := walk_cons.mp h
    have hthere : d.lookup here = some .directory := by
      by_cases hnil : (c :: cs).filter (! Path.isNeutral ·) = []
      · rw [hnil, List.append_nil] at hl
        rw [← hl, he, ← he', hl, hdir]
      · exact hd.above _ hnil (hl ▸ he)
    exact walk_cons.mpr ⟨hthere, hlen, ih (fun hm => hup (List.mem_cons_of_mem c hm)) h⟩

/-! Making the directories of a path. -/

/-- Where a path without steps up leads. -/
def way (d : Disk) (p : Path) : Location :=
  d.base p.absolute ++ p.components.filter (! Path.isNeutral ·)

/-- Directories have been made on the way of a path, where nothing was; nothing else is different. -/
structure Grown (p : Path) (d d' : Disk) : Prop where
  workingDirectory : d'.workingDirectory = d.workingDirectory
  lookup : ∀ l, d'.lookup l = d.lookup l ∨ (d.lookup l = none ∧ d'.lookup l = some .directory ∧
    (".." ∈ p.components ∨ (l <+: d.way p ∧ l ≠ d.base p.absolute)))

variable {p : Path} {absolute : Bool} {names : List String} {made : Except DiskError Unit}

/-- What is somewhere is as it was, but for a directory where nothing was. -/
def Spares (d d' : Disk) (l : Location) : Prop :=
  d'.lookup l = d.lookup l ∨ d.lookup l = none ∧ d'.lookup l = some .directory

theorem Grown.spares (h : Grown p d d') (l : Location) : d.Spares d' l :=
  (h.lookup l).imp_right fun h => ⟨h.1, h.2.1⟩

theorem Grown.refl (p : Path) (d : Disk) : Grown p d d := ⟨rfl, fun _ => .inl rfl⟩

theorem Grown.trans {d'' : Disk} (h : Grown p d d') (h' : Grown p d' d'') : Grown p d d'' where
  workingDirectory := h'.workingDirectory.trans h.workingDirectory
  lookup l := by
    have hbase : d'.base p.absolute = d.base p.absolute := by rw [base, base, h.workingDirectory]
    have hway : d'.way p = d.way p := by rw [way, way, hbase]
    rcases h.lookup l with hl | ⟨hnone, hdir, hon⟩ <;>
      rcases h'.lookup l with hl' | ⟨hnone', hdir', hon'⟩
    · exact .inl (hl'.trans hl)
    · exact .inr ⟨hl ▸ hnone', hdir', hway ▸ hbase ▸ hon'⟩
    · exact .inr ⟨hnone, hl'.trans hdir, hon⟩
    · rw [hdir] at hnone'
      cases hnone'

theorem Grown.longer (h : Grown ⟨absolute, names⟩ d d') (c : String) :
    Grown ⟨absolute, names ++ [c]⟩ d d' where
  workingDirectory := h.workingDirectory
  lookup l := by
    have hway : d.way ⟨absolute, names⟩ <+: d.way ⟨absolute, names ++ [c]⟩ := by
      rw [way, way, List.filter_append, ← List.append_assoc]
      exact List.prefix_append _ _
    refine (h.lookup l).imp_right fun ⟨hnone, hdir, hon⟩ => ⟨hnone, hdir, ?_⟩
    exact hon.imp (List.mem_append_left [c]) fun h => ⟨h.1.trans hway, h.2⟩

theorem Grown.keeps (h : Grown p d d') : d.Keeps d' := by
  refine ⟨h.workingDirectory, fun l hl => ?_⟩
  rcases h.lookup l with heq | ⟨hnone, -⟩
  · exact heq.trans hl
  · rw [hl] at hnone
    cases hnone

theorem start_text (hp : p.Proper) : d.start p.text = d.base p.absolute := by
  have habsolute : (Path.ofText p.text).absolute = p.absolute := by
    rw [Bool.eq_iff_iff, ← Path.head?_text hp]
    exact beq_iff_eq
  rw [start, habsolute]

theorem ensureDirectory_eq_ok (h : d.ensureDirectory path = .ok d') : d' = d ∨
    ∃ l, d.locate path = .ok l ∧ d.lookup l = none ∧ d' = d.put l .directory := by
  unfold ensureDirectory at h
  split at h
  · next d₁ hmake =>
    obtain rfl := Except.ok.inj h
    obtain ⟨l, hl, hmake⟩ := bind_eq_ok.mp hmake
    split at hmake
    · cases hmake
    · next hnone => exact .inr ⟨l, hl, hnone, (Except.ok.inj hmake).symm⟩
  · split at h
    · exact .inl (Except.ok.inj h).symm
    · cases h

theorem Tree.ensureDirectory (hd : d.Tree) (hp : p.Proper)
    (h : d.ensureDirectory p.text = .ok d') : Grown p d d' ∧ d'.Tree := by
  rcases ensureDirectory_eq_ok h with rfl | ⟨l, hl, hnone, rfl⟩
  · exact ⟨.refl p d', hd⟩
  · have hdir : d.lookup l ≠ some .directory := by
      rw [hnone]
      exact nofun
    refine ⟨⟨rfl, fun l' => ?_⟩, hd.put hdir (hd.parent hl) _⟩
    rw [lookup_put d (ne_nil_of_lookup hdir)]
    split
    · next heq =>
      subst heq
      refine .inr ⟨hnone, rfl, or_iff_not_imp_left.mpr fun hup => ?_⟩
      have hwalk := walk_names hl
      rw [Path.names_text hp, start_text hp] at hwalk
      have hup' : ".." ∉ p.components.filter (! Path.isNeutral ·) := fun hm =>
        hup (List.mem_filter.mp hm).1
      have hway : l = d.way p := by
        rw [walk_down hup' hwalk, List.filter_filter, way]
        simp
      refine ⟨hway ▸ List.prefix_rfl, fun heq => ?_⟩
      rw [← start_text hp] at heq
      rw [heq, start_directory hl] at hnone
      cases hnone
    · exact .inl rfl

/-- Whether or not all directories of a path could be made, nothing else is different. -/
theorem Tree.ensureTree (hd : d.Tree) (hp : Path.Proper ⟨absolute, names.reverse⟩)
    (h : d.ensureTree absolute names = (d', made)) : Grown ⟨absolute, names.reverse⟩ d d' ∧ d'.Tree := by
  induction names generalizing d' made with
  | nil =>
    obtain rfl := (Prod.mk.inj h).1
    exact ⟨.refl _ d, hd⟩
  | cons c above ih =>
    have habove : Path.Proper ⟨absolute, above.reverse⟩ := fun x hx =>
      hp x (by simpa using .inl (List.mem_reverse.mp hx))
    rw [Disk.ensureTree] at h
    split at h
    · next hensure =>
      obtain rfl := (Prod.mk.inj h).1
      exact hd.ensureDirectory hp hensure
    · split at h
      · next habove' =>
        obtain rfl := (Prod.mk.inj h).1
        obtain ⟨hgrown, htree⟩ := ih habove habove'
        exact ⟨List.reverse_cons ▸ hgrown.longer c, htree⟩
      · next d₁ habove' =>
        obtain ⟨hgrown, htree⟩ := ih habove habove'
        have hlonger : Grown ⟨absolute, (c :: above).reverse⟩ d d₁ :=
          List.reverse_cons ▸ hgrown.longer c
        split at h
        · next hensure =>
          obtain rfl := (Prod.mk.inj h).1
          obtain ⟨hlast, htree'⟩ := htree.ensureDirectory hp hensure
          exact ⟨hlonger.trans hlast, htree'⟩
        · obtain rfl := (Prod.mk.inj h).1
          exact ⟨hlonger, htree⟩
    · obtain rfl := (Prod.mk.inj h).1
      exact ⟨.refl _ d, hd⟩

end Disk

end TrafficWatch.Files
