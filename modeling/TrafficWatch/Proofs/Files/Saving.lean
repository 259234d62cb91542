import TrafficWatch.Proofs.Fallible
import TrafficWatch.Settings
import TrafficWatch.Text.Lossy

/-!
Files as they are written and moved. Neither changes which directories there are, so a path that led
somewhere still leads there; and what was written is what is read once it has been moved in place.
-/

namespace TrafficWatch.Files

namespace Disk

/-- Every directory of the one tree is one of the other. -/
def Keeps (d d' : Disk) : Prop :=
  d'.workingDirectory = d.workingDirectory ∧
    ∀ l, d.lookup l = some .directory → d'.lookup l = some .directory

variable {d d' : Disk}

theorem Keeps.walk (h : d.Keeps d') {here : Location} {cs : List String} {l : Location}
    (hwalk : d.walk here cs = .ok l) : d'.walk here cs = .ok l := by
  induction cs generalizing here with
  | nil => exact hwalk
  | cons c cs ih =>
    rw [Disk.walk] at hwalk
    split at hwalk
    · cases hwalk
    · cases hwalk
    · next hdir =>
      rw [Disk.walk, h.2 here hdir]
      split at hwalk
      · cases hwalk
      · next hname =>
        simp only [hname, ↓reduceIte]
        exact ih hwalk

theorem Keeps.locate (h : d.Keeps d') {path : String} {l : Location}
    (hpath : d.locate path = .ok l) : d'.locate path = .ok l := by
  unfold Disk.locate at hpath ⊢
  rw [h.1]
  split at hpath
  · cases hpath
  split at hpath
  · cases hpath
  split at hpath
  · cases hpath
  · next hnull hempty hlong =>
    simp only [hnull, hempty, hlong, Bool.false_eq_true, ↓reduceIte]
    exact h.walk hpath

theorem lookup_of_ne_nil {l : Location} (hl : l ≠ []) : d.lookup l = d.entries[l]? := by
  rw [lookup, if_neg (by simpa using hl)]

theorem lookup_put (d : Disk) {l : Location} (hl : l ≠ []) (e : Entry) (l' : Location) :
    (d.put l e).lookup l' = if l = l' then some e else d.lookup l' := by
  by_cases hnil : l' = []
  · subst hnil
    rw [if_neg hl]
    rfl
  · rw [lookup_of_ne_nil hnil, lookup_of_ne_nil hnil]
    simp only [put, Std.ExtTreeMap.getElem?_insert, Std.LawfulEqCmp.compare_eq_iff_eq]

theorem ne_nil_of_lookup {l : Location} (h : d.lookup l ≠ some .directory) : l ≠ [] := by
  rintro rfl
  exact h rfl

/-- Putting an entry where there was no directory. -/
theorem keeps_put {l : Location} (hl : d.lookup l ≠ some .directory) (e : Entry) :
    d.Keeps (d.put l e) := by
  refine ⟨rfl, fun l' hl' => ?_⟩
  rw [lookup_put d (ne_nil_of_lookup hl), if_neg, hl']
  rintro rfl
  exact hl hl'

theorem lookup_moved (d : Disk) {old new : Location} (hold : old ≠ []) (hnew : new ≠ []) (e : Entry)
    (l : Location) : ({ d with entries := (d.entries.erase old).insert new e } : Disk).lookup l =
      if new = l then some e else if old = l then none else d.lookup l := by
  by_cases hnil : l = []
  · subst hnil
    rw [if_neg hnew, if_neg hold]
    rfl
  · rw [lookup_of_ne_nil hnil, lookup_of_ne_nil hnil]
    simp only [Std.ExtTreeMap.getElem?_insert, Std.ExtTreeMap.getElem?_erase,
      Std.LawfulEqCmp.compare_eq_iff_eq]

theorem keeps_moved {old new : Location} (hold : d.lookup old ≠ some .directory)
    (hnew : d.lookup new ≠ some .directory) (e : Entry) :
    d.Keeps { d with entries := (d.entries.erase old).insert new e } := by
  refine ⟨rfl, fun l hl => ?_⟩
  rw [lookup_moved d (ne_nil_of_lookup hold) (ne_nil_of_lookup hnew), if_neg, if_neg, hl]
  · rintro rfl
    exact hold hl
  · rintro rfl
    exact hnew hl

theorem withoutSlash_eq {path : String} (h : Path.endsInSlash path = false) :
    Path.withoutSlash path = path := by
  have hlast : path.toList.reverse.head? ≠ some '/' := by
    rw [List.head?_reverse]
    exact ne_of_beq_false h
  have hdrop : path.toList.reverse.dropWhile (· == '/') = path.toList.reverse := by
    cases hcs : path.toList.reverse with
    | nil => rfl
    | cons c cs =>
      rw [hcs] at hlast
      have hc : c ≠ '/' := fun hc => hlast (congrArg some hc)
      rw [List.dropWhile_cons_of_neg (by simpa using hc)]
  unfold Path.withoutSlash
  rw [hdrop, List.reverse_reverse]
  dsimp only
  split
  · rfl
  · exact String.ofList_toList

theorem write_eq_ok {path content : String} (h : d.write path content = .ok d') :
    ∃ l, d.locate path = .ok l ∧ d.lookup l ≠ some .directory ∧
      d' = d.put l (.file content.toUTF8) := by
  obtain ⟨l, hl, h⟩ := bind_eq_ok.mp h
  split at h
  · cases h
  · next hslash =>
    rw [withoutSlash_eq (Bool.eq_false_iff.mpr hslash)] at hl
    split at h
    · cases h
    · next hdir =>
      cases h
      exact ⟨l, hl, hdir, rfl⟩

theorem moveFile_eq_ok {source target : String} (h : d.moveFile source target = .ok d') :
    ∃ old new b, d.locate source = .ok old ∧ d.locate target = .ok new ∧
      d.lookup old = some (.file b) ∧ d.lookup new ≠ some .directory ∧
      d' = { d with entries := (d.entries.erase old).insert new (.file b) } := by
  obtain ⟨old, hold, h⟩ := bind_eq_ok.mp h
  obtain ⟨new, hnew, h⟩ := bind_eq_ok.mp h
  split at h
  · cases h
  · cases h
  · next b hb =>
    split at h
    · cases h
    next hslash =>
    split at h
    · cases h
    · next hdir =>
      cases h
      rw [withoutSlash_eq (Bool.eq_false_iff.mpr hslash)] at hnew
      exact ⟨old, new, b, hold, hnew, hb, by simpa using hdir, rfl⟩

theorem readText_of_lookup {path : String} {l : Location} {b : ByteArray}
    (hl : d.locate path = .ok l) (hfile : d.lookup l = some (.file b)) :
    d.readText path = match String.fromUTF8? b with
      | some s => .ok s
      | none => .error .invalidData := by
  have hbytes : d.readBytes path = .ok b := by
    refine bind_eq_ok.mpr ⟨l, hl, ?_⟩
    rw [hfile]
    rfl
  unfold readText
  rw [hbytes]
  change (match String.fromUTF8? b with
    | some s => pure s
    | none => Except.error DiskError.invalidData) = _
  cases String.fromUTF8? b <;> rfl

theorem has_of_readText {path content : String} (h : d.readText path = .ok content) :
    d.has path = true := by
  obtain ⟨_, hbytes, -⟩ := bind_eq_ok.mp h
  obtain ⟨l, hl, hread⟩ := bind_eq_ok.mp hbytes
  rw [has, hl]
  change (d.lookup l).isSome = true
  cases hentry : d.lookup l with
  | none => exact nomatch hentry ▸ hread
  | some e => rfl

/-- What was written is what is read. -/
theorem readText_of_write {path content : String} (h : d.write path content = .ok d') :
    d'.readText path = .ok content := by
  obtain ⟨l, hl, hdir, rfl⟩ := write_eq_ok h
  have hput : (d.put l (.file content.toUTF8)).lookup l = some (.file content.toUTF8) := by
    rw [lookup_put d (ne_nil_of_lookup hdir), if_pos rfl]
  rw [readText_of_lookup ((keeps_put hdir _).locate hl) hput, Text.fromUTF8?_toUTF8]

/-- What was read where a file was is read where it has been moved to. -/
theorem readText_of_moveFile {source target : String} (h : d.moveFile source target = .ok d') :
    d'.readText target = d.readText source := by
  obtain ⟨old, new, b, hold, hnew, hb, hnewdir, rfl⟩ := moveFile_eq_ok h
  have holddir : d.lookup old ≠ some .directory := by
    rw [hb]
    exact nofun
  rw [readText_of_lookup hold hb]
  refine readText_of_lookup ((keeps_moved holddir hnewdir _).locate hnew) ?_
  rw [lookup_moved _ (ne_nil_of_lookup holddir) (ne_nil_of_lookup hnewdir), if_pos rfl]

end Disk

end TrafficWatch.Files

namespace TrafficWatch.SettingsStore

open Files

theorem readText_of_replaceContent {d d' : Disk} {path content : String}
    (h : replaceContent d path content = (d', .ok ())) : d'.readText path = .ok content := by
  unfold replaceContent at h
  dsimp only at h
  split at h
  · exact nomatch (Prod.mk.inj h).2
  split at h
  · exact nomatch (Prod.mk.inj h).2
  next hwrite =>
  split at h
  · exact nomatch (Prod.mk.inj h).2
  · next hmove =>
    cases h
    rw [Disk.readText_of_moveFile hmove, Disk.readText_of_write hwrite]

end TrafficWatch.SettingsStore
