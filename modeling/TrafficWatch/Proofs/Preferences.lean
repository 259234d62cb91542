import TrafficWatch.Proofs.Files.Saving
import TrafficWatch.Proofs.RoundTrips

/-!
Preferences that have been saved are the ones that are loaded.
-/

namespace TrafficWatch

open Files Json

theorem Text.isEmpty_trim_of_head {s : String} {c : Char} {cs : List Char} (hs : s.toList = c :: cs)
    (hc : Text.isBlank c = false) : (Text.trim s).isEmpty = false := by
  have hend : Text.trimEnd (c :: cs) ≠ [] := fun h => by
    have hblank := List.dropWhile_eq_nil_iff.mp (List.reverse_eq_nil_iff.mp h) c (by simp)
    exact absurd (hc.symm.trans hblank) Bool.false_ne_true
  rw [Text.trim, hs, Text.trimStart, List.dropWhile_cons_of_neg (by simp [hc]),
    Bool.eq_false_iff, ne_eq, String.isEmpty_iff]
  exact fun h => hend (String.ofList_eq_empty_iff.mp h)

theorem Settings.ofText_prettyText (s : Settings) : Settings.ofText s.json.prettyText = .ok s := by
  have hbrace : ∃ cs, s.json.prettyText.toList = '\x7b' :: cs := by
    rw [← List.append_nil s.json.prettyText.toList, Value.prettyText, Settings.json,
      Value.toList_write_object]
    exact ⟨_, rfl⟩
  obtain ⟨cs, hcs⟩ := hbrace
  rw [Settings.ofText, Text.isEmpty_trim_of_head hcs (by decide)]
  exact s.readsBack.roundTrips.2

namespace SettingsStore

variable {d d' : Disk} {path : String} {s : Settings}

theorem load_of_readText (h : d.readText path = .ok s.json.prettyText) :
    load d path = .ok ⟨some path, s⟩ := by
  rw [load, h]
  simp only [Settings.ofText_prettyText]

theorem load_of_persist (h : persist d (some path) s = (d', .ok ())) :
    load d' path = .ok ⟨some path, s⟩ := by
  obtain ⟨hd, hwritten⟩ := Prod.mk.inj h
  have hsaved : replaceContent d path s.json.prettyText = (d', .ok ()) :=
    Prod.ext hd (mapError_eq_ok.mp hwritten)
  exact load_of_readText (readText_of_replaceContent hsaved)

/-- After a change that could be saved, loading gives what is in memory. -/
theorem load_of_update {change : Settings → Settings} {new : Settings}
    (h : (update d ⟨some path, s⟩ change).result = .ok new) :
    load (update d ⟨some path, s⟩ change).disk path =
      .ok (update d ⟨some path, s⟩ change).store := by
  cases hpersist : persist d (some path) (change s) with
  | mk d' written =>
    simp only [update, hpersist] at h ⊢
    obtain ⟨u, rfl, -⟩ := map_eq_ok.mp h
    exact load_of_persist hpersist

end SettingsStore

end TrafficWatch
