import TrafficWatch.Proofs.Tracking.Publication
import TrafficWatch.Proofs.Web.Service

/-!
The lines of JSON that a live view prints. A tick passes over a view whose revision it has printed
before. As every change has a revision of its own, the last line is the current view all the same.
-/

namespace TrafficWatch

open Tracking

namespace LiveView

/-- What may happen to a live view between two ticks. -/
inductive Moves : LiveView → LiveView → Prop where
  | stream {bound : Nat} {m : Moment} {op : Stream.Play.Op Reaction} {v v' : LiveView}
      (h : v.stream bound m op = some v') : Moves v v'
  | answer (v : LiveView) (r : Web.Request) : Moves v (v.answer r).1
  | toggle (v : LiveView) : Moves v v.toggle
  | moment (v : LiveView) (m : Moment) : Moves v (v.setPipeline (v.pipeline.setMoment m))
  | files (v : LiveView) (d : Files.Disk) : Moves v { v with disk := d }

/-- Ticks may have printed nothing. -/
def lastLine (out : List String) : Option String := (out.filter (· ≠ "")).getLast?

def line (view : View) : String := view.json.compactText ++ "\n"

variable {v v' : LiveView} {out : List String}

theorem Moves.leads (h : v.Moves v') : v.pipeline.store.Leads v'.pipeline.store := by
  have hI (s : Store) (d : Files.Disk) (op : Store.Op) (hs : v.pipeline.store.Leads s) :=
    hs.step d op
  cases h with
  | stream h => exact keeps_stream hI .refl h
  | answer v r => exact Web.keeps_answer hI .refl _ _ _ r
  | toggle v => exact .step .refl v.disk .toggle
  | moment v m => exact .refl
  | files v d => exact .refl

theorem Reachable.move (hv : v.Reachable) (h : v.Moves v') : v'.Reachable := by
  cases h with
  | stream h => exact hv.stream h
  | answer v r => exact hv.answer r
  | toggle v => exact hv.toggle
  | moment v m => exact hv.moment m
  | files v d => exact hv.files d

theorem line_ne_empty (view : View) : line view ≠ "" := by simp [line]

theorem lastLine_concat_empty (out : List String) : lastLine (out ++ [""]) = lastLine out := by
  simp [lastLine]

theorem lastLine_concat (out : List String) {text : String} (h : text ≠ "") :
    lastLine (out ++ [text]) = some text := by
  simp [lastLine, h]

/-- The last line is the view of a store that the present one has come from. -/
def Recalls (v : LiveView) (out : List String) : Prop :=
  ∀ r, v.printed = some r → ∃ s : Store, s.Tidy ∧ s.Leads v.pipeline.store ∧
    s.view.revision = r ∧ lastLine out = some (line s.view)

theorem tick_of_printed (hp : v.printed = some v.view.revision)
    (hquiet : v.options.quiet = false) (hjson : v.options.json = true) (process : String) :
    v.tick process = (v, "") := by
  simp [LiveView.tick, hquiet, hjson, hp]

theorem tick_of_new (hp : v.printed ≠ some v.view.revision) (hquiet : v.options.quiet = false)
    (hjson : v.options.json = true) (process : String) :
    v.tick process = ({ v with printed := some v.view.revision }, line v.view) := by
  simp [LiveView.tick, hquiet, hjson, hp, line]

theorem Recalls.tick (h : v.Recalls out) (hquiet : v.options.quiet = false)
    (hjson : v.options.json = true) (process : String) :
    lastLine (out ++ [(v.tick process).2]) = some (line v.view) := by
  by_cases hp : v.printed = some v.view.revision
  · obtain ⟨s, hs, hleads, hr, hlast⟩ := h _ hp
    have hview : v.view = s.view := hleads.view_eq hs hr.symm
    rw [tick_of_printed hp hquiet hjson, lastLine_concat_empty, hlast, hview]
  · rw [tick_of_new hp hquiet hjson, lastLine_concat out (line_ne_empty _)]

/-- A live view that prints JSON. -/
def started : Option LiveView :=
  (LiveView.start { host := "::1" } { json := true } .empty none { time := ⟨0, 0, 0⟩ }
    fun _ => 0).toOption

end LiveView

end TrafficWatch
