import TrafficWatch.Proofs.Splitting
import TrafficWatch.Proofs.Text.Casing
import TrafficWatch.Proofs.Widths

/-!
The table of rows as text. It has a line for each row, below the header and a rule. Seven of the ten
cells fit their columns whatever the row holds. The network, the speed and the age may be too wide, and
a row is in line with the header exactly if they are not.
-/

namespace TrafficWatch.Render

open Text Time Tracking Decimal

/-! ## Lines -/

/-- A text without line feeds. -/
def OneLine (s : String) : Prop := '\n' ∉ s.toList

instance (s : String) : Decidable (OneLine s) := inferInstanceAs (Decidable (¬ _))

variable {s t : String}

theorem OneLine.append (h : OneLine s) (h' : OneLine t) : OneLine (s ++ t) := by
  rw [OneLine, String.toList_append, List.mem_append, not_or]
  exact ⟨h, h'⟩

theorem OneLine.intercalate {sep : String} {texts : List String} (hsep : OneLine sep)
    (h : ∀ s ∈ texts, OneLine s) : OneLine (sep.intercalate texts) := by
  intro hmem
  rw [String.toList_intercalate] at hmem
  obtain ⟨part, hpart, hmem⟩ := List.mem_flatten.mp hmem
  rcases eq_or_mem_of_mem_intersperse hpart with rfl | hpart
  · exact hsep hmem
  · obtain ⟨s, hs, rfl⟩ := List.mem_map.mp hpart
    exact h s hs hmem

theorem oneLine_of_isDigit (h : ∀ c ∈ s.toList, c.isDigit = true) : OneLine s := fun hmem =>
  absurd (h _ hmem) (by decide)

theorem oneLine_digits (n : Nat) : OneLine (digits n) := by
  apply oneLine_of_isDigit
  rw [toList_digits]
  exact fun _ => isDigit_of_mem_toDigits

theorem oneLine_fixed (places : Nat) (x : Float) : OneLine (fixed places x) := by
  have hplace (units : Nat) : OneLine (placeText places units) := by
    unfold placeText
    split
    · exact oneLine_digits units
    · have hpadded : OneLine (padZeros places (digits (units % 10 ^ places))) :=
        oneLine_of_isDigit fun _ => isDigit_of_mem_padded
      exact ((oneLine_digits _).append (by decide)).append hpadded
  unfold fixed
  cases Magnitude.ofFloat x with
  | finite d =>
    dsimp only [Dyadic.fixed]
    split
    · exact .append (by decide) (hplace _)
    · exact .append (by decide) (hplace _)
  | infinite negative =>
    cases negative
    · exact (by decide : OneLine "inf")
    · exact (by decide : OneLine "-inf")
  | notANumber => exact (by decide : OneLine "NaN")

theorem scale_unit (units : List String) (x : Float) : (scale units x).2 ∈ "" :: units := by
  fun_induction scale units x with
  | case1 x => exact List.mem_cons_self
  | case2 unit x => exact List.mem_cons_of_mem _ List.mem_cons_self
  | case3 unit next units x hx ih =>
    rcases List.mem_cons.mp ih with h | h
    · rw [h]
      exact List.mem_cons_self
    · exact List.mem_cons_of_mem _ (List.mem_cons_of_mem _ h)
  | case4 unit next units x hx => exact List.mem_cons_of_mem _ List.mem_cons_self

theorem oneLine_traffic (x : Float) : OneLine (traffic x) := by
  unfold traffic
  split
  · exact (oneLine_digits _).append (by decide)
  · have hunit : ∀ unit ∈ "" :: trafficUnits, OneLine unit := by decide
    exact ((oneLine_fixed 2 _).append (by decide)).append (hunit _ (scale_unit _ x))

theorem oneLine_speed (s : Speed) : OneLine (speed s) := by
  have hup : OneLine ("↑ " ++ traffic s.upload ++ "/s") :=
    (OneLine.append (by decide) (oneLine_traffic _)).append (by decide)
  have hdown : OneLine ("↓ " ++ traffic s.download ++ "/s") :=
    (OneLine.append (by decide) (oneLine_traffic _)).append (by decide)
  unfold speed
  split
  · decide
  · exact (hup.append (by decide)).append hdown
  · exact hup
  · exact hdown

theorem oneLine_age {seconds : Int} (h : 0 ≤ seconds) : OneLine (age seconds) := by
  obtain ⟨n, rfl⟩ := Int.eq_ofNat_of_zero_le h
  have hcount (n : Nat) {unit : String} (hunit : OneLine unit) :
      OneLine (toString (n : Int) ++ unit) := (oneLine_digits n).append hunit
  unfold age
  split
  · rw [max_eq_right h]
    exact hcount n (by decide)
  split
  · exact hcount (n / 60) (by decide)
  split
  · exact hcount (n / 3600) (by decide)
  · exact hcount (n / 86400) (by decide)

theorem OneLine.truncate (h : OneLine s) (width : Nat) : OneLine (truncate width s) := by
  unfold Text.truncate
  split
  · exact h
  · refine .append (fun hmem => ?_) (by decide)
    rw [String.toList_ofList] at hmem
    exact h (List.mem_of_mem_take hmem)

theorem OneLine.upper (h : OneLine s) : OneLine (upper s) := fun hmem => h (mem_upper hmem)

theorem oneLine_replicate (n : Nat) {c : Char} (h : '\n' ≠ c) :
    OneLine (String.ofList (List.replicate n c)) := by
  intro hmem
  rw [String.toList_ofList] at hmem
  exact h (List.eq_of_mem_replicate hmem)

theorem oneLine_blanks (n : Nat) : OneLine (blanks n) := oneLine_replicate n (by decide)

theorem OneLine.padRight (h : OneLine s) (width : Nat) : OneLine (padRight width s) :=
  h.append (oneLine_blanks _)

theorem OneLine.padLeft (h : OneLine s) (width : Nat) : OneLine (padLeft width s) :=
  (oneLine_blanks _).append h

/-- A text cut at its line feeds. -/
def textLines (s : String) : List String := (s.toList.splitOn '\n').map String.ofList

/-- Each line is ended by a line feed, so nothing comes after the last one. -/
theorem textLines_lines {ls : List String} (h : ∀ l ∈ ls, OneLine l) :
    textLines (lines ls) = ls ++ [""] := by
  -- between line feeds, not before them, the text has one line more, which is empty
  have htext : (lines ls).toList = ['\n'].intercalate (ls.map String.toList ++ [[]]) := by
    clear h
    induction ls with
    | nil => rfl
    | cons l ls ih =>
      have hfeed : "\n".toList = ['\n'] := rfl
      rw [lines, List.map_cons, String.join_cons, String.toList_append, String.toList_append, hfeed,
        List.map_cons, List.cons_append, List.intercalate_cons_of_ne_nil (by simp), ← ih]
      rfl
  have hmem : ∀ l ∈ ls.map String.toList ++ [[]], '\n' ∉ l := by
    intro l hl
    rcases List.mem_append.mp hl with hl | hl
    · obtain ⟨s, hs, rfl⟩ := List.mem_map.mp hl
      exact h s hs
    · rw [List.mem_singleton.mp hl]
      exact List.not_mem_nil
  rw [textLines, htext, List.splitOn_intercalate '\n' hmem (by simp), List.map_append, List.map_map]
  congr 1
  exact List.map_id'' (fun s => String.ofList_toList) ls

/-! ## Columns -/

/-- The cells, filled up to the widths of their columns. -/
def Cells.padded (c : Cells) : List String := [
  padRight 8 c.id, padRight 22 c.client, padRight 5 c.network, padRight 8 c.kind,
  padRight 30 c.target, padRight 28 c.speed, padLeft 11 c.upload, padLeft 11 c.download,
  padLeft 5 c.age, padRight 6 c.state]

theorem Cells.line_eq (c : Cells) : c.line = " | ".intercalate c.padded := rfl

/-- Where the separators begin. All the cells up to it stand before a separator. -/
def Cells.separators (c : Cells) : List Nat :=
  (List.range 9).map fun k => (" | ".intercalate (c.padded.take (k + 1))).length

theorem Cells.separator_stands (c : Cells) {column : Nat} (h : column ∈ c.separators) :
    (c.line.toList.drop column).take 3 = " | ".toList := by
  obtain ⟨k, hk, rfl⟩ := List.mem_map.mp h
  have hk := List.mem_range.mp hk
  have hlength : c.padded.length = 10 := rfl
  have hbefore : c.padded.take (k + 1) ≠ [] := by
    rw [← List.length_pos_iff, List.length_take]
    omega
  have hafter : c.padded.drop (k + 1) ≠ [] := by
    rw [← List.length_pos_iff, List.length_drop]
    omega
  have hline : c.line.toList = (" | ".intercalate (c.padded.take (k + 1))).toList ++
      (" | ".toList ++ (" | ".intercalate (c.padded.drop (k + 1))).toList) := by
    rw [Cells.line_eq, ← List.append_assoc, ← String.toList_append, ← String.toList_append,
      ← String.intercalate_append_of_ne_nil hbefore hafter, List.take_append_drop]
  rw [hline, ← String.length_toList, List.drop_left]
  exact List.take_left' (by decide)

theorem length_intercalate (s : String) (texts : List String) :
    (" | ".intercalate (s :: texts)).length =
      s.length + (texts.map String.length).sum + 3 * texts.length := by
  have hsep : " | ".length = 3 := by decide
  induction texts generalizing s with
  | nil => rw [String.intercalate_singleton]; rfl
  | cons t texts ih =>
    rw [String.intercalate_cons_cons, String.length_append, String.length_append, ih, hsep,
      List.map_cons, List.sum_cons, List.length_cons]
    omega

theorem Cells.oneLine_line {c : Cells} (h : ∀ s ∈ [c.id, c.client, c.network, c.kind, c.target,
    c.speed, c.upload, c.download, c.age, c.state], OneLine s) : OneLine c.line := by
  simp only [List.forall_mem_cons] at h
  obtain ⟨hid, hclient, hnetwork, hkind, htarget, hspeed, hupload, hdownload, hage, hstate, -⟩ := h
  refine .intercalate (by decide) ?_
  simp only [List.forall_mem_cons]
  exact ⟨hid.padRight 8, hclient.padRight 22, hnetwork.padRight 5, hkind.padRight 8,
    htarget.padRight 30, hspeed.padRight 28, hupload.padLeft 11, hdownload.padLeft 11,
    hage.padLeft 5, hstate.padRight 6, by simp⟩

theorem oneLine_header : OneLine header.line := Cells.oneLine_line (by decide)

theorem oneLine_rule : OneLine rule := oneLine_replicate 162 (by decide)

/-- The row's texts are without line feeds. -/
structure Unbroken (row : Row) : Prop where
  id : OneLine row.id
  client : OneLine row.metadata.client
  network : OneLine row.metadata.network
  kind : OneLine row.metadata.kind
  target : OneLine row.metadata.target

theorem cells_state (now : Instant) (row : Row) : (cells now row).state ∈ ["open", "closed"] := by
  unfold cells
  cases row.completed
  · exact List.mem_cons_self
  · exact List.mem_cons_of_mem _ List.mem_cons_self

theorem Unbroken.line {row : Row} (h : Unbroken row) (now : Instant) :
    OneLine (cells now row).line := by
  have hstates : ∀ state ∈ ["open", "closed"], OneLine state := by decide
  have hstate := hstates _ (cells_state now row)
  apply Cells.oneLine_line
  simp only [List.forall_mem_cons]
  exact ⟨h.id.truncate 8, h.client.truncate 22, h.network.upper, h.kind.truncate 8,
    h.target.truncate 30, oneLine_speed _, oneLine_traffic _, oneLine_traffic _,
    oneLine_age (row.ageSeconds_nonneg now), hstate, by simp⟩

/-- The network, the speed and the age are not too wide for their columns. -/
structure Fits (now : Instant) (row : Row) : Prop where
  network : (upper row.metadata.network).length ≤ 5
  speed : (Render.speed row.speed).length ≤ 28
  age : row.ageSeconds now < 10000 * 86400

theorem fits_iff {now : Instant} {row : Row} : Fits now row ↔
    (upper row.metadata.network).length ≤ 5 ∧ (Render.speed row.speed).length ≤ 28 ∧
      (Render.age (row.ageSeconds now)).length ≤ 5 := by
  rw [age_fits_iff (row.ageSeconds_nonneg now)]
  exact ⟨fun h => ⟨h.network, h.speed, h.age⟩, fun ⟨hnetwork, h⟩ => ⟨hnetwork, h.1, h.2⟩⟩

instance (now : Instant) (row : Row) : Decidable (Fits now row) := decidable_of_iff' _ fits_iff

theorem length_padRight_of_le {width : Nat} {s : String} (h : s.length ≤ width) :
    (padRight width s).length = width := by
  rw [length_padRight, max_eq_left h]

theorem length_padLeft_of_le {width : Nat} {s : String} (h : s.length ≤ width) :
    (padLeft width s).length = width := by
  rw [length_padLeft, max_eq_left h]

/-- The other cells fill their columns exactly. -/
theorem widths_cells (now : Instant) (row : Row) :
    (cells now row).padded.map String.length =
      [8, 22, max 5 (upper row.metadata.network).length, 8, 30,
        max 28 (Render.speed row.speed).length, 11, 11,
        max 5 (Render.age (row.ageSeconds now)).length, 6] := by
  have hstates : ∀ state ∈ ["open", "closed"], state.length ≤ 6 := by decide
  have hstate := hstates _ (cells_state now row)
  have hcount (n : UInt64) : (padLeft 11 (traffic n.toFloat)).length = 11 :=
    length_padLeft_of_le ((length_traffic_count n).trans (by decide))
  have hcut (width : Nat) (s : String) (h : 0 < width) :
      (padRight width (truncate width s)).length = width :=
    length_padRight_of_le (length_truncate_le width s h)
  simp only [Cells.padded, List.map_cons, List.map_nil, length_padRight_of_le hstate]
  simp only [cells, hcount, hcut, length_padRight, length_padLeft, Nat.zero_lt_succ]

theorem widths_header :
    header.padded.map String.length = [8, 22, 5, 8, 30, 28, 11, 11, 5, 6] := by
  decide +kernel

theorem Cells.length_line (c : Cells) : c.line.length = (c.padded.map String.length).sum + 27 :=
  length_intercalate _ _

theorem Cells.separators_eq (c : Cells) : c.separators =
    (List.range 9).map fun k => ((c.padded.map String.length).take (k + 1)).sum + 3 * k := by
  refine List.map_congr_left fun k hk => ?_
  have hk := List.mem_range.mp hk
  obtain ⟨first, rest, hcells, hrest⟩ : ∃ first rest, c.padded = first :: rest ∧ rest.length = 9 :=
    ⟨_, _, rfl, rfl⟩
  rw [hcells, List.take_succ_cons, length_intercalate, List.map_cons, List.take_succ_cons,
    List.sum_cons, List.map_take, List.length_take, hrest, min_eq_left (by omega)]

theorem length_line_iff (now : Instant) (row : Row) :
    (cells now row).line.length = header.line.length ↔ Fits now row := by
  rw [fits_iff, Cells.length_line, Cells.length_line, widths_cells, widths_header]
  simp only [List.sum_cons, List.sum_nil]
  omega

/-- A cell that is too wide moves every separator behind it. -/
theorem separators_iff (now : Instant) (row : Row) :
    (cells now row).separators = header.separators ↔ Fits now row := by
  rw [fits_iff, Cells.separators_eq, Cells.separators_eq, widths_cells, widths_header]
  simp only [List.range, List.range.loop, List.map_cons, List.map_nil, List.take_succ_cons,
    List.take_zero, List.sum_cons, List.sum_nil, List.cons.injEq, and_true, true_and]
  omega

/-- Below the header and the rule the table has a line for each row, in the order of the rows. A line
is as long as the header, and its separators stand in the header's columns, exactly if the row fits.
Of the speeds below 1024 of the last unit only those are too wide that have four digits before the
point in both directions. -/
theorem rowsTable_aligned_iff (rows : List Row) (now : Instant) (h : ∀ row ∈ rows, Unbroken row) :
    textLines (rowsTable rows now) = header.line :: rule ::
        (if rows.isEmpty then ["(no connections)"] else rows.map fun row => (cells now row).line) ++
          [""] ∧
      ∀ row ∈ rows,
        ((cells now row).line.length = header.line.length ↔ Fits now row) ∧
        ((cells now row).separators = header.separators ↔ Fits now row) ∧
        (∀ column ∈ (cells now row).separators,
          ((cells now row).line.toList.drop column).take 3 = " | ".toList) ∧
        (Moderate row.speed.upload → Moderate row.speed.download →
          ((speed row.speed).length ≤ 28 ↔ ¬ (Wide row.speed.upload ∧ Wide row.speed.download))) := by
  constructor
  · refine textLines_lines fun l hl => ?_
    obtain rfl | hl := List.mem_cons.mp hl
    · exact oneLine_header
    obtain rfl | hl := List.mem_cons.mp hl
    · exact oneLine_rule
    · split at hl
      · rw [List.mem_singleton.mp hl]
        decide
      · obtain ⟨row, hrow, rfl⟩ := List.mem_map.mp hl
        exact (h row hrow).line now
  · intro row _
    exact ⟨length_line_iff now row, separators_iff now row, fun column hcolumn =>
      (cells now row).separator_stands hcolumn, speed_fits_iff⟩

/-- A row just opened fits; two reports a second apart, with over a million bytes more in either
direction, give a row that does not. -/
theorem rowsTable_aligned_but_for_speed :
    let fresh := Row.opened "a" {} .epoch
    let quick := fresh.observe { counters := ⟨1040000, 1040000⟩ } ⟨0, 1, 0⟩
    (Fits ⟨0, 1, 0⟩ fresh ∧ (cells ⟨0, 1, 0⟩ fresh).line.length = header.line.length) ∧
      ¬ Fits ⟨0, 1, 0⟩ quick ∧ (cells ⟨0, 1, 0⟩ quick).separators ≠ header.separators := by
  intro fresh quick
  have hunbroken : ∀ row ∈ [fresh, quick], Unbroken row := by
    have hfresh : Unbroken fresh := ⟨by decide, by decide, by decide, by decide, by decide⟩
    have hquick : Unbroken quick := ⟨by decide, by decide, by decide, by decide, by decide⟩
    simpa using ⟨hfresh, hquick⟩
  obtain ⟨-, haligned⟩ := rowsTable_aligned_iff [fresh, quick] ⟨0, 1, 0⟩ hunbroken
  have hfresh := haligned fresh (by simp)
  have hquick := haligned quick (by simp)
  have hfits : Fits ⟨0, 1, 0⟩ fresh := by decide +kernel
  have hwide : ¬ Fits ⟨0, 1, 0⟩ quick := by decide +kernel
  exact ⟨⟨hfits, hfresh.1.mpr hfits⟩, hwide, fun h => hwide (hquick.2.1.mp h)⟩

/-- The network is not cut. -/
theorem rowsTable_not_aligned : ¬ ∀ (rows : List Row) (now : Instant), (∀ row ∈ rows, Unbroken row) →
    ∀ row ∈ rows, (cells now row).line.length = header.line.length := by
  intro h
  let row := Row.opened "a" { metadata := { network := "unixgram" } } .epoch
  have hunbroken : Unbroken row := ⟨by decide, by decide, by decide, by decide, by decide⟩
  have hlength := h [row] .epoch (by simpa using hunbroken) row (by simp)
  exact absurd ((length_line_iff .epoch row).mp hlength).network (by decide +kernel)

end TrafficWatch.Render
