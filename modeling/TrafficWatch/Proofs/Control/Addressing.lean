import TrafficWatch.Control.Request
import TrafficWatch.Proofs.Url.Segment

/-!
Where requests to close connections go. An ID that is kept whole has an address of its own, unless
it is dots alone: dots are passed over as parts of a path, and what is left of it asks for all
connections to be closed.
-/

namespace TrafficWatch.Control

open Url Url.Address

/-- The path that stands for all connections. -/
def connectionsPath : List (List Char) := ["api".toList, "connections".toList]

/-- The path leads to one connection, by its ID. -/
def NamesConnection (a : Address) (id : String) : Prop :=
  ∃ s, a.path = connectionsPath ++ [s] ∧ (∀ c ∈ ['/', '\\', '?', '#'], c ∉ s) ∧
    decoded s = Text.bytes id

/-- IDs that an address tells from all others. -/
def Nameable (id : String) : Prop := id ≠ "." ∧ id ≠ ".." ∧ KeptWhole id

variable {c : Client} {id : String}

/-- A client is bound to the base of its endpoint. -/
theorem httpBase_of_create {e : Endpoint} (hc : Client.create e = .ok c) :
    e.httpBase = .ok c.base := by
  unfold Client.create at hc
  cases hs : e.secret.toList.all isHeaderChar with
  | false =>
    rw [hs] at hc
    cases hc
  | true =>
    rw [hs] at hc
    cases hbase : e.httpBase with
    | error err =>
      rw [hbase] at hc
      cases hc
    | ok base =>
      rw [hbase] at hc
      obtain rfl := Except.ok.inj hc
      rfl

/-- What becomes of the IDs, as the last part of a path. -/
theorem close_path (hroot : c.base.path = [[]]) (id : String) :
    (c.request (.close id)).address.path =
      if id = "." ∨ id = ".." then connectionsPath
      else if kept id = ['.', '.'] then ["api".toList, []]
      else if kept id = ['.'] then connectionsPath ++ [[]]
      else connectionsPath ++ [segment id] := by
  have hbase : (c.request (.close id)).address.path =
      ((["api", "connections", id].filter fun s => s != "." && s != "..").map segment).foldl
        appendSegment [[]] := by
    simp only [Client.request, withSegments, hroot, Operation.segments, ne_eq, not_true_eq_false,
      false_and, ↓reduceIte]
  have hfront : ([segment "api", segment "connections"]).foldl appendSegment [[]] =
      connectionsPath := by decide
  rw [hbase]
  by_cases hid : id = "." ∨ id = ".."
  · rw [if_pos hid]
    rcases hid with rfl | rfl <;> exact hfront
  · have hfilter : (["api", "connections", id].filter fun s => s != "." && s != "..") =
        ["api", "connections"] ++ [id] := by
      have hplain : id ≠ "." ∧ id ≠ ".." := by simpa using hid
      simp [hplain.1, hplain.2]
    have hsplit : (["api", "connections"] ++ [id]).map segment =
        [segment "api", segment "connections"] ++ [segment id] := rfl
    have hpath : connectionsPath ≠ [[]] := by decide
    rw [if_neg hid, hfilter, hsplit, List.foldl_append, hfront, List.foldl_cons, List.foldl_nil]
    simp only [appendSegment, if_neg hpath, isDot_segment, isDoubleDot_segment]
    rfl

theorem closeAll_path (hroot : c.base.path = [[]]) :
    (c.request .closeAll).address.path = connectionsPath := by
  simp only [Client.request, withSegments, hroot, ne_eq, not_true_eq_false, false_and, ↓reduceIte]
  decide

theorem close_path_of_nameable (hroot : c.base.path = [[]]) (hid : Nameable id) :
    (c.request (.close id)).address.path = connectionsPath ++ [segment id] := by
  obtain ⟨hdot, hdots, hwhole⟩ := hid
  have hkept : kept id = id.toList := kept_eq_toList.mpr hwhole
  have hone : kept id ≠ ['.'] := fun h => hdot (String.toList_inj.mp (hkept.symm.trans h))
  have htwo : kept id ≠ ['.', '.'] := fun h => hdots (String.toList_inj.mp (hkept.symm.trans h))
  rw [close_path hroot, if_neg (by simp [hdot, hdots]), if_neg htwo, if_neg hone]

theorem namesConnection_close (hroot : c.base.path = [[]]) :
    NamesConnection (c.request (.close id)).address id ↔ Nameable id := by
  constructor
  · rintro ⟨s, hpath, -, hs⟩
    rw [close_path hroot] at hpath
    split at hpath
    · simp at hpath
    rename_i hdots
    split at hpath
    · simp [connectionsPath] at hpath
    split at hpath
    · -- the segment is empty, so it is read as the empty ID, which is no dot
      rename_i hone
      obtain rfl : s = [] := by simpa using hpath.symm
      rw [Text.bytes_injective (hs.symm.trans rfl : Text.bytes id = Text.bytes "")] at hone
      simp [kept] at hone
    · obtain rfl : s = segment id := by simpa using hpath.symm
      rw [not_or] at hdots
      exact ⟨hdots.1, hdots.2, decoded_segment_eq_bytes.mp hs⟩
  · intro hid
    exact ⟨segment id, close_path_of_nameable hroot hid, fun c hc => not_mem_segment hc id,
      decoded_segment_eq_bytes.mpr hid.2.2⟩

theorem close_eq_closeAll (c : Client) (h : id = "." ∨ id = "..") :
    c.request (.close id) = c.request .closeAll := by
  rcases h with rfl | rfl <;> rfl

/-- Requests of one client differ in the path of their address only. -/
theorem text_eq_iff {o o' : Operation} :
    (c.request o).address.text = (c.request o').address.text ↔
      (c.request o).address.path.flatMap ('/' :: ·) =
        (c.request o').address.path.flatMap ('/' :: ·) :=
  text_withPath_inj (a := c.base)

theorem close_text_eq_closeAll (hroot : c.base.path = [[]]) :
    (c.request (.close id)).address.text = (c.request .closeAll).address.text ↔
      id = "." ∨ id = ".." := by
  constructor
  · intro h
    rw [text_eq_iff, close_path hroot, closeAll_path hroot] at h
    split at h
    · assumption
    split at h
    · exact absurd h (by decide)
    split at h
    · exact absurd h (by decide)
    · rw [List.flatMap_append, List.append_right_eq_self] at h
      cases h
  · intro h
    rw [close_eq_closeAll c h]

theorem eq_of_close_text_eq (hroot : c.base.path = [[]]) {id' : String} (hid : Nameable id)
    (hid' : Nameable id')
    (h : (c.request (.close id)).address.text = (c.request (.close id')).address.text) :
    id = id' := by
  rw [text_eq_iff, close_path_of_nameable hroot hid, close_path_of_nameable hroot hid',
    List.flatMap_append, List.flatMap_append, List.append_cancel_left_eq] at h
  have hs : segment id = segment id' := by simpa using h
  have hread := decoded_segment_eq_bytes.mpr hid.2.2
  rw [hs, decoded_segment_eq_bytes.mpr hid'.2.2] at hread
  exact (Text.bytes_injective hread).symm

/-- The path of a request to close a connection lies below that of all connections, unless the ID
takes it back. -/
theorem close_below_connections (hroot : c.base.path = [[]]) :
    (∃ s, (c.request (.close id)).address.path = connectionsPath ++ [s]) ↔
      id ≠ "." ∧ kept id ≠ ['.', '.'] := by
  rw [close_path hroot]
  by_cases hdot : id = "."
  · simp [hdot]
  by_cases hdots : id = ".."
  · have htwo : kept ".." = ['.', '.'] := by decide
    simp [hdots, htwo]
  rw [if_neg (not_or.mpr ⟨hdot, hdots⟩)]
  by_cases htwo : kept id = ['.', '.']
  · simp [htwo, connectionsPath]
  rw [if_neg htwo]
  refine iff_of_true ?_ ⟨hdot, htwo⟩
  split
  · exact ⟨[], rfl⟩
  · exact ⟨segment id, rfl⟩

/-- From an endpoint whose base is the root of its host, closing a connection leads to a path that
names just this connection, if its ID has no tab and no line end and is not dots alone; such IDs
have addresses of their own. Dots alone are the only IDs whose address is the one that closes all
connections; they leave the paths of connections, and so do two dots between tabs or line ends. -/
theorem close_leads_to_connection {e : Endpoint} {base : Address} (hbase : e.httpBase = .ok base)
    (hroot : base.path = [[]]) (hc : Client.create e = .ok c) :
    (∀ id, NamesConnection (c.request (.close id)).address id ↔ Nameable id) ∧
    (∀ id id', Nameable id → Nameable id' →
      (c.request (.close id)).address.text = (c.request (.close id')).address.text → id = id') ∧
    (∀ id, (c.request (.close id)).address.text = (c.request .closeAll).address.text ↔
      id = "." ∨ id = "..") ∧
    ∀ id, (∃ s, (c.request (.close id)).address.path = connectionsPath ++ [s]) ↔
      id ≠ "." ∧ kept id ≠ ['.', '.'] := by
  obtain rfl : base = c.base := Except.ok.inj (hbase.symm.trans (httpBase_of_create hc))
  exact ⟨fun id => namesConnection_close hroot, fun id id' => eq_of_close_text_eq hroot,
    fun id => close_text_eq_closeAll hroot, fun id => close_below_connections hroot⟩

def loopback : Endpoint := { host := "::1", port := 9090, secret := "abc" }

theorem exists_loopback_client : ∃ c, Client.create loopback = .ok c ∧ c.base.path = [[]] := by
  have hpath : (Client.create loopback).toOption.map (·.base.path) = some [[]] := by decide +kernel
  cases hc : Client.create loopback with
  | error err =>
    rw [hc] at hpath
    cases hpath
  | ok c =>
    rw [hc] at hpath
    exact ⟨c, rfl, Option.some.inj hpath⟩

/-- Dots within a longer ID, slashes and characters beyond ASCII do no harm. -/
theorem close_leads_from_loopback : ∃ c, Client.create loopback = .ok c ∧ c.base.path = [[]] ∧
    NamesConnection (c.request (.close "../ü")).address "../ü" ∧
    (c.request (.close "../ü")).address.text ≠ (c.request (.close "..%2Fü")).address.text ∧
    (c.request (.close "../ü")).address.text ≠ (c.request .closeAll).address.text := by
  obtain ⟨c, hc, hroot⟩ := exists_loopback_client
  obtain ⟨hnames, hdistinct, hall, -⟩ :=
    close_leads_to_connection (httpBase_of_create hc) hroot hc
  have hid : Nameable "../ü" := ⟨by decide, by decide, kept_eq_toList.mp (by decide)⟩
  have hid' : Nameable "..%2Fü" := ⟨by decide, by decide, kept_eq_toList.mp (by decide)⟩
  refine ⟨c, hc, hroot, (hnames _).mpr hid, fun h => ?_, fun h => ?_⟩
  · exact absurd (hdistinct _ _ hid hid' h) (by decide)
  · exact absurd ((hall _).mp h) (by decide)

/-- To close the connection with the ID `.` is to close all; IDs can share an address. -/
theorem close_dot_closes_all : ∃ c, Client.create loopback = .ok c ∧ c.base.path = [[]] ∧
    c.request (.close ".") = c.request .closeAll ∧
    ¬ NamesConnection (c.request (.close ".")).address "." ∧
    c.request (.close "a\tb") = c.request (.close "ab") := by
  obtain ⟨c, hc, hroot⟩ := exists_loopback_client
  refine ⟨c, hc, hroot, close_eq_closeAll c (.inl rfl), fun h => ?_, rfl⟩
  exact ((namesConnection_close hroot).mp h).1 rfl

end TrafficWatch.Control
