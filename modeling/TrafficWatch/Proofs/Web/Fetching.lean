import Mathlib.Data.List.TakeWhile
import TrafficWatch.Proofs.Tracking.Coherence
import TrafficWatch.Proofs.Url.PercentCoding
import TrafficWatch.Proofs.Web.Service

/-!
Rows fetched one at a time, each by its ID as a segment of the path. This finds every row of the
view but that of a connection with the ID `closed`: its path is the one for dropping closed rows.
-/

namespace TrafficWatch.Web

open Url Tracking

def isUnreserved (c : Char) : Bool := c.isAlphanum || ['-', '.', '_', '~'].contains c

/-- Characters that a segment may have as they are. -/
def mayStand (c : Char) : Bool :=
  isUnreserved c ||
    ['!', '$', '&', '\'', '(', ')', '*', '+', ',', ';', '=', ':', '@'].contains c

/-- The characters that are written with percent signs in a segment: all that may not stand there,
and none of the unreserved ones. -/
structure SegmentCoding (set : Char → Bool) : Prop where
  unreserved : ∀ c, isUnreserved c = true → set c = false
  others : ∀ c, mayStand c = false → set c = true

/-- The path of a connection, by its ID. -/
def connectionTarget (set : Char → Bool) (id : String) : String :=
  "/connections/" ++ String.ofList (percentEncode set id.toList)

def connectionRequest (set : Char → Bool) (id : String) : Request :=
  .ofTarget "GET" (connectionTarget set id)

/-- A target without marks is a path. -/
theorem ofTarget_of_plain {target : String} (hq : '?' ∉ target.toList) (hf : '#' ∉ target.toList)
    (method : String) : Request.ofTarget method target = { method, path := target } := by
  have hmark {c : Char} (hc : c ∉ target.toList) : ∀ a ∈ target.toList, (a != c) = true :=
    fun a ha => bne_iff_ne.mpr fun h => hc (h ▸ ha)
  have hcut : target.toList.takeWhile (· != '#') = target.toList :=
    List.takeWhile_eq_self_iff.mpr (hmark hf)
  have hpath : target.toList.takeWhile (· != '?') = target.toList :=
    List.takeWhile_eq_self_iff.mpr (hmark hq)
  have hrest : target.toList.dropWhile (· != '?') = [] :=
    List.dropWhile_eq_nil_iff.mpr (hmark hq)
  simp only [Request.ofTarget, hcut, hpath, hrest, String.ofList_toList, List.drop_nil,
    String.ofList_nil]

theorem ofPath?_connection {s : List Char} (hs : '/' ∉ s) (hne : s ≠ []) :
    Route.ofPath? ("/connections/" ++ String.ofList s) =
      some (if String.ofList s = "closed" then .closedConnections
        else .connection (String.ofList s)) := by
  have hparts : ("/connections/" ++ String.ofList s).toList.splitOn '/' =
      [[], "connections".toList, s] := by
    have hjoin : ("/connections/" ++ String.ofList s).toList =
        ['/'].intercalate [[], "connections".toList, s] := by
      simp [List.intercalate]
    rw [hjoin]
    refine List.splitOn_intercalate _ (fun l hl => ?_) (by simp)
    simp only [List.mem_cons, List.not_mem_nil, or_false] at hl
    rcases hl with rfl | rfl | rfl
    · simp
    · decide
    · exact hs
  have hempty : String.ofList s ≠ "" := by simpa using hne
  unfold Route.ofPath? segments
  rw [hparts]
  simp only [List.map_cons, List.map_nil, String.ofList_nil, String.ofList_toList, hempty,
    ↓reduceIte]
  split <;> rfl

variable {set : Char → Bool} {id : String}

/-- Reading a segment as it was written gives the ID back. -/
theorem segmentText_percentEncode (hset : set '%' = true) (id : String) :
    segmentText (String.ofList (percentEncode set id.toList)) = .ok id := by
  have hbytes : (percentDecode (Text.bytes (String.ofList (percentEncode set id.toList)))).toArray =
      id.toUTF8.data := by
    rw [show percentDecode _ = Text.bytes id from decoded_percentEncode_toList hset id]
    exact Array.toArray_toList
  have htext : String.fromUTF8? ⟨id.toUTF8.data⟩ = some id := Text.fromUTF8?_toUTF8 id
  rw [segmentText, hbytes, htext]

namespace SegmentCoding

theorem percent (hset : SegmentCoding set) : set '%' = true := hset.others _ (by decide)

theorem not_mem (hset : SegmentCoding set) {c : Char} (hc : c ∈ ['/', '?', '#']) (s : List Char) :
    c ∉ percentEncode set s := by
  simp only [List.mem_cons, List.not_mem_nil, or_false] at hc
  rcases hc with rfl | rfl | rfl
  all_goals exact not_mem_percentEncode (hset.others _ (by decide)) (by decide) (by decide) s

theorem encode_ne_nil (hset : SegmentCoding set) (hid : id ≠ "") :
    percentEncode set id.toList ≠ [] := fun h => by
  have hempty : percentEncode set id.toList = percentEncode set "".toList := h
  exact hid (percentEncode_injective hset.percent hempty)

/-- The word of the fixed path is written as it is, and nothing else is written so. -/
theorem encode_eq_closed (hset : SegmentCoding set) :
    String.ofList (percentEncode set id.toList) = "closed" ↔ id = "closed" := by
  have hword : percentEncode set "closed".toList = "closed".toList :=
    percentEncode_of_plain fun c hc => by
      have hplain : ∀ c ∈ "closed".toList, isUnreserved c = true ∧ c.toNat < 0x80 := by
        simp [isUnreserved]
      exact ⟨hset.unreserved c (hplain c hc).1, (hplain c hc).2⟩
  constructor
  · intro h
    have hlist : percentEncode set id.toList = percentEncode set "closed".toList := by
      rw [hword, ← h, String.toList_ofList]
    exact percentEncode_injective hset.percent hlist
  · rintro rfl
    rw [hword, String.ofList_toList]

end SegmentCoding

/-- What a request for a connection asks for. -/
theorem action_connectionRequest (hset : SegmentCoding set) (hid : id ≠ "") :
    (connectionRequest set id).action =
      if id = "closed" then .error .wrongMethod else .ok (.connection id) := by
  have hplain {c : Char} (hc : c ∈ ['?', '#']) : c ∉ (connectionTarget set id).toList := by
    simp only [connectionTarget, String.toList_append, String.toList_ofList, List.mem_append, not_or]
    simp only [List.mem_cons, List.not_mem_nil, or_false] at hc
    rcases hc with rfl | rfl
    · exact ⟨by decide, hset.not_mem (by decide) _⟩
    · exact ⟨by decide, hset.not_mem (by decide) _⟩
  have hroute := ofPath?_connection (hset.not_mem (c := '/') (by decide) id.toList)
    (hset.encode_ne_nil hid)
  rw [connectionRequest, ofTarget_of_plain (hplain (by decide)) (hplain (by decide)),
    Request.action]
  simp only [connectionTarget, hroute, hset.encode_eq_closed]
  by_cases hclosed : id = "closed"
  · rw [if_pos hclosed, if_pos hclosed]
    rfl
  · rw [if_neg hclosed, if_neg hclosed]
    have hget : (Route.connection (String.ofList (percentEncode set id.toList))).allows "GET" = true :=
      rfl
    simp only [hget, ↓reduceIte, Route.action, segmentText_percentEncode hset.percent]
    rfl

/-- The view of a tidy store has one row at most for each ID. -/
theorem find?_eq_some_iff {s : Store} (h : s.Tidy) {row : Row} :
    s.view.find? id = some row ↔ row ∈ s.view.rows ∧ row.id = id := by
  have hfind : s.view.find? id = s.table.get? id := h.find? id
  have hmem : row ∈ s.view.rows ↔ s.table.get? row.id = some row := by
    rw [h.shown]
    exact Table.mem_rows_iff h.sound
  rw [hfind, hmem]
  constructor
  · intro hrow
    have hid := h.sound.id_eq id row hrow
    exact ⟨hid ▸ hrow, hid⟩
  · rintro ⟨hrow, rfl⟩
    exact hrow

theorem id_ne_empty_of_mem_rows {s : Store} (h : s.Tidy) {row : Row} (hrow : row ∈ s.view.rows) :
    row.id ≠ "" := by
  rw [h.shown] at hrow
  exact h.sound.id_ne row.id row (Table.get?_of_mem_rows h.sound hrow)

variable {v : LiveView}

theorem answer_connectionRequest (hset : SegmentCoding set) (hid : id ≠ "") :
    (v.answer (connectionRequest set id)).2 =
      if id = "closed" then Refusal.wrongMethod.answer
      else match v.view.find? id with
        | some row => .json row.json
        | none => .text 404 ("Connection " ++ id ++ " not found\n") := by
  have hmethod : ((connectionRequest set id).method == "HEAD") = false := rfl
  simp only [LiveView.answer, answer, action_connectionRequest hset hid, hmethod]
  by_cases hclosed : id = "closed"
  · simp only [if_pos hclosed]
    rfl
  · simp only [if_neg hclosed, Action.perform]
    have hfind : (count v.pipeline).store.find? id = v.view.find? id := rfl
    rw [hfind]
    cases v.view.find? id <;> rfl

/-- The answer for an ID is its row, and that there is none if the view has none. -/
def Fetches (v : LiveView) (set : Char → Bool) (id : String) : Prop :=
  (∀ row ∈ v.view.rows, row.id = id → (v.answer (connectionRequest set id)).2 = .json row.json) ∧
  ((∀ row ∈ v.view.rows, row.id ≠ id) → (v.answer (connectionRequest set id)).2.status = 404)

theorem fetches_iff (hv : v.Reachable) (hset : SegmentCoding set) (hid : id ≠ "") :
    Fetches v set id ↔ id ≠ "closed" := by
  have htidy : v.pipeline.store.Tidy := hv.tidy
  unfold Fetches
  rw [answer_connectionRequest hset hid]
  by_cases hclosed : id = "closed"
  · rw [if_pos hclosed]
    refine iff_of_false (fun ⟨hrow, hnone⟩ => ?_) (fun h => h hclosed)
    -- whether there is a row or not, the answer is neither
    by_cases hex : ∃ row ∈ v.view.rows, row.id = id
    · obtain ⟨row, hm, hrowId⟩ := hex
      have hstatus := congrArg Answer.status (hrow row hm hrowId)
      cases hstatus
    · exact absurd (hnone fun row hm hrowId => hex ⟨row, hm, hrowId⟩) (by decide)
  · rw [if_neg hclosed]
    refine iff_of_true ⟨fun row hm hrowId => ?_, fun hnone => ?_⟩ hclosed
    · have hfind : v.view.find? id = some row := (find?_eq_some_iff htidy).mpr ⟨hm, hrowId⟩
      rw [hfind]
    · have hfind : v.view.find? id = none :=
        List.find?_eq_none.mpr fun row hm => by simpa using hnone row hm
      rw [hfind]
      rfl

/-- Whatever has come over the stream and by requests: an ID written as a segment fetches its row,
or a 404 if there is none, unless it is `closed`. So each listed row can be fetched by its ID but
one with that ID, which is refused as a wrong method. -/
theorem rows_fetched_by_id (hv : v.Reachable) (hset : SegmentCoding set) :
    (∀ id, id ≠ "" → (Fetches v set id ↔ id ≠ "closed")) ∧
    (v.answer (.ofTarget "GET" "/connections")).2 = .json (listing v.view {}) ∧
    (∀ row ∈ v.view.rows, row.id ≠ "closed" →
      (v.answer (connectionRequest set row.id)).2 = .json row.json) ∧
    (v.answer (connectionRequest set "closed")).2.status = 405 := by
  refine ⟨fun id hid => fetches_iff hv hset hid, rfl, fun row hrow hclosed => ?_, ?_⟩
  · have hid := id_ne_empty_of_mem_rows hv.tidy hrow
    exact ((fetches_iff hv hset hid).mpr hclosed).1 row hrow rfl
  · rw [answer_connectionRequest hset (by decide), if_pos rfl]
    rfl

/-- The strictest coding. -/
def reserved (c : Char) : Bool := ! isUnreserved c

theorem segmentCoding_reserved : SegmentCoding reserved where
  unreserved c hc := by simp [reserved, hc]
  others c hc := by
    unfold mayStand at hc
    rw [Bool.or_eq_false_iff] at hc
    simp [reserved, hc.1]

/-- A live view that is given a snapshot with one connection. -/
def pushed (id : String) : Option LiveView :=
  (LiveView.start { host := "::1", enableHttp := true } {} .empty none { time := ⟨0, 0, 0⟩ }
    fun _ => 0).toOption.bind
      (·.stream 9 { time := ⟨0, 1, 0⟩ }
        (.call (.push ("\x7b\"Connections\":[\x7b\"ID\":\"" ++ id ++ "\"\x7d]\x7d"))))

theorem exists_reachable_of_pushed (id : String)
    (h : (pushed id).map (·.view.rows.map (·.id)) = some [id]) :
    ∃ v : LiveView, v.Reachable ∧ v.view.rows.map (·.id) = [id] := by
  obtain ⟨v, hv, hrows⟩ := Option.map_eq_some_iff.mp h
  obtain ⟨first, hfirst, hstream⟩ := Option.bind_eq_some_iff.mp hv
  cases hstart : LiveView.start { host := "::1", enableHttp := true } {} .empty none
      { time := ⟨0, 0, 0⟩ } fun _ => 0 with
  | error e =>
    rw [hstart] at hfirst
    cases hfirst
  | ok start =>
    rw [hstart] at hfirst
    cases hfirst
    exact ⟨v, .stream (.start hstart) hstream, hrows⟩

/-- A slash in an ID is no separator of its path. -/
theorem rows_fetched_after_push : ∃ v : LiveView, v.Reachable ∧ SegmentCoding reserved ∧
    v.view.rows.map (·.id) = ["a/b"] ∧
    (∃ row ∈ v.view.rows, (v.answer (connectionRequest reserved "a/b")).2 = .json row.json) ∧
    (v.answer (connectionRequest reserved "b")).2.status = 404 := by
  obtain ⟨v, hv, hrows⟩ := exists_reachable_of_pushed "a/b" (by decide +kernel)
  obtain ⟨hfetches, -, hlisted, -⟩ := rows_fetched_by_id hv segmentCoding_reserved
  obtain ⟨row, hshown⟩ : ∃ row, v.view.rows = [row] := List.length_eq_one_iff.mp (by
    simpa using congrArg List.length hrows)
  have hid : row.id = "a/b" := by simpa [hshown] using hrows
  have hrow : row ∈ v.view.rows := by simp [hshown]
  refine ⟨v, hv, segmentCoding_reserved, hrows, ⟨row, hrow, ?_⟩, ?_⟩
  · rw [← hid]
    exact hlisted row hrow (by simp [hid])
  · exact ((hfetches "b" (by decide)).mpr (by decide)).2 fun other hother => by
      have hotherId : other.id = "a/b" := by simp_all
      simp [hotherId]

/-- The connection is listed, but there is no row to be had for its ID. -/
theorem closed_not_fetched : ∃ v : LiveView, v.Reachable ∧ v.view.rows.map (·.id) = ["closed"] ∧
    ¬ Fetches v reserved "closed" ∧
    (v.answer (connectionRequest reserved "closed")).2.status = 405 := by
  obtain ⟨v, hv, hrows⟩ := exists_reachable_of_pushed "closed" (by decide +kernel)
  refine ⟨v, hv, hrows, fun h => ?_, ?_⟩
  · exact (fetches_iff hv segmentCoding_reserved (by decide)).mp h rfl
  · rw [answer_connectionRequest segmentCoding_reserved (by decide), if_pos rfl]
    rfl

end TrafficWatch.Web
