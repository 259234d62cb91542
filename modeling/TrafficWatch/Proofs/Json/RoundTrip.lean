import TrafficWatch.Proofs.Fallible
import TrafficWatch.Proofs.Json.Records
import TrafficWatch.Proofs.Json.Written
import TrafficWatch.Proofs.Time.Timestamps

/-!
Values that are read off what they are written as, and how records and lists of such values are
such values again.
-/

namespace TrafficWatch.Json

variable {α σ : Type}

/-- What is written for a value is read as that value again. -/
structure ReadsBack (read : Doc → Except DecodeError α) (json : α → Value) (a : α) : Prop where
  faultless : (json a).doc.Faultless
  read : read (json a).doc = .ok a

namespace ReadsBack

theorem text (s : String) : ReadsBack Doc.asText .text s := ⟨Doc.faultless_text.mpr rfl, rfl⟩

theorem path (s : String) : ReadsBack (Doc.textOf "path string") .text s :=
  ⟨Doc.faultless_text.mpr rfl, rfl⟩

theorem flag (b : Bool) : ReadsBack Doc.asFlag .bool b := ⟨Doc.faultless_bool b, rfl⟩

theorem natural {bound n : Nat} {name : String} (hn : n ≤ bound) (hbound : bound ≤ maxSignificand) :
    ReadsBack (Doc.asNatural bound name) .nat n := by
  have hdoc := Value.doc_nat (Nat.le_trans hn hbound)
  have hrange : 0 ≤ (n : Int) ∧ (n : Int) ≤ (bound : Int) :=
    ⟨Int.natCast_nonneg n, Int.ofNat_le.mpr hn⟩
  refine ⟨hdoc ▸ Doc.faultless_number.mpr rfl, ?_⟩
  rw [hdoc, Doc.asNatural, Doc.asInteger]
  dsimp only
  rw [if_pos hrange]
  rfl

theorem word (name : String) (n : UInt64) : ReadsBack (Doc.leaves.word name) .word n := by
  obtain ⟨hfaultless, hread⟩ := natural (n := n.toNat) (Nat.lt_succ_iff.mp n.toNat_lt)
    (Nat.le_refl 18446744073709551615)
  refine ⟨hfaultless, ?_⟩
  unfold Leaves.word
  rw [show Doc.leaves.natural = Doc.asNatural from rfl, Value.word, ← Value.nat, hread, Except.map,
    UInt64.ofNat_toNat]

theorem port (n : UInt16) : ReadsBack Doc.leaves.port (fun n => .nat n.toNat) n := by
  obtain ⟨hfaultless, hread⟩ := natural (n := n.toNat) (Nat.lt_succ_iff.mp n.toNat_lt)
    (by decide : 65535 ≤ maxSignificand)
  refine ⟨hfaultless, ?_⟩
  unfold Leaves.port
  rw [show Doc.leaves.natural = Doc.asNatural from rfl, hread, Except.map, UInt16.ofNat_toNat]

theorem instant {t : Time.Instant} (ht : t.Valid) : ReadsBack Doc.asInstant .instant t := by
  refine ⟨Doc.faultless_text.mpr rfl, ?_⟩
  have hread : Time.Instant.ofText? t.text = .ok t := ht.ofText?_text
  rw [Value.instant, Value.doc, Doc.asInstant]
  simp only [Doc.textOf, Doc.liftFault, bind, Except.bind, hread]
  rfl

variable {read : Doc → Except DecodeError α} {json : α → Value}

/-- A value that is not written as a null can be left out. -/
theorem option {o : Option α} (h : ∀ a ∈ o, ReadsBack read json a)
    (hnull : ∀ a ∈ o, (json a).doc ≠ .null) :
    ReadsBack (Doc.asOption read) (.option json) o := by
  cases o with
  | none => exact ⟨Doc.faultless_null, rfl⟩
  | some a =>
    obtain ⟨hfaultless, hread⟩ := h a rfl
    refine ⟨hfaultless, ?_⟩
    rw [Value.option, Doc.asOption_of_ne_null (hnull a rfl), hread, Except.map]

theorem orDefault {default a : α} (h : ReadsBack read json a) (hnull : (json a).doc ≠ .null) :
    ReadsBack (Doc.orDefault default read) json a := by
  refine ⟨h.faultless, ?_⟩
  rw [Doc.orDefault_of_ne_null hnull, h.read]

theorem list {as : List α} (h : ∀ a ∈ as, ReadsBack read json a) :
    ReadsBack (Doc.asList read) (fun as => .list (as.map json)) as := by
  have hdocs : (Value.list (as.map json)).doc = .list (as.map fun a => (json a).doc) .closed := by
    rw [Value.doc, Value.itemDocs_eq_map, List.map_map]
    rfl
  refine ⟨?_, ?_⟩
  · rw [hdocs, Doc.faultless_list, List.forall_mem_map]
    exact ⟨fun a ha => (h a ha).faultless, rfl⟩
  · rw [hdocs, Doc.asList_eq_ok]
    refine ⟨_, rfl, mapM_eq_ok.mpr (List.forall₂_map_left_iff.mpr ?_)⟩
    exact List.forall₂_same.mpr fun a ha => (h a ha).read

end ReadsBack

/-- The values of some fields, written in the order of the fields, and the records before and after
they are read. -/
inductive FieldsReadBack : List (Field Doc DecodeError σ) → List Doc → σ → σ → Prop
  | nil {r : σ} : FieldsReadBack [] [] r r
  | cons {α : Type} {presence : Presence} {names : List String}
      {read : Doc → Except DecodeError α} {json : α → Value} {put : α → σ → σ} {a : α}
      {fs : List (Field Doc DecodeError σ)} {ds : List Doc} {r r' : σ}
      (value : ReadsBack read json a) (rest : FieldsReadBack fs ds (put a r) r') :
      FieldsReadBack (.make presence names read put :: fs) ((json a).doc :: ds) r r'

namespace FieldsReadBack

variable {fs : List (Field Doc DecodeError σ)} {ds : List Doc} {r r' : σ}

theorem length_eq (h : FieldsReadBack fs ds r r') : fs.length = ds.length := by
  induction h with
  | nil => rfl
  | cons _ _ ih => rw [List.length_cons, ih, List.length_cons]

theorem faultless (h : FieldsReadBack fs ds r r') : ∀ d ∈ ds, d.Faultless := by
  induction h with
  | nil => exact List.forall_mem_nil _
  | cons value _ ih => exact List.forall_mem_cons.mpr ⟨value.faultless, ih⟩

theorem readItems (h : FieldsReadBack fs ds r r') (ending : Option DecodeError)
    (short : Nat → DecodeError) (i : Nat) :
    Schema.readItems ending short i fs ds r = .ok r' := by
  induction h generalizing i with
  | nil => rfl
  | cons value _ ih =>
    simp only [Schema.readItems, Field.make, value.read, Except.map, bind, Except.bind, ih]

end FieldsReadBack

/-- A record is read back if it is written as the object of its fields. -/
theorem ReadsBack.record {s : Schema Doc DecodeError σ} (hs : s.Proper) {write : σ → Value} {r : σ}
    {ds : List Doc} (h : FieldsReadBack s.fields ds s.blank r)
    (hdoc : (write r).doc = Doc.objectOf s ds) : ReadsBack (Doc.asRecord s) write r := by
  refine ⟨?_, ?_⟩
  · rw [hdoc, Doc.objectOf, Doc.faultless_object]
    refine ⟨fun m hm => ?_, rfl⟩
    rw [← List.map_uncurry_zip_eq_zipWith, List.mem_map] at hm
    obtain ⟨⟨f, d⟩, hm, rfl⟩ := hm
    exact h.faultless d (List.of_mem_zip hm).2
  · rw [hdoc, Doc.asRecord_objectOf hs h.length_eq, Doc.asRecord_list h.length_eq]
    exact h.readItems none _ 0

variable {read : Doc → Except DecodeError α} {json : α → Value} {a : α}

theorem decode_write {l : Value.Layout} (hl : l.Blank) (h : ReadsBack read json a) :
    decode read ((json a).write l 0) = .ok a :=
  decode_of_holds (Value.holds_write hl h.faultless) h.read

/-- Both ways of writing a value are read as that value. -/
def RoundTrips (read : Doc → Except DecodeError α) (json : α → Value) (a : α) : Prop :=
  decode read (json a).compactText = .ok a ∧ decode read (json a).prettyText = .ok a

theorem ReadsBack.roundTrips (h : ReadsBack read json a) : RoundTrips read json a :=
  ⟨decode_write Value.blank_compact h, decode_write Value.blank_pretty h⟩

/-- A text read and written again. -/
def rewritten (read : Doc → Except DecodeError α) (json : α → Value) (write : Value → String)
    (s : String) : Except DecodeError String :=
  (decode read s).map fun a => write (json a)

/-- If all that is read is read back, a second rewriting changes nothing. -/
theorem rewritten_idem (hback : ∀ s a, decode read s = .ok a → RoundTrips read json a)
    {write : Value → String} (hwrite : write = Value.compactText ∨ write = Value.prettyText)
    {s t : String} (h : rewritten read json write s = .ok t) :
    rewritten read json write t = .ok t := by
  obtain ⟨a, ha, rfl⟩ := map_eq_ok.mp h
  have hread : decode read (write (json a)) = .ok a := by
    obtain rfl | rfl := hwrite
    · exact (hback s a ha).1
    · exact (hback s a ha).2
  rw [rewritten, hread]
  rfl

end TrafficWatch.Json
