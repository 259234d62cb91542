import TrafficWatch.Proofs.Url.PercentCoding

/-!
Pairs of texts written as a query, and read off it again. No text of a pair can leave a mark in the
query that would be taken for a mark between pairs, or between a name and its value.
-/

namespace TrafficWatch.Url.Form

/-- The bytes that a piece of a query is sent as. -/
def sent (cs : List Char) : List UInt8 := cs.flatMap String.utf8EncodeChar

theorem sent_append (cs ds : List Char) : sent (cs ++ ds) = sent cs ++ sent ds :=
  List.flatMap_append

theorem bytes_ofList (cs : List Char) : Text.bytes (String.ofList cs) = sent cs :=
  Text.bytes_ofList cs

theorem sent_encode (s : String) :
    sent (encode s) = (Text.bytes s).flatMap fun b => sent (encodeByte b) :=
  List.flatMap_assoc

/-- The bytes that mean something in a query, or end it. -/
def marks : List UInt8 := [35, 37, 38, 43, 61]

theorem plain_bounds {b : UInt8} (h : isPlain b = true) : b.toNat < 0x80 ∧ b ∉ marks := by
  have hrange : (48 ≤ b.toNat ∧ b.toNat ≤ 57) ∨ (65 ≤ b.toNat ∧ b.toNat ≤ 90) ∨
      (97 ≤ b.toNat ∧ b.toNat ≤ 122) ∨ b = 42 ∨ b = 45 ∨ b = 46 ∨ b = 95 := by
    simpa [isPlain, UInt8.le_iff_toNat_le, or_assoc] using h
  rcases hrange with hrange | hrange | hrange | rfl | rfl | rfl | rfl
  iterate 3
    refine ⟨by omega, fun hm => ?_⟩
    simp only [marks, List.mem_cons, List.not_mem_nil, or_false] at hm
    rcases hm with rfl | rfl | rfl | rfl | rfl <;> exact absurd hrange (by decide)
  all_goals decide

theorem digit_not_mem_marks {n : Nat} (hn : n < 16) : UInt8.ofNat (hexDigit n).toNat ∉ marks := by
  interval_cases n <;> decide

/-- A byte is sent as it is, as a plus sign if it is a blank, or as a percent sign with digits. -/
theorem sent_encodeByte (b : UInt8) :
    (isPlain b = true ∧ sent (encodeByte b) = [b]) ∨ (b = 32 ∧ sent (encodeByte b) = [43]) ∨
      sent (encodeByte b) = (percentByte b).flatMap String.utf8EncodeChar := by
  unfold encodeByte
  split
  · next hplain =>
    have hascii := (plain_bounds hplain).1
    have hchar : ∀ n < 0x80, (Char.ofNat n).toNat = n := by decide
    refine .inl ⟨hplain, ?_⟩
    rw [sent, List.flatMap_cons, List.flatMap_nil, List.append_nil,
      Text.utf8EncodeChar_of_ascii (by rwa [hchar _ hascii]), hchar _ hascii, UInt8.ofNat_toNat]
  · split
    · next hblank => exact .inr (.inl ⟨by simpa using hblank, rfl⟩)
    · exact .inr (.inr rfl)

/-- Of the bytes that mean something, a written text has the percent sign and the plus sign only. -/
theorem mem_sent_encode {s : String} {b : UInt8} (h : b ∈ sent (encode s)) (hm : b ∈ marks) :
    b = 37 ∨ b = 43 := by
  rw [sent_encode] at h
  obtain ⟨a, -, hb⟩ := List.mem_flatMap.mp h
  rcases sent_encodeByte a with ⟨hplain, hsent⟩ | ⟨-, hsent⟩ | hsent
  · rw [hsent, List.mem_singleton] at hb
    exact absurd (hb ▸ hm) (plain_bounds hplain).2
  · rw [hsent, List.mem_singleton] at hb
    exact .inr hb
  · have ha : a.toNat < 256 := a.toNat_lt
    rw [hsent, utf8Encode_percentByte] at hb
    simp only [List.mem_cons, List.not_mem_nil, or_false] at hb
    rcases hb with rfl | rfl | rfl
    · exact .inl rfl
    · exact absurd hm (digit_not_mem_marks (by omega))
    · exact absurd hm (digit_not_mem_marks (by omega))

def unplus (b : UInt8) : UInt8 := if b == 43 then 32 else b

theorem unplus_of_ne {b : UInt8} (h : b ≠ 43) : unplus b = b := by
  simp [unplus, h]

theorem percentDecode_sent_encodeByte (b : UInt8) (rest : List UInt8) :
    percentDecode ((sent (encodeByte b)).map unplus ++ rest) = b :: percentDecode rest := by
  rcases sent_encodeByte b with ⟨hplain, hsent⟩ | ⟨rfl, hsent⟩ | hsent
  · have hm := (plain_bounds hplain).2
    have hpercent : b ≠ 37 := by rintro rfl; exact hm (by decide)
    have hplus : b ≠ 43 := by rintro rfl; exact hm (by decide)
    rw [hsent, List.map_singleton, unplus_of_ne hplus, List.singleton_append,
      percentDecode_cons hpercent]
  · rw [hsent]
    exact percentDecode_cons (by decide) rest
  · have hb : b.toNat < 256 := b.toNat_lt
    have hdigit {n : Nat} (hn : n < 16) : UInt8.ofNat (hexDigit n).toNat ≠ 43 := fun h =>
      digit_not_mem_marks hn (h ▸ by decide)
    have hmap : ((percentByte b).flatMap String.utf8EncodeChar).map unplus =
        (percentByte b).flatMap String.utf8EncodeChar := by
      rw [utf8Encode_percentByte, List.map_cons, List.map_cons, List.map_singleton,
        unplus_of_ne (hdigit (by omega)), unplus_of_ne (hdigit (by omega))]
      rfl
    rw [hsent, hmap, percentDecode_percentByte]

/-- A text is read off what it is sent as. -/
theorem decode_sent_encode (s : String) : decode (sent (encode s)) = s := by
  have hbytes (bs : List UInt8) :
      percentDecode ((bs.flatMap fun b => sent (encodeByte b)).map unplus) = bs := by
    induction bs with
    | nil => rfl
    | cons b bs ih => rw [List.flatMap_cons, List.map_append, percentDecode_sent_encodeByte, ih]
  have hdecode : decode (sent (encode s)) =
      Text.ofBytesLossy (percentDecode ((sent (encode s)).map unplus)) := rfl
  rw [hdecode, sent_encode, hbytes, Text.ofBytesLossy_bytes]

theorem not_mem_sent_encode {b : UInt8} (hm : b ∈ marks) (hpercent : b ≠ 37) (hplus : b ≠ 43)
    (s : String) : b ∉ sent (encode s) := fun h =>
  (mem_sent_encode h hm).elim hpercent hplus

theorem sent_encodePair (p : String × String) :
    sent (encodePair p) = sent (encode p.1) ++ 61 :: sent (encode p.2) :=
  sent_append _ _

theorem splitPair_sent (p : String × String) :
    splitPair (sent (encodePair p)) = (sent (encode p.1), sent (encode p.2)) := by
  have hname : ∀ b ∈ sent (encode p.1), (b != 61) = true := fun b hb => bne_iff_ne.mpr fun h =>
    not_mem_sent_encode (by decide) (by decide) (by decide) p.1 (h ▸ hb)
  rw [sent_encodePair, splitPair, List.takeWhile_append_of_pos hname,
    List.dropWhile_append_of_pos hname, List.takeWhile_cons_of_neg (by decide),
    List.dropWhile_cons_of_neg (by decide), List.append_nil, List.drop_one, List.tail_cons]

theorem and_not_mem_sent (p : String × String) : 38 ∉ sent (encodePair p) := by
  rw [sent_encodePair, List.mem_append, List.mem_cons]
  rintro (h | h | h)
  · exact not_mem_sent_encode (by decide) (by decide) (by decide) p.1 h
  · exact absurd h (by decide)
  · exact not_mem_sent_encode (by decide) (by decide) (by decide) p.2 h

theorem sent_encodePair_ne_nil (p : String × String) : sent (encodePair p) ≠ [] := by
  simp [sent_encodePair]

/-- A query is its pairs with marks between them. -/
theorem appendAll_eq {query : List Char} (hquery : query ≠ []) (ps : List (String × String)) :
    appendAll query ps = ['&'].intercalate (query :: ps.map encodePair) := by
  induction ps generalizing query with
  | nil => exact List.intercalate_singleton.symm
  | cons p ps ih =>
    have hone : append query p = query ++ '&' :: encodePair p := if_neg (by simpa using hquery)
    rw [appendAll, List.foldl_cons, hone, ← appendAll, ih (by simp), List.map_cons]
    cases ps <;> simp

theorem sent_intercalate (css : List (List Char)) :
    sent (['&'].intercalate css) = [38].intercalate (css.map sent) := by
  induction css with
  | nil => rfl
  | cons cs css ih =>
    cases css with
    | nil => simp
    | cons ds css =>
      rw [List.intercalate_cons_cons, sent_append, sent_append, ih, List.map_cons, List.map_cons,
        List.map_cons, List.intercalate_cons_cons]
      rfl

/-- The pairs of a query are those that it was made of. -/
theorem parse_appendAll (ps : List (String × String)) :
    parse (String.ofList (appendAll [] ps)) = ps := by
  cases ps with
  | nil => decide
  | cons p ps =>
    have hfirst : encodePair p ≠ [] := by simp [encodePair]
    have hquery : appendAll [] (p :: ps) = ['&'].intercalate ((p :: ps).map encodePair) :=
      appendAll_eq hfirst ps
    have hparts : (Text.bytes (String.ofList (appendAll [] (p :: ps)))).splitOn 38 =
        (p :: ps).map fun q => sent (encodePair q) := by
      rw [bytes_ofList, hquery, sent_intercalate, List.map_map]
      refine List.splitOn_intercalate 38 (fun part hpart => ?_) (by simp)
      obtain ⟨q, -, rfl⟩ := List.mem_map.mp hpart
      exact and_not_mem_sent q
    have hkept : ((p :: ps).map fun q => sent (encodePair q)).filter (! ·.isEmpty) =
        (p :: ps).map fun q => sent (encodePair q) := by
      refine List.filter_eq_self.mpr fun part hpart => ?_
      obtain ⟨q, -, rfl⟩ := List.mem_map.mp hpart
      simpa using sent_encodePair_ne_nil q
    rw [parse, hparts, hkept, List.map_map]
    refine (List.map_congr_left fun q _ => ?_).trans (List.map_id _)
    simp only [Function.comp_apply, splitPair_sent, decode_sent_encode, id_eq]

end TrafficWatch.Url.Form
