import TrafficWatch.Proofs.Url.PercentCoding

/-!
Texts as segments of a path. A text that is kept whole is read off its segment again; segments that
would be taken for dots come from dots only, with tabs and line ends between them at most.
-/

namespace TrafficWatch.Url

theorem toNat_of_toLower {c d : Char} (h : c.toLower = d) :
    c = d ∨ (65 ≤ c.toNat ∧ c.toNat + 32 = d.toNat) := by
  by_cases hc : c.val ≥ 'A'.val ∧ c.val ≤ 'Z'.val
  · right
    have hlow : 65 ≤ c.val.toNat := UInt32.le_iff_toNat_le.mp hc.1
    have hhigh : c.val.toNat ≤ 90 := UInt32.le_iff_toNat_le.mp hc.2
    have hl : c.toLower.val = c.val + 32 := congrArg Char.val (dif_pos hc)
    have hn : d.val.toNat = (c.val + 32).toNat := by rw [← h, hl]
    refine ⟨hlow, ?_⟩
    rw [UInt32.toNat_add] at hn
    simp only [UInt32.reduceToNat] at hn
    change c.val.toNat + 32 = d.val.toNat
    omega
  · left
    have hl : c.toLower = c := dif_neg hc
    exact hl.symm.trans h

theorem lowered_mem {forms : List String} {w : List Char}
    (h : forms.contains (String.ofList (w.map Char.toLower)) = true) :
    w.map Char.toLower ∈ forms.map String.toList :=
  List.mem_map.mpr ⟨_, List.contains_iff_mem.mp h, String.toList_ofList⟩

/-- Below the letters, only a character itself is lowered to it. -/
theorem eq_of_toLower {c d : Char} (h : c.toLower = d) (hd : d.toNat < 97) : c = d :=
  (toNat_of_toLower h).resolve_right fun ⟨hlow, hn⟩ => by omega

theorem eq_e_of_toLower {c : Char} (h : c.toLower = 'e') : c = 'e' ∨ c = 'E' :=
  (toNat_of_toLower h).imp_right fun ⟨_, hn⟩ => Char.toNat_inj.mp (Nat.add_right_cancel hn)

/-- A dot, or a dot written with a percent sign. -/
def dots : List (List Char) := [['.'], ['%', '2', 'e'], ['%', '2', 'E']]

theorem percentDecode_dot {w : List Char} (h : w ∈ dots) (rest : List UInt8) :
    percentDecode (w.flatMap String.utf8EncodeChar ++ rest) = 46 :: percentDecode rest := by
  simp only [dots, List.mem_cons, List.not_mem_nil, or_false] at h
  rcases h with rfl | rfl | rfl
  · exact percentDecode_cons (by decide) rest
  · rfl
  · rfl

theorem mem_dots_of_lowered {w : List Char}
    (h : w.map Char.toLower = ['.'] ∨ w.map Char.toLower = ['%', '2', 'e']) : w ∈ dots := by
  rcases h with h | h
  · obtain ⟨a, rfl, ha⟩ := List.map_eq_singleton_iff.mp h
    rw [eq_of_toLower ha (by decide)]
    decide
  · obtain ⟨a, rest, rfl, ha, hrest⟩ := List.map_eq_cons_iff.mp h
    obtain ⟨b, rest, rfl, hb, hrest⟩ := List.map_eq_cons_iff.mp hrest
    obtain ⟨c, rfl, hc⟩ := List.map_eq_singleton_iff.mp hrest
    rw [eq_of_toLower ha (by decide), eq_of_toLower hb (by decide)]
    rcases eq_e_of_toLower hc with rfl | rfl <;> decide

/-- A dot is read as a dot, however it is written. -/
theorem decoded_of_isDot {w : List Char} (h : isDot w = true) :
    decoded w = ['.'].flatMap String.utf8EncodeChar := by
  have hw : w ∈ dots := mem_dots_of_lowered (by simpa using lowered_mem h)
  unfold decoded
  rw [Text.bytes_ofList, ← List.append_nil (w.flatMap _), percentDecode_dot hw]
  rfl

theorem exists_dots {w x y : List Char} (hw : w.map Char.toLower = x ++ y)
    (hx : x = ['.'] ∨ x = ['%', '2', 'e']) (hy : y = ['.'] ∨ y = ['%', '2', 'e']) :
    ∃ a ∈ dots, ∃ b ∈ dots, w = a ++ b := by
  obtain ⟨a, b, rfl, ha, hb⟩ := List.map_eq_append_iff.mp hw
  exact ⟨a, mem_dots_of_lowered (ha ▸ hx), b, mem_dots_of_lowered (hb ▸ hy), rfl⟩

theorem decoded_of_isDoubleDot {w : List Char} (h : isDoubleDot w = true) :
    decoded w = ['.', '.'].flatMap String.utf8EncodeChar := by
  have hw := lowered_mem h
  simp only [List.map_cons, List.map_nil, List.mem_cons, List.not_mem_nil, or_false] at hw
  obtain ⟨a, ha, b, hb, rfl⟩ : ∃ a ∈ dots, ∃ b ∈ dots, w = a ++ b := by
    rcases hw with hw | hw | hw | hw
    · exact exists_dots hw (.inl rfl) (.inl rfl)
    · exact exists_dots hw (.inl rfl) (.inr rfl)
    · exact exists_dots hw (.inr rfl) (.inl rfl)
    · exact exists_dots hw (.inr rfl) (.inr rfl)
  unfold decoded
  rw [Text.bytes_ofList, List.flatMap_append, percentDecode_dot ha,
    ← List.append_nil (b.flatMap _), percentDecode_dot hb]
  rfl

namespace Address

/-- What a segment keeps of a text. -/
def kept (s : String) : List Char := s.toList.filter fun c => ! ['\t', '\n', '\r'].contains c

/-- A text is kept whole if it has no tab and no line end. -/
def KeptWhole (s : String) : Prop := ∀ c ∈ s.toList, c ∉ ['\t', '\n', '\r']

theorem kept_eq_toList {s : String} : kept s = s.toList ↔ KeptWhole s := by
  unfold kept KeptWhole
  rw [List.filter_eq_self]
  simp only [Bool.not_eq_true', List.contains_eq_mem, decide_eq_false_iff_not]

theorem segment_eq (s : String) : segment s = percentEncode segmentSet (kept s) := rfl

theorem decoded_segment (s : String) :
    decoded (segment s) = (kept s).flatMap String.utf8EncodeChar := decoded_percentEncode rfl _

theorem decoded_segment_eq_bytes {s : String} :
    decoded (segment s) = Text.bytes s ↔ KeptWhole s := by
  rw [decoded_segment, Text.bytes_eq_flatMap, ← kept_eq_toList]
  exact Text.flatMap_utf8EncodeChar_injective.eq_iff

theorem isDot_segment {s : String} : isDot (segment s) = true ↔ kept s = ['.'] := by
  constructor
  · intro h
    have hd := decoded_of_isDot h
    rw [decoded_segment] at hd
    exact Text.flatMap_utf8EncodeChar_injective hd
  · intro h
    rw [segment_eq, h]
    decide

theorem isDoubleDot_segment {s : String} : isDoubleDot (segment s) = true ↔ kept s = ['.', '.'] := by
  constructor
  · intro h
    have hd := decoded_of_isDoubleDot h
    rw [decoded_segment] at hd
    exact Text.flatMap_utf8EncodeChar_injective hd
  · intro h
    rw [segment_eq, h]
    decide

/-- Nothing in a segment ends it. -/
theorem not_mem_segment {c : Char} (hc : c ∈ ['/', '\\', '?', '#']) (s : String) :
    c ∉ segment s := by
  simp only [List.mem_cons, List.not_mem_nil, or_false] at hc
  rcases hc with rfl | rfl | rfl | rfl
  all_goals exact not_mem_percentEncode rfl (by decide) (by decide) _

/-- Addresses that differ in their paths only differ as texts where the paths do. -/
theorem text_withPath_inj {a : Address} {p q : List (List Char)} :
    { a with path := p }.text = { a with path := q }.text ↔
      p.flatMap ('/' :: ·) = q.flatMap ('/' :: ·) := by
  have hauthority : { a with path := p }.authority = { a with path := q }.authority := rfl
  unfold text
  rw [hauthority, ← String.toList_inj]
  simp only [String.toList_append, String.toList_ofList, List.append_cancel_left_eq,
    List.append_cancel_right_eq, pathText]

end Address

end TrafficWatch.Url
