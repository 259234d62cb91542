import TrafficWatch.Proofs.Fallible
import TrafficWatch.Proofs.Splitting
import TrafficWatch.Proofs.Text.Composing
import TrafficWatch.Proofs.Url.PercentCoding

/-!
No name of a host has a colon: neither the mapping of its characters nor Punycode can make one
disappear, and a text with one is refused in the end. Only an address in brackets has colons.
-/

namespace TrafficWatch

namespace Text

/-- A byte of ASCII comes from the character that it is. -/
theorem eq_of_mem_utf8EncodeChar {c d : Char} (hd : d.toNat < 0x80)
    (h : UInt8.ofNat d.toNat ∈ String.utf8EncodeChar c) : c = d := by
  have hoctet : ∀ n, (UInt8.ofNat n).toNat = n % 256 := fun n => UInt8.toNat_ofNat'
  have heq {n : Nat} (hn : UInt8.ofNat d.toNat = UInt8.ofNat n) : d.toNat = n % 256 := by
    have hmod := congrArg UInt8.toNat hn
    rwa [hoctet, hoctet, Nat.mod_eq_of_lt (by omega)] at hmod
  simp only [String.utf8EncodeChar] at h
  split at h
  · next hascii =>
    have hc := heq (List.mem_singleton.mp h)
    exact Char.toNat_inj.mp (by
      have hval : c.toNat = c.val.toNat := rfl
      omega)
  -- every byte of a longer code has its highest bit set
  split at h
  · simp only [List.mem_cons, List.not_mem_nil, or_false] at h
    rcases h with h | h <;> have hn := heq h <;> omega
  split at h
  · simp only [List.mem_cons, List.not_mem_nil, or_false] at h
    rcases h with h | h | h <;> have hn := heq h <;> omega
  · simp only [List.mem_cons, List.not_mem_nil, or_false] at h
    rcases h with h | h | h | h <;> have hn := heq h <;> omega

theorem bytes_of_fromUTF8? {b : ByteArray} {s : String} (h : String.fromUTF8? b = some s) :
    bytes s = b.data.toList := by
  unfold String.fromUTF8? at h
  split at h
  · obtain rfl := Option.some.inj h
    rfl
  · cases h

end Text

namespace Url

theorem mem_percentDecode_colon {bs : List UInt8} (h : 58 ∈ bs) : 58 ∈ percentDecode bs := by
  induction bs using percentDecode.induct with
  | case1 a b t hdigits ih =>
    -- a colon is none of the digits that follow a percent sign
    have ha : 58 ≠ a := by rintro rfl; exact absurd hdigits (by simp [isHexDigit])
    have hb : 58 ≠ b := by rintro rfl; exact absurd hdigits (by simp [isHexDigit])
    rw [percentDecode, if_pos hdigits]
    exact List.mem_cons_of_mem _ (ih (by simpa [ha, hb] using h))
  | case2 a b t hdigits ih =>
    rw [percentDecode, if_neg hdigits]
    exact List.mem_cons_of_mem _ (ih (by simpa using h))
  | case3 b t hb ih =>
    rw [percentDecode]
    · exact (List.mem_cons.mp h).elim (fun h => h ▸ List.mem_cons_self)
        fun h => List.mem_cons_of_mem _ (ih h)
    · exact hb
  | case4 => cases h

namespace Punycode

theorem out_pass (basic n : Nat) (w : Writer) (c : Nat) : w.out <+: (w.pass basic n c).out := by
  unfold Writer.pass
  split
  · exact List.prefix_rfl
  split
  · exact List.prefix_append _ _
  · exact List.prefix_rfl

theorem out_foldl (basic n : Nat) (text : List Nat) (w : Writer) :
    w.out <+: (text.foldl (Writer.pass basic n) w).out := by
  induction text generalizing w with
  | nil => exact List.prefix_rfl
  | cons c text ih => exact (out_pass basic n w c).trans (ih _)

theorem out_rounds (text : List Nat) (basic : Nat) (ns : List Nat) (previous : Nat) (w : Writer) :
    w.out <+: (rounds text basic ns previous w).out := by
  induction ns generalizing previous w with
  | nil => exact List.prefix_rfl
  | cons n ns ih =>
    let w₀ : Writer := { w with delta := w.delta + (n - previous) * (w.handled + 1) }
    let w₁ := text.foldl (Writer.pass basic n) w₀
    have hround : w.out <+: w₁.out := out_foldl basic n text w₀
    exact hround.trans (ih (n + 1) ⟨w₁.delta + 1, w₁.bias, w₁.handled, w₁.out⟩)

/-- What is ASCII is written as it is. -/
theorem mem_encode {cs : List Char} {c : Char} (hc : c ∈ cs) (hascii : c.toNat < 128) :
    c ∈ encode cs := by
  have hbasic : c ∈ cs.filter (·.toNat < 128) := List.mem_filter.mpr ⟨hc, decide_eq_true hascii⟩
  have hne : (cs.filter (·.toNat < 128)).isEmpty = false := by
    rw [List.isEmpty_eq_false_iff]
    exact List.ne_nil_of_mem hbasic
  unfold encode
  dsimp only
  refine (out_rounds _ _ _ _ _).subset ?_
  rw [hne]
  exact List.mem_append_left _ hbasic

end Punycode

namespace Domain

theorem colon_mem_mapText {cs mapped : List Char} (h : mapText cs = some mapped) (hc : ':' ∈ cs) :
    ':' ∈ mapped := by
  obtain ⟨parts, hparts, rfl⟩ := Option.map_eq_some_iff.mp h
  obtain ⟨part, hpart, hmap⟩ := mapM_eq_some_left hparts hc
  obtain rfl := Option.some.inj hmap
  exact Text.colon_mem_compose (List.mem_flatten.mpr ⟨_, hpart, by decide⟩)

theorem colon_mem_label {cs : List Char} {l : Label} (h : label cs = some l) (hc : ':' ∈ cs) :
    ':' ∈ l.written := by
  unfold label at h
  split at h
  · next hmark =>
    obtain ⟨encoded, rfl⟩ := List.isPrefixOf_iff_prefix.mp hmark
    obtain ⟨cs, -, h⟩ := Option.bind_eq_some_iff.mp h
    split at h
    · obtain rfl := Option.some.inj h
      exact hc
    · cases h
  split at h
  · obtain rfl := Option.some.inj h
    exact hc
  split at h
  · obtain rfl := Option.some.inj h
    exact List.mem_append_right _ (Punycode.mem_encode hc (by decide))
  · cases h

theorem colon_mem_splitOn {cs : List Char} (h : ':' ∈ cs) :
    ∃ part ∈ cs.splitOn '.', ':' ∈ part := by
  have hjoin : ['.'].intercalate (cs.splitOn '.') = cs := List.intercalate_splitOn '.'
  rw [← hjoin] at h
  obtain ⟨part, hpart, hc⟩ := List.mem_flatten.mp h
  rcases eq_or_mem_of_mem_intersperse hpart with rfl | hpart
  · exact absurd hc (by decide)
  · exact ⟨part, hpart, hc⟩

/-- A text with a colon is not the name of a host. -/
theorem toAscii_eq_none {s : String} (hc : ':' ∈ s.toList) : toAscii s = none := by
  by_contra hne
  obtain ⟨text, h⟩ := Option.ne_none_iff_exists'.mp hne
  obtain ⟨mapped, hmapped, h⟩ := Option.bind_eq_some_iff.mp h
  obtain ⟨labels, hlabels, h⟩ := Option.bind_eq_some_iff.mp h
  obtain ⟨part, hpart, hc⟩ := colon_mem_splitOn (colon_mem_mapText hmapped hc)
  obtain ⟨l, hl, hlabel⟩ := mapM_eq_some_left hlabels hpart
  have hwritten : ':' ∈ ['.'].intercalate (labels.map (·.written)) :=
    List.mem_flatten.mpr ⟨l.written, mem_intersperse (List.mem_map_of_mem hl),
      colon_mem_label hlabel hc⟩
  have hforbidden : (['.'].intercalate (labels.map (·.written))).any isForbidden = true :=
    List.any_eq_true.mpr ⟨':', hwritten, by decide⟩
  simp [hforbidden] at h

end Domain

/-- Where there is a host with a colon, it is an address in brackets. -/
theorem exists_brackets {s : List Char} {host : Host} (h : parseHost s = .ok host) (hc : ':' ∈ s) :
    ∃ t, s = '[' :: t ∧ t.getLast? = some ']' := by
  unfold parseHost at h
  split at h
  · cases h
  · next t =>
    split at h
    · next hlast => exact ⟨t, rfl, hlast⟩
    · cases h
  · have hbytes : 58 ∈ percentDecode (Text.bytes (String.ofList s)) := by
      refine mem_percentDecode_colon ?_
      rw [Text.bytes_ofList]
      exact List.mem_flatMap.mpr ⟨':', hc, by decide⟩
    have hnone : (String.fromUTF8? ⟨(percentDecode (Text.bytes (String.ofList s))).toArray⟩).bind
        Domain.toAscii = none := by
      rw [Option.bind_eq_none_iff]
      intro name hname
      refine Domain.toAscii_eq_none ?_
      have hread : Text.bytes name = percentDecode (Text.bytes (String.ofList s)) :=
        Text.bytes_of_fromUTF8? hname
      rw [← hread, Text.bytes_eq_flatMap] at hbytes
      obtain ⟨c, hc, hcolon⟩ := List.mem_flatMap.mp hbytes
      exact Text.eq_of_mem_utf8EncodeChar (d := ':') (by decide) hcolon ▸ hc
    rw [hnone] at h
    cases h

end Url

end TrafficWatch
