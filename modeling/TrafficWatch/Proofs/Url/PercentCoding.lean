import Mathlib.Tactic.IntervalCases
import TrafficWatch.Url.Parse

/-!
Texts written with percent signs, and the bytes that are read off them again. Whatever else a set
of characters has written so: if the percent sign is in it, reading gives back what was written.
-/

namespace TrafficWatch.Text

theorem bytes_ofList (l : List Char) : bytes (String.ofList l) = l.flatMap String.utf8EncodeChar := by
  simp [bytes, String.toUTF8, List.utf8Encode, List.data_toByteArray]

theorem bytes_eq_flatMap (s : String) : bytes s = s.toList.flatMap String.utf8EncodeChar := by
  rw [← bytes_ofList, String.ofList_toList]

theorem bytes_injective : Function.Injective bytes := fun s t h => by
  rw [← ofBytesLossy_bytes s, h, ofBytesLossy_bytes]

theorem flatMap_utf8EncodeChar_injective :
    Function.Injective fun l : List Char => l.flatMap String.utf8EncodeChar := fun l m h => by
  have hs : String.ofList l = String.ofList m := bytes_injective (by simpa [bytes_ofList] using h)
  exact String.ofList_injective hs

theorem utf8EncodeChar_of_ascii {c : Char} (h : c.toNat < 0x80) :
    String.utf8EncodeChar c = [UInt8.ofNat c.toNat] := by
  have hc : c.val.toNat ≤ 127 := Nat.le_of_lt_succ h
  simp only [String.utf8EncodeChar, hc, ↓reduceIte]
  rfl

end TrafficWatch.Text

namespace TrafficWatch.Url

/-- The bytes that a written text stands for. -/
def decoded (written : List Char) : List UInt8 := percentDecode (Text.bytes (String.ofList written))

theorem percentDecode_cons {b : UInt8} (hb : b ≠ 37) (rest : List UInt8) :
    percentDecode (b :: rest) = b :: percentDecode rest := by
  match rest with
  | [] => simp [percentDecode]
  | [_] => simp [percentDecode]
  | _ :: _ :: _ =>
    rw [percentDecode]
    rintro _ _ _ h -
    exact absurd h hb

/-- A digit is ASCII, and it is read as what it was written for. -/
theorem hexDigit_read {n : Nat} (hn : n < 16) : (hexDigit n).toNat < 0x80 ∧
    isHexDigit (UInt8.ofNat (hexDigit n).toNat) = true ∧
    hexByte (UInt8.ofNat (hexDigit n).toNat) = n := by
  interval_cases n <;> decide

theorem utf8Encode_percentByte (b : UInt8) : (percentByte b).flatMap String.utf8EncodeChar =
    [37, UInt8.ofNat (hexDigit (b.toNat / 16)).toNat, UInt8.ofNat (hexDigit (b.toNat % 16)).toNat] := by
  have hb : b.toNat < 256 := b.toNat_lt
  have hhigh := (hexDigit_read (n := b.toNat / 16) (by omega)).1
  have hlow := (hexDigit_read (n := b.toNat % 16) (by omega)).1
  simp only [percentByte, List.flatMap_cons, List.flatMap_nil, List.append_nil,
    Text.utf8EncodeChar_of_ascii hhigh, Text.utf8EncodeChar_of_ascii hlow]
  rfl

theorem percentDecode_percentByte (b : UInt8) (rest : List UInt8) :
    percentDecode ((percentByte b).flatMap String.utf8EncodeChar ++ rest) =
      b :: percentDecode rest := by
  have hb : b.toNat < 256 := b.toNat_lt
  obtain ⟨-, hhighDigit, hhighValue⟩ := hexDigit_read (n := b.toNat / 16) (by omega)
  obtain ⟨-, hlowDigit, hlowValue⟩ := hexDigit_read (n := b.toNat % 16) (by omega)
  have hvalue : 16 * (b.toNat / 16) + b.toNat % 16 = b.toNat := Nat.div_add_mod ..
  rw [utf8Encode_percentByte]
  simp only [List.cons_append, List.nil_append, percentDecode, hhighDigit, hlowDigit, Bool.and_self,
    ↓reduceIte, hhighValue, hlowValue, hvalue, UInt8.ofNat_toNat]

theorem percentDecode_percentBytes (bs rest : List UInt8) :
    percentDecode ((bs.flatMap percentByte).flatMap String.utf8EncodeChar ++ rest) =
      bs ++ percentDecode rest := by
  induction bs with
  | nil => rfl
  | cons b bs ih =>
    rw [List.flatMap_cons, List.flatMap_append, List.append_assoc, percentDecode_percentByte, ih,
      List.cons_append]

variable {set : Char → Bool}

theorem percentEncode_cons_of_set {c : Char} (hc : set c = true ∨ 0x80 ≤ c.toNat) (s : List Char) :
    percentEncode set (c :: s) = percentChar c ++ percentEncode set s := by
  have hone : (set c || decide (0x80 ≤ c.toNat)) = true := by simpa using hc
  rw [percentEncode, List.flatMap_cons, if_pos hone]
  rfl

theorem percentEncode_cons_of_plain {c : Char} (hplain : set c = false) (hascii : c.toNat < 0x80)
    (s : List Char) : percentEncode set (c :: s) = c :: percentEncode set s := by
  have hone : ¬ (set c || decide (0x80 ≤ c.toNat)) = true := by
    simp [hplain, Nat.not_le.mpr hascii]
  rw [percentEncode, List.flatMap_cons, if_neg hone]
  rfl

/-- Reading undoes writing, as long as percent signs are not left as they are. -/
theorem decoded_percentEncode (hset : set '%' = true) (s : List Char) :
    decoded (percentEncode set s) = s.flatMap String.utf8EncodeChar := by
  unfold decoded
  rw [Text.bytes_ofList]
  induction s with
  | nil => rfl
  | cons c s ih =>
    by_cases hc : set c = true ∨ 0x80 ≤ c.toNat
    · rw [percentEncode_cons_of_set hc, List.flatMap_append, percentChar, percentDecode_percentBytes,
        ih, List.flatMap_cons]
    · obtain ⟨hplain, hascii⟩ : set c = false ∧ c.toNat < 0x80 := by simpa using hc
      have hpercent : UInt8.ofNat c.toNat ≠ UInt8.ofNat '%'.toNat := fun h => by
        have hn : c.toNat = '%'.toNat := by
          have hbytes := congrArg UInt8.toNat h
          rw [UInt8.toNat_ofNat', UInt8.toNat_ofNat', Nat.mod_eq_of_lt (by omega)] at hbytes
          exact hbytes
        rw [Char.toNat_inj.mp hn, hset] at hplain
        cases hplain
      rw [percentEncode_cons_of_plain hplain hascii, List.flatMap_cons, List.flatMap_cons,
        Text.utf8EncodeChar_of_ascii hascii, List.singleton_append, percentDecode_cons hpercent, ih,
        List.singleton_append]

theorem decoded_percentEncode_toList (hset : set '%' = true) (s : String) :
    decoded (percentEncode set s.toList) = Text.bytes s := by
  rw [decoded_percentEncode hset, Text.bytes_eq_flatMap]

theorem percentEncode_injective (hset : set '%' = true) :
    Function.Injective fun s : String => percentEncode set s.toList := fun s t h => by
  have hd := congrArg decoded h
  simp only [decoded_percentEncode_toList hset] at hd
  exact Text.bytes_injective hd

/-- A written text has percent signs, digits, and characters that may stand as they are. -/
theorem mem_percentEncode {s : List Char} {c : Char} (hc : c ∈ percentEncode set s) :
    c = '%' ∨ (∃ n < 16, c = hexDigit n) ∨ (set c = false ∧ c ∈ s) := by
  induction s with
  | nil => cases hc
  | cons a s ih =>
    have hrest : c ∈ percentEncode set s →
        c = '%' ∨ (∃ n < 16, c = hexDigit n) ∨ (set c = false ∧ c ∈ a :: s) := fun h =>
      (ih h).imp_right fun h => h.imp_right fun h => ⟨h.1, List.mem_cons_of_mem a h.2⟩
    by_cases ha : set a = true ∨ 0x80 ≤ a.toNat
    · rw [percentEncode_cons_of_set ha, List.mem_append] at hc
      refine hc.elim (fun hc => ?_) hrest
      obtain ⟨b, -, hb⟩ := List.mem_flatMap.mp hc
      have hsize : b.toNat < 256 := b.toNat_lt
      simp only [percentByte, List.mem_cons, List.not_mem_nil, or_false] at hb
      rcases hb with rfl | rfl | rfl
      · exact .inl rfl
      · exact .inr (.inl ⟨_, by omega, rfl⟩)
      · exact .inr (.inl ⟨_, by omega, rfl⟩)
    · obtain ⟨hplain, hascii⟩ : set a = false ∧ a.toNat < 0x80 := by simpa using ha
      rw [percentEncode_cons_of_plain hplain hascii, List.mem_cons] at hc
      refine hc.elim (fun hc => ?_) hrest
      rw [hc]
      exact .inr (.inr ⟨hplain, List.mem_cons_self⟩)

/-- A character of the set does not stand in a written text, unless the writing itself needs it. -/
theorem not_mem_percentEncode {c : Char} (hset : set c = true) (hc : c ≠ '%')
    (hdigit : ∀ n < 16, c ≠ hexDigit n) (s : List Char) : c ∉ percentEncode set s := by
  intro hm
  rcases mem_percentEncode hm with h | ⟨n, hn, h⟩ | ⟨h, -⟩
  · exact hc h
  · exact hdigit n hn h
  · simp [hset] at h

/-- What is not in the set is left as it is. -/
theorem percentEncode_of_plain {s : List Char} (hs : ∀ c ∈ s, set c = false ∧ c.toNat < 0x80) :
    percentEncode set s = s := by
  induction s with
  | nil => rfl
  | cons c s ih =>
    obtain ⟨hplain, hascii⟩ := hs c List.mem_cons_self
    rw [percentEncode_cons_of_plain hplain hascii, ih fun a ha => hs a (List.mem_cons_of_mem c ha)]

end TrafficWatch.Url
