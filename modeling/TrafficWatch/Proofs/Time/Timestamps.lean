import Mathlib.Data.List.Induction
import TrafficWatch.Proofs.Decimal.Digits
import TrafficWatch.Proofs.Fallible
import TrafficWatch.Proofs.Time.Calendar
import TrafficWatch.Time.Timestamp

/-!
Instants as text. What is read from a timestamp is an instant within the calendar, whose leap
seconds end a minute; and each such instant is read off its own text.
-/

namespace TrafficWatch.Time

open Decimal

namespace Timestamp

theorem trimStart_cons {c : Char} (hc : Text.isBlank c = false) (s : List Char) :
    Text.trimStart (c :: s) = c :: s := by
  rw [Text.trimStart, List.dropWhile_cons_of_neg (by simp [hc])]

theorem isBlank_of_isDigit {c : Char} (hc : c.isDigit = true) : Text.isBlank c = false := by
  have hrange : 48 ≤ c.toNat ∧ c.toNat ≤ 57 := by
    simpa [Char.isDigit, UInt32.le_iff_toNat_le] using hc
  simp only [Text.isBlank, Bool.or_eq_false_iff, Bool.and_eq_false_iff, decide_eq_false_iff_not,
    beq_eq_false_iff_ne]
  omega

theorem exists_padded_cons (width n : Nat) : ∃ c ds, padded width n = c :: ds ∧ c.isDigit = true := by
  obtain ⟨c, ds, h⟩ := List.exists_cons_of_ne_nil (padded_ne_nil width n)
  exact ⟨c, ds, h, isDigit_of_mem_padded (h ▸ List.mem_cons_self)⟩

theorem trimStart_padded (width n : Nat) (rest : List Char) :
    Text.trimStart (padded width n ++ rest) = padded width n ++ rest := by
  obtain ⟨c, ds, hds, hc⟩ := exists_padded_cons width n
  rw [hds, List.cons_append, trimStart_cons (isBlank_of_isDigit hc)]

variable {rest : List Char}

/-- A number is read off its digits, if it is allowed as many as it has. -/
theorem number_digits {limit : Option Nat} {c : Char} {ds : List Char}
    (hds : ∀ d ∈ c :: ds, d.isDigit = true) (hlimit : ∀ k ∈ limit, (c :: ds).length ≤ k)
    (hvalue : valueOf (c :: ds) ≤ 9223372036854775807) (hrest : NoDigitNext rest) :
    number limit (c :: ds ++ rest) = .ok (valueOf (c :: ds), rest) := by
  have htake := takeWhile_digits hds hrest
  have hdrop : (c :: ds ++ rest).drop (c :: ds).length = rest := List.drop_left
  have hc : c.isDigit = true := hds c List.mem_cons_self
  rw [List.cons_append] at htake hdrop ⊢
  cases limit with
  | none =>
    simp only [number, hc, Bool.not_true, Bool.false_eq_true, ↓reduceIte, htake, hvalue, hdrop]
  | some k =>
    have hall : (c :: ds).take k = c :: ds := List.take_of_length_le (hlimit k rfl)
    simp only [number, hc, Bool.not_true, Bool.false_eq_true, ↓reduceIte, htake, hall, hvalue,
      hdrop]

theorem number_padded {limit : Option Nat} {width n : Nat}
    (hlimit : ∀ k ∈ limit, (padded width n).length ≤ k) (hn : n ≤ 9223372036854775807)
    (hrest : NoDigitNext rest) : number limit (padded width n ++ rest) = .ok (n, rest) := by
  have hdigits : ∀ d ∈ padded width n, d.isDigit = true := fun d hd => isDigit_of_mem_padded hd
  have hvalue : valueOf (padded width n) = n := ofDigitChars_padded width n
  obtain ⟨c, ds, hds, -⟩ := exists_padded_cons width n
  rw [hds] at hlimit hdigits hvalue ⊢
  rw [number_digits hdigits hlimit (hvalue.symm ▸ hn) hrest, hvalue]

theorem part_padded {lo hi n : Nat} (hlo : lo ≤ n) (hhi : n ≤ hi) (hhundred : n < 100)
    (hrest : NoDigitNext rest) : part lo hi (padded 2 n ++ rest) = .ok (n, rest) := by
  have hlen : (padded 2 n).length = 2 := length_padded (by decide) hhundred
  have hread : number (some 2) (padded 2 n ++ rest) = .ok (n, rest) :=
    number_padded (by rintro k ⟨⟩; omega) (by omega) hrest
  simp only [part, trimStart_padded, hread, bind, Except.bind, within, hlo, hhi, and_self,
    ↓reduceIte]

theorem literal_cons {c : Char} (hc : Text.isBlank c = false) : literal c (c :: rest) = .ok rest := by
  rw [literal, trimStart_cons hc]
  simp

theorem toList_yearText (y : Int) : (yearText y).toList =
    if 0 ≤ y ∧ y ≤ 9999 then padded 4 y.toNat
    else (if y < 0 then '-' else '+') :: padded 4 y.natAbs := by
  unfold yearText
  split
  · rfl
  · rw [String.toList_append]
    split <;> rfl

theorem year_yearText {y : Int} (hy : minYear ≤ y ∧ y ≤ maxYear) (hrest : NoDigitNext rest) :
    year ((yearText y).toList ++ rest) = .ok (y, rest) := by
  have hrange : -262143 ≤ y ∧ y ≤ 262142 := hy
  have hfit : -2147483648 ≤ y ∧ y ≤ 2147483647 := by omega
  rw [toList_yearText]
  split
  · next hfour =>
    have hlen : (padded 4 y.toNat).length = 4 := length_padded (by decide) (by omega)
    have hread : number (some 4) (padded 4 y.toNat ++ rest) = .ok (y.toNat, rest) :=
      number_padded (by rintro k ⟨⟩; omega) (by omega) hrest
    have hvalue : (y.toNat : Int) = y := Int.toNat_of_nonneg hfour.1
    have htrim := trimStart_padded 4 y.toNat rest
    obtain ⟨c, ds, hds, hc⟩ := exists_padded_cons 4 y.toNat
    rw [hds, List.cons_append] at hread htrim ⊢
    unfold year
    rw [htrim]
    dsimp only
    split
    · next hminus => exact absurd hc (by rw [(List.cons.inj hminus).1]; decide)
    · next hplus => exact absurd hc (by rw [(List.cons.inj hplus).1]; decide)
    · simp only [hread, Except.map, bind, Except.bind, Bool.false_eq_true, ↓reduceIte, hvalue, hfit,
        and_self, pure, Except.pure]
  · next hsign =>
    have hread : number none (padded 4 y.natAbs ++ rest) = .ok (y.natAbs, rest) :=
      number_padded nofun (by omega) hrest
    split
    · next hneg =>
      have hvalue : -(y.natAbs : Int) = y := by omega
      rw [year, List.cons_append, trimStart_cons (by decide)]
      simp only [hread, Except.map, bind, Except.bind, ↓reduceIte, hvalue, hfit, and_self, pure,
        Except.pure]
    · next hpos =>
      have hvalue : (y.natAbs : Int) = y := by omega
      rw [year, List.cons_append, trimStart_cons (by decide)]
      simp only [hread, Except.map, bind, Except.bind, Bool.false_eq_true, ↓reduceIte, hvalue, hfit,
        and_self, pure, Except.pure]

theorem fraction_padded {width v : Nat} (hwidth : 0 < width) (hnine : width ≤ 9)
    (hv : v < 10 ^ width) (hrest : NoDigitNext rest) :
    fraction ('.' :: (padded width v ++ rest)) = .ok (v * 10 ^ (9 - width), rest) := by
  have hlen : (padded width v).length = width := length_padded hwidth hv
  have hpow : 10 ^ width ≤ 10 ^ 9 := Nat.pow_le_pow_right (by decide) hnine
  have hread : number (some 9) (padded width v ++ rest) = .ok (v, rest) :=
    number_padded (by rintro k ⟨⟩; omega) (by omega) hrest
  have hused : (padded width v ++ rest).length - rest.length = width := by
    rw [List.length_append, hlen]
    omega
  simp only [fraction, hread, bind, Except.bind, pure, Except.pure, hused,
    dropWhile_of_noDigitNext hrest]
  rfl

theorem toList_fractionText (nano : Nat) : (fractionText nano).toList =
    if nano = 0 then []
    else if nano % 1000000 = 0 then '.' :: padded 3 (nano / 1000000)
    else if nano % 1000 = 0 then '.' :: padded 6 (nano / 1000)
    else '.' :: padded 9 nano := by
  unfold fractionText
  split
  · rfl
  split
  · rw [String.toList_append]; rfl
  split
  · rw [String.toList_append]; rfl
  · rw [String.toList_append]; rfl

/-- However few digits a fraction is written with, it is read as it was. -/
theorem fraction_fractionText {nano : Nat} (hnano : nano < 1000000000) (hrest : NoDigitNext rest)
    (hdot : rest.head? ≠ some '.') :
    fraction ((fractionText nano).toList ++ rest) = .ok (nano, rest) := by
  rw [toList_fractionText]
  split
  · next hzero =>
    rw [hzero, List.nil_append]
    unfold fraction
    split
    · exact absurd rfl hdot
    · rfl
  split
  · rw [List.cons_append, fraction_padded (by decide) (by decide) (by omega) hrest]
    congr 2
    omega
  split
  · rw [List.cons_append, fraction_padded (by decide) (by decide) (by omega) hrest]
    congr 2
    omega
  · rw [List.cons_append, fraction_padded (by decide) (by decide) (by omega) hrest]
    congr 2
    omega

end Timestamp

namespace Instant

/-- An instant within the calendar. Only the last second of a minute may be a leap second. -/
structure Valid (t : Instant) : Prop where
  day : minDay ≤ t.day ∧ t.day ≤ maxDay
  second : t.second < 86400
  nano : t.nano < 2000000000
  leap : t.isLeapSecond = true → t.second % 60 = 59

/-- The seconds of a minute and the nanoseconds as they are written. -/
def writtenSecond (t : Instant) : Nat := t.second % 60 + if t.isLeapSecond then 1 else 0

def writtenNano (t : Instant) : Nat := if t.isLeapSecond then t.nano - 1000000000 else t.nano

theorem toList_text (t : Instant) : t.text.toList =
    (yearText (Date.ofDays t.day).year).toList ++ '-' :: (padded 2 (Date.ofDays t.day).month ++
      '-' :: (padded 2 (Date.ofDays t.day).day ++ 'T' :: (padded 2 (t.second / 3600) ++
        ':' :: (padded 2 (t.second / 60 % 60) ++ ':' :: (padded 2 t.writtenSecond ++
          ((fractionText t.writtenNano).toList ++ ['Z'])))))) := by
  have hdash : "-".toList = ['-'] := rfl
  have hcolon : ":".toList = [':'] := rfl
  have hT : "T".toList = ['T'] := rfl
  have hZ : "Z".toList = ['Z'] := rfl
  simp only [Instant.text, timeOfDay, String.toList_append, hdash, hcolon, hT, hZ,
    List.append_assoc, List.cons_append, List.nil_append]
  rfl

variable {t : Instant}

theorem isLeapSecond_iff : t.isLeapSecond = true ↔ 1000000000 ≤ t.nano := decide_eq_true_iff

theorem Valid.writtenNano_lt (h : t.Valid) : t.writtenNano < 1000000000 := by
  have hnano := h.nano
  unfold writtenNano
  split
  · omega
  · next hleap =>
    have := mt isLeapSecond_iff.mpr hleap
    omega

theorem writtenSecond_le (t : Instant) : t.writtenSecond ≤ 60 := by
  unfold writtenSecond
  split <;> omega

/-- What is written says again whether it is a leap second, and which second and nanosecond. -/
theorem Valid.read_written (h : t.Valid) :
    (if t.writtenSecond = 60 then 59 else t.writtenSecond) = t.second % 60 ∧
      (if t.writtenSecond = 60 then t.writtenNano + 1000000000 else t.writtenNano) = t.nano := by
  have hmod : t.second % 60 < 60 := Nat.mod_lt _ (by decide)
  unfold writtenSecond writtenNano
  by_cases hleap : t.isLeapSecond = true
  · have hnano := isLeapSecond_iff.mp hleap
    have hlast := h.leap hleap
    simp only [hleap, hlast, ↓reduceIte, Nat.reduceAdd, true_and]
    omega
  · have hsixty : t.second % 60 ≠ 60 := by omega
    simp only [hleap, Bool.false_eq_true, ↓reduceIte, Nat.add_zero, hsixty, and_self]

open Timestamp

theorem noDigitNext_fraction (nano : Nat) : NoDigitNext ((fractionText nano).toList ++ ['Z']) := by
  rw [toList_fractionText]
  split
  · exact noDigitNext_cons rfl _
  split
  · exact noDigitNext_cons rfl _
  split
  · exact noDigitNext_cons rfl _
  · exact noDigitNext_cons rfl _

theorem daysInMonth_le (year : Int) (month : Nat) : daysInMonth year month ≤ 31 := by
  unfold daysInMonth
  split
  · split <;> omega
  · split <;> omega

theorem Valid.shift_day (h : t.Valid) : shift t.day t.second t.nano = .ok t := by
  have hsecond := h.second
  have hday : t.day + (t.second : Int) / 86400 = t.day := by omega
  have hclock : ((t.second : Int) % 86400).toNat = t.second := by omega
  simp only [shift, hday, h.day, and_self, ↓reduceIte, hclock]

/-- A valid instant is read off its text. -/
theorem Valid.ofText?_text (h : t.Valid) : ofText? t.text = .ok t := by
  have hvalid := valid_ofDays h.day
  have hdays := toDays_ofDays t.day
  have hsecond := h.second
  obtain ⟨hclock, hnano⟩ := h.read_written
  unfold ofText?
  rw [toList_text]
  generalize Date.ofDays t.day = d at *
  obtain ⟨y, m, n⟩ := d
  obtain ⟨⟨⟨⟨hyear, hm⟩, hm'⟩, hn⟩, hn'⟩ :
      ((((minYear ≤ y ∧ y ≤ maxYear) ∧ 1 ≤ m) ∧ m ≤ 12) ∧ 1 ≤ n) ∧ n ≤ daysInMonth y m := by
    simpa [Date.valid] using hvalid
  have hlast := daysInMonth_le y m
  have readYear : ∀ rest, year ((yearText y).toList ++ '-' :: rest) = .ok (y, '-' :: rest) :=
    fun rest => year_yearText hyear (noDigitNext_cons rfl rest)
  have readMonth : ∀ rest, part 1 12 (padded 2 m ++ '-' :: rest) = .ok (m, '-' :: rest) :=
    fun rest => part_padded hm hm' (by omega) (noDigitNext_cons rfl rest)
  have readDay : ∀ rest, part 1 31 (padded 2 n ++ 'T' :: rest) = .ok (n, 'T' :: rest) :=
    fun rest => part_padded hn (by omega) (by omega) (noDigitNext_cons rfl rest)
  have readHour : ∀ rest, part 0 23 (padded 2 (t.second / 3600) ++ ':' :: rest) =
      .ok (t.second / 3600, ':' :: rest) :=
    fun rest => part_padded (by omega) (by omega) (by omega) (noDigitNext_cons rfl rest)
  have readMinute : ∀ rest, part 0 59 (padded 2 (t.second / 60 % 60) ++ ':' :: rest) =
      .ok (t.second / 60 % 60, ':' :: rest) :=
    fun rest => part_padded (by omega) (by omega) (by omega) (noDigitNext_cons rfl rest)
  have hsixty := t.writtenSecond_le
  have readSecond := part_padded (Nat.zero_le _) hsixty (by omega)
    (noDigitNext_fraction t.writtenNano)
  have readFraction := fraction_fractionText h.writtenNano_lt (noDigitNext_cons rfl [])
    (by decide : ['Z'].head? ≠ some '.')
  have hbare : Text.trimStart ['Z'] = ['Z'] := rfl
  have heast : offset ['Z'] = .ok (0, []) := rfl
  have hend : (Text.trimStart []).isEmpty = true := rfl
  have hcount : 3600 * (t.second / 3600) + 60 * (t.second / 60 % 60) + t.second % 60 = t.second := by
    omega
  have hzone : (-86400 : Int) < 0 ∧ (0 : Int) < 86400 := by decide
  simp only [readYear, bind, Except.bind, literal_cons (by decide : Text.isBlank '-' = false),
    readMonth, readDay, or_true, true_or, ↓reduceIte, readHour,
    literal_cons (by decide : Text.isBlank ':' = false), readMinute, readSecond, readFraction,
    hbare, heast, hend, hvalid, hzone, Bool.not_true, Bool.false_eq_true, hclock,
    hnano, hcount, hdays, Int.sub_zero]
  exact h.shift_day

end Instant

namespace Timestamp

theorem valueOf_lt {ds : List Char} (hds : ∀ c ∈ ds, c.isDigit = true) :
    valueOf ds < 10 ^ ds.length := by
  induction ds using List.reverseRecOn with
  | nil => decide
  | append_singleton ds c ih =>
    have hc : c.toNat ≤ 57 := by
      have hrange : 48 ≤ c.toNat ∧ c.toNat ≤ 57 := by
        simpa [Char.isDigit, UInt32.le_iff_toNat_le] using hds c (by simp)
      exact hrange.2
    have hfront := ih fun d hd => hds d (by simp [hd])
    have hlast : valueOf (ds ++ [c]) = 10 * valueOf ds + (c.toNat - 48) := by
      rw [valueOf, List.foldl_append]
      rfl
    rw [hlast, List.length_append, List.length_singleton, Nat.pow_succ]
    omega

theorem number_eq_ok {n v : Nat} {s rest : List Char} (h : number (some n) s = .ok (v, rest)) :
    ∃ ds, ds <+: s ∧ ds.length ≤ n ∧ (∀ c ∈ ds, c.isDigit = true) ∧ v = valueOf ds ∧
      rest = s.drop ds.length := by
  unfold number at h
  split at h
  · cases h
  split at h
  · cases h
  dsimp only at h
  split at h
  · obtain ⟨rfl, rfl⟩ := Prod.mk.inj (Except.ok.inj h)
    exact ⟨_, (List.take_prefix _ _).trans (List.takeWhile_prefix _), List.length_take_le _ _,
      fun c hc => List.mem_takeWhile_imp (List.mem_of_mem_take hc), rfl, rfl⟩
  · cases h

theorem fraction_lt {s rest : List Char} {nano : Nat} (h : fraction s = .ok (nano, rest)) :
    nano < 1000000000 := by
  unfold fraction at h
  split at h
  · next t =>
    obtain ⟨⟨v, tail⟩, hnumber, h⟩ := bind_eq_ok.mp h
    obtain ⟨ds, hprefix, hlen, hds, rfl, rfl⟩ := number_eq_ok hnumber
    obtain ⟨rfl, -⟩ := Prod.mk.inj (Except.ok.inj h)
    have hused : t.length - (t.drop ds.length).length = ds.length := by
      have := hprefix.length_le
      rw [List.length_drop]
      omega
    calc valueOf ds * Nat.pow 10 (9 - (t.length - (t.drop ds.length).length))
        < 10 ^ ds.length * 10 ^ (9 - ds.length) := by
          rw [hused]
          exact Nat.mul_lt_mul_of_pos_right (valueOf_lt hds) (Nat.pow_pos (by decide))
      _ = 10 ^ 9 := by rw [← Nat.pow_add, Nat.add_sub_cancel' hlen]
  · obtain ⟨rfl, -⟩ := Prod.mk.inj (Except.ok.inj h)
    decide

theorem minutes_offset {sign : Int} {hour : Nat} {s rest : List Char} {east : Int}
    (h : offset.minutes sign hour s = .ok (east, rest)) : 60 ∣ east := by
  unfold offset.minutes at h
  split at h
  · cases h
  · cases h
  · next m1 m2 _ _ =>
    split at h
    · obtain ⟨rfl, -⟩ := Prod.mk.inj (Except.ok.inj h)
      have hminutes : 60 ∣ 3600 * hour + 60 * (10 * m1 + m2) := by omega
      exact Dvd.dvd.mul_left (Int.natCast_dvd_natCast.mpr hminutes) sign
    · cases h

/-- Offsets are in whole minutes. -/
theorem offset_minutes {s rest : List Char} {east : Int} (h : offset s = .ok (east, rest)) :
    60 ∣ east := by
  have hours {sign : Int} {s : List Char} (h : offset.hours sign s = .ok (east, rest)) :
      60 ∣ east := by
    unfold offset.hours at h
    split at h
    · cases h
    · cases h
    · exact minutes_offset h
  have greenwich {s : List Char} (h : Except.ok (ε := TimestampError) (0, s) = .ok (east, rest)) :
      60 ∣ east := by
    obtain ⟨rfl, -⟩ := Prod.mk.inj (Except.ok.inj h)
    exact dvd_zero _
  unfold offset at h
  split at h
  · cases h
  split at h
  · exact greenwich h
  split at h
  · exact greenwich h
  split at h
  · exact hours h
  split at h
  · exact hours h
  · cases h

end Timestamp

namespace Instant

open Timestamp

theorem valid_of_shift {day second : Int} {nano : Nat} {t : Instant}
    (h : shift day second nano = .ok t) (hnano : nano < 2000000000)
    (hleap : 1000000000 ≤ nano → second % 60 = 59) : t.Valid := by
  unfold shift at h
  dsimp only at h
  split at h
  · next hday =>
    cases h
    have hmod : second % 86400 % 60 = second % 60 := Int.emod_emod_of_dvd _ (by decide)
    refine ⟨hday, by dsimp only; omega, hnano, fun h => ?_⟩
    have := hleap (isLeapSecond_iff.mp h)
    dsimp only
    omega
  · cases h

/-- Whatever is read is valid. -/
theorem valid_of_ofText? {s : String} {t : Instant} (h : ofText? s = .ok t) : t.Valid := by
  unfold ofText? at h
  obtain ⟨⟨y, s1⟩, -, h⟩ := bind_eq_ok.mp h
  obtain ⟨s2, -, h⟩ := bind_eq_ok.mp h
  obtain ⟨⟨month, s3⟩, -, h⟩ := bind_eq_ok.mp h
  obtain ⟨s4, -, h⟩ := bind_eq_ok.mp h
  obtain ⟨⟨day, s5⟩, -, h⟩ := bind_eq_ok.mp h
  dsimp only at h
  split at h
  · cases h
  split at h
  case isFalse => cases h
  obtain ⟨s6, -, h⟩ := bind_eq_ok.mp h
  obtain ⟨⟨hour, s7⟩, -, h⟩ := bind_eq_ok.mp h
  obtain ⟨s8, -, h⟩ := bind_eq_ok.mp h
  obtain ⟨⟨minute, s9⟩, -, h⟩ := bind_eq_ok.mp h
  obtain ⟨s10, -, h⟩ := bind_eq_ok.mp h
  obtain ⟨⟨second, s11⟩, -, h⟩ := bind_eq_ok.mp h
  obtain ⟨⟨nano, s12⟩, hfraction, h⟩ := bind_eq_ok.mp h
  obtain ⟨⟨east, s13⟩, hoffset, h⟩ := bind_eq_ok.mp h
  have hnano := fraction_lt hfraction
  obtain ⟨k, rfl⟩ := offset_minutes hoffset
  dsimp only at h
  split at h
  · cases h
  split at h
  · cases h
  split at h
  · cases h
  refine valid_of_shift h ?_ fun hlong => ?_
  · split <;> omega
  · have hleap : second = 60 := by
      by_contra hshort
      rw [if_neg hshort] at hlong
      omega
    rw [if_pos hleap]
    omega

end Instant

end TrafficWatch.Time
