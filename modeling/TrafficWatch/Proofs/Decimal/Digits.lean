import Mathlib.Data.List.TakeWhile
import Mathlib.Tactic.IntervalCases
import TrafficWatch.Decimal.Fixed

/-!
Numbers written in digits, filled up with zeros to a width or not, and their values.
-/

namespace TrafficWatch.Decimal

/-- A text that does not go on with a digit. -/
def NoDigitNext (rest : List Char) : Prop := ∀ c ∈ rest.head?, c.isDigit = false

theorem noDigitNext_cons {c : Char} (hc : c.isDigit = false) (rest : List Char) :
    NoDigitNext (c :: rest) := by
  rintro d ⟨⟩
  exact hc

theorem dropWhile_of_noDigitNext {rest : List Char} (h : NoDigitNext rest) :
    rest.dropWhile Char.isDigit = rest := by
  cases rest with
  | nil => rfl
  | cons c rest => rw [List.dropWhile_cons_of_neg (by simp [h c rfl])]

theorem takeWhile_digits {ds : List Char} (hds : ∀ c ∈ ds, c.isDigit = true) {rest : List Char}
    (h : NoDigitNext rest) : (ds ++ rest).takeWhile Char.isDigit = ds := by
  rw [List.takeWhile_append_of_pos hds]
  cases rest with
  | nil => simp
  | cons c rest => rw [List.takeWhile_cons_of_neg (by simp [h c rfl]), List.append_nil]

theorem dropWhile_digits {ds : List Char} (hds : ∀ c ∈ ds, c.isDigit = true) {rest : List Char}
    (h : NoDigitNext rest) : (ds ++ rest).dropWhile Char.isDigit = rest := by
  rw [List.dropWhile_append_of_pos hds, dropWhile_of_noDigitNext h]

theorem isDigit_of_mem_toDigits {n : Nat} {c : Char} (hc : c ∈ Nat.toDigits 10 n) :
    c.isDigit = true :=
  Nat.isDigit_of_mem_toDigits (by decide) (by decide) hc

theorem head?_toDigits_ne_zero {n : Nat} (hn : 0 < n) : (Nat.toDigits 10 n).head? ≠ some '0' := by
  induction n using Nat.strongRecOn with
  | ind n ih =>
    by_cases hten : n < 10
    · rw [Nat.toDigits_of_lt_base hten]
      interval_cases n <;> decide
    · have hfront := ih (n / 10) (by omega) (by omega)
      obtain ⟨c, ds, hds⟩ := List.exists_cons_of_ne_nil (Nat.toDigits_ne_nil (n := n / 10) (b := 10))
      rw [hds] at hfront
      rw [Nat.toDigits_of_base_le (by decide) (by omega), hds]
      exact hfront

theorem le_ofDigitChars (ds : List Char) (start : Nat) : start ≤ Nat.ofDigitChars 10 ds start := by
  induction ds generalizing start with
  | nil => exact Nat.le_of_eq Nat.ofDigitChars_nil.symm
  | cons c ds ih =>
    rw [Nat.ofDigitChars_cons]
    have := ih (10 * start + (c.toNat - '0'.toNat))
    omega

theorem toList_digits (n : Nat) : (digits n).toList = Nat.toDigits 10 n := by simp [digits]

theorem toList_padZeros (width : Nat) (s : String) :
    (padZeros width s).toList = List.replicate (width - s.length) '0' ++ s.toList := by
  simp [padZeros]

/-- A number in at least so many digits. -/
def padded (width n : Nat) : List Char := (padZeros width (digits n)).toList

theorem padded_eq (width n : Nat) : padded width n =
    List.replicate (width - (Nat.toDigits 10 n).length) '0' ++ Nat.toDigits 10 n := by
  rw [padded, toList_padZeros, toList_digits, ← String.length_toList, toList_digits]

theorem isDigit_of_mem_padded {width n : Nat} {c : Char} (hc : c ∈ padded width n) :
    c.isDigit = true := by
  rw [padded_eq, List.mem_append] at hc
  obtain hc | hc := hc
  · rw [List.eq_of_mem_replicate hc]
    rfl
  · exact isDigit_of_mem_toDigits hc

theorem length_padded {width n : Nat} (hwidth : 0 < width) (hn : n < 10 ^ width) :
    (padded width n).length = width := by
  have hlen := (Nat.length_toDigits_le_iff (b := 10) (by decide) hwidth).mpr hn
  rw [padded_eq, List.length_append, List.length_replicate]
  omega

theorem padded_ne_nil (width n : Nat) : padded width n ≠ [] := by simp [padded_eq]

/-- The zeros in front do not count. -/
theorem ofDigitChars_padded (width n : Nat) : Nat.ofDigitChars 10 (padded width n) 0 = n := by
  rw [padded_eq, Nat.ofDigitChars_append, Nat.ofDigitChars_replicate_zero, Nat.mul_zero,
    Nat.ofDigitChars_ten_toDigits]

end TrafficWatch.Decimal
