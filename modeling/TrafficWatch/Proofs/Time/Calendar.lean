import Mathlib.Tactic.IntervalCases
import TrafficWatch.Time.Calendar

/-!
Days and dates. Every day has a date, whose day it is; and the days between the first and the last
that are kept have dates that are valid.
-/

namespace TrafficWatch.Time

/-- The first of March. -/
def yearStart (year : Int) : Int := 365 * year + year / 4 - year / 100 + year / 400 - 719468

/-- The date so many days after the first of March. -/
def marchDate (year day : Int) : Date :=
  let m := (5 * day + 2) / 153
  ⟨if m < 10 then year else year + 1, (if m < 10 then m + 3 else m - 9).toNat,
    (day - (153 * m + 2) / 5 + 1).toNat⟩

/-- A day of four hundred years by century, leap cycle, year and day. Each of them has one more at
its end where the next larger one does. -/
theorem exists_cycles {doe : Int} (hlow : 0 ≤ doe) (hhigh : doe < 146097) :
    ∃ c q r d : Int, (0 ≤ c ∧ c ≤ 3) ∧ (0 ≤ q ∧ q ≤ 24) ∧ (0 ≤ r ∧ r ≤ 3) ∧ 0 ≤ d ∧
      (d ≤ 364 ∨ (d = 365 ∧ r = 3 ∧ (q ≤ 23 ∨ c = 3))) ∧
      doe = 36524 * c + 1461 * q + 365 * r + d := by
  obtain ⟨c, hc, n, hn, rfl⟩ : ∃ c, (0 ≤ c ∧ c ≤ 3) ∧
      ∃ n, (0 ≤ n ∧ (n < 36524 ∨ (n = 36524 ∧ c = 3))) ∧ doe = 36524 * c + n :=
    ⟨min (doe / 36524) 3, by omega, doe - 36524 * min (doe / 36524) 3, by omega, by omega⟩
  obtain ⟨q, hq, m, hm, rfl⟩ : ∃ q, (0 ≤ q ∧ q ≤ 24) ∧
      ∃ m, (0 ≤ m ∧ (m < 1460 ∨ (m = 1460 ∧ (q ≤ 23 ∨ c = 3)))) ∧ n = 1461 * q + m :=
    ⟨n / 1461, by omega, n % 1461, by omega, by omega⟩
  obtain ⟨r, hr, d, hd, rfl⟩ : ∃ r, (0 ≤ r ∧ r ≤ 3) ∧
      ∃ d, (0 ≤ d ∧ (d ≤ 364 ∨ (d = 365 ∧ r = 3 ∧ m = 1460))) ∧ m = 365 * r + d :=
    ⟨min (m / 365) 3, by omega, m - 365 * min (m / 365) 3, by omega, by omega⟩
  exact ⟨c, q, r, d, hc, hq, hr, by omega, by omega, by omega⟩

theorem yearOfEra_eq {c q r d doe : Int} (hc : 0 ≤ c ∧ c ≤ 3) (hq : 0 ≤ q ∧ q ≤ 24)
    (hr : 0 ≤ r ∧ r ≤ 3) (hd : 0 ≤ d)
    (hlast : d ≤ 364 ∨ (d = 365 ∧ r = 3 ∧ (q ≤ 23 ∨ c = 3)))
    (hdoe : doe = 36524 * c + 1461 * q + 365 * r + d) :
    (doe - doe / 1460 + doe / 36524 - doe / 146096) / 365 = 100 * c + 4 * q + r := by
  have hcentury : doe / 36524 - doe / 146096 = c := by
    obtain h | h := (by omega : doe = 146096 ∨ doe < 36524 * (c + 1)) <;> omega
  have hcycle : (doe / 1460 = 25 * c + q ∧ 24 * c + q + 365 * r + d < 1460) ∨
      (doe / 1460 = 25 * c + q + 1 ∧ 1460 ≤ 24 * c + q + 365 * r + d) := by omega
  obtain ⟨hcycle, hfew⟩ | ⟨hcycle, hmany⟩ := hcycle
  · have hdays : doe - doe / 1460 + doe / 36524 - doe / 146096 =
        365 * (100 * c + 4 * q + r) + d := by omega
    rw [hdays]
    omega
  · have hdays : doe - doe / 1460 + doe / 36524 - doe / 146096 =
        365 * (100 * c + 4 * q + r) + (d - 1) := by omega
    rw [hdays]
    omega

theorem isLeap_cycles {era c q : Int} (hq : 0 ≤ q ∧ q ≤ 24) (hlast : q ≤ 23 ∨ c = 3) :
    isLeap (400 * era + 100 * c + 4 * q + 4) = true := by
  have hfour : (400 * era + 100 * c + 4 * q + 4) % 4 = 0 := by omega
  have hhundred : (400 * era + 100 * c + 4 * q + 4) % 100 ≠ 0 ∨
      (400 * era + 100 * c + 4 * q + 4) % 400 = 0 := by omega
  simp only [isLeap, hfour, beq_self_eq_true, Bool.true_and, Bool.or_eq_true, bne_iff_ne,
    beq_iff_eq]
  exact hhundred

theorem yearStart_cycles {era c q r : Int} (hc : 0 ≤ c ∧ c ≤ 3) (hq : 0 ≤ q ∧ q ≤ 24)
    (hr : 0 ≤ r ∧ r ≤ 3) : yearStart (400 * era + 100 * c + 4 * q + r) =
      146097 * era + 36524 * c + 1461 * q + 365 * r - 719468 := by
  have hfour : (400 * era + 100 * c + 4 * q + r) / 4 = 100 * era + 25 * c + q := by omega
  have hhundred : (400 * era + 100 * c + 4 * q + r) / 100 = 4 * era + c := by omega
  have hera : (400 * era + 100 * c + 4 * q + r) / 400 = era := by omega
  rw [yearStart, hfour, hhundred, hera]
  omega

theorem ofDays_eq {n era doe yoe day : Int} (hera : (n + 719468) / 146097 = era)
    (hdoe : (n + 719468) % 146097 = doe)
    (hyoe : (doe - doe / 1460 + doe / 36524 - doe / 146096) / 365 = yoe)
    (hday : doe - (365 * yoe + yoe / 4 - yoe / 100) = day) (hrange : 0 ≤ day ∧ day ≤ 365) :
    Date.ofDays n = marchDate (400 * era + yoe) day := by
  have hdate : Date.ofDays n =
      let m := (5 * day + 2) / 153
      let month := if m < 10 then m + 3 else m - 9
      ⟨yoe + era * 400 + (if month ≤ 2 then 1 else 0), month.toNat,
        (day - (153 * m + 2) / 5 + 1).toNat⟩ := by
    subst hera hdoe hyoe hday
    rfl
  have hm : 0 ≤ (5 * day + 2) / 153 ∧ (5 * day + 2) / 153 ≤ 11 := by omega
  rw [hdate, marchDate]
  generalize (5 * day + 2) / 153 = m at hm
  simp only [Date.mk.injEq, and_true]
  split
  · next hspring =>
    rw [if_neg (by omega)]
    omega
  · next hwinter =>
    rw [if_pos (by omega)]
    omega

/-- Every day lies in a year that begins in March; only if the February at its end has a leap day
does the year have a day of number 365. -/
theorem exists_marchDate (n : Int) : ∃ year day : Int, (0 ≤ day ∧ day ≤ 365) ∧
    (day = 365 → isLeap (year + 1) = true) ∧ n = yearStart year + day ∧
    Date.ofDays n = marchDate year day := by
  obtain ⟨c, q, r, d, hc, hq, hr, hd, hlast, hdoe⟩ :=
    exists_cycles (Int.emod_nonneg (n + 719468) (by decide))
      (Int.emod_lt_of_pos (n + 719468) (by decide))
  have hday : (n + 719468) % 146097 - (365 * (100 * c + 4 * q + r) +
      (100 * c + 4 * q + r) / 4 - (100 * c + 4 * q + r) / 100) = d := by
    have hfour : (100 * c + 4 * q + r) / 4 = 25 * c + q := by omega
    have hhundred : (100 * c + 4 * q + r) / 100 = c := by omega
    rw [hfour, hhundred, hdoe]
    omega
  have hdate := ofDays_eq rfl rfl (yearOfEra_eq hc hq hr hd hlast hdoe) hday (by omega)
  refine ⟨_, d, by omega, fun h => ?_, ?_, hdate⟩
  · have hnext : 400 * ((n + 719468) / 146097) + (100 * c + 4 * q + r) + 1 =
        400 * ((n + 719468) / 146097) + 100 * c + 4 * q + 4 := by omega
    rw [hnext]
    exact isLeap_cycles hq (by omega)
  · rw [← Int.add_assoc, ← Int.add_assoc, yearStart_cycles hc hq hr]
    omega

theorem toDays_eq {d : Date} {year m : Int}
    (hyear : (if d.month ≤ 2 then d.year - 1 else d.year) = year)
    (hm : (if d.month ≤ 2 then (d.month : Int) + 9 else (d.month : Int) - 3) = m) :
    d.toDays = yearStart year + ((153 * m + 2) / 5 + d.day - 1) := by
  have hdays : d.toDays = year / 400 * 146097 + (year % 400 * 365 + year % 400 / 4 -
      year % 400 / 100 + ((153 * m + 2) / 5 + d.day - 1)) - 719468 := by
    subst hyear hm
    rfl
  have hfour : year / 4 = 100 * (year / 400) + year % 400 / 4 := by omega
  have hhundred : year / 100 = 4 * (year / 400) + year % 400 / 100 := by omega
  rw [hdays, yearStart, hfour, hhundred]
  omega

theorem toDays_marchDate {year day : Int} (h : 0 ≤ day ∧ day ≤ 365) :
    (marchDate year day).toDays = yearStart year + day := by
  have hm : 0 ≤ (5 * day + 2) / 153 ∧ (5 * day + 2) / 153 ≤ 11 := by omega
  have hfirst : 0 ≤ day - (153 * ((5 * day + 2) / 153) + 2) / 5 + 1 := by omega
  have hyear : (if (marchDate year day).month ≤ 2 then (marchDate year day).year - 1
      else (marchDate year day).year) = year := by
    unfold marchDate
    dsimp only
    generalize (5 * day + 2) / 153 = m at hm
    split <;> split at * <;> omega
  have hmonth : (if (marchDate year day).month ≤ 2 then ((marchDate year day).month : Int) + 9
      else ((marchDate year day).month : Int) - 3) = (5 * day + 2) / 153 := by
    unfold marchDate
    dsimp only
    generalize (5 * day + 2) / 153 = m at hm
    split <;> split at * <;> omega
  rw [toDays_eq hyear hmonth, marchDate, Int.toNat_of_nonneg hfirst]
  omega

/-- The day of the date of a day is that day. -/
theorem toDays_ofDays (n : Int) : (Date.ofDays n).toDays = n := by
  obtain ⟨year, day, hday, -, hn, hdate⟩ := exists_marchDate n
  rw [hdate, toDays_marchDate hday, ← hn]

theorem marchDate_year {year day : Int} (h : 0 ≤ day ∧ day ≤ 365) :
    (marchDate year day).year = if day ≤ 305 then year else year + 1 := by
  unfold marchDate
  dsimp only
  split <;> split <;> omega

theorem valid_marchDate {year day : Int} (hday : 0 ≤ day ∧ day ≤ 365)
    (hleap : day = 365 → isLeap (year + 1) = true)
    (hyear : minYear ≤ (marchDate year day).year ∧ (marchDate year day).year ≤ maxYear) :
    (marchDate year day).valid = true := by
  have hmonth : 153 * ((5 * day + 2) / 153) ≤ 5 * day + 2 ∧
      5 * day + 2 < 153 * ((5 * day + 2) / 153) + 153 := by omega
  simp only [Date.valid, Bool.and_eq_true, decide_eq_true_eq]
  refine ⟨⟨⟨⟨hyear, ?_⟩, ?_⟩, ?_⟩, ?_⟩
  all_goals
    unfold marchDate
    dsimp only
    generalize (5 * day + 2) / 153 = m at hmonth
  · split <;> omega
  · split <;> omega
  · omega
  · obtain hm | rfl : (0 ≤ m ∧ m ≤ 10) ∨ m = 11 := by omega
    · obtain ⟨hlow, hhigh⟩ := hm
      interval_cases m
      all_goals
        simp [daysInMonth]
        omega
    · -- only here, in February, does it matter whether the year is a leap year
      cases hnext : isLeap (year + 1) with
      | true =>
        simp [daysInMonth, hnext]
        omega
      | false =>
        have hlast : day ≠ 365 := fun h => Bool.false_ne_true (hnext.symm.trans (hleap h))
        simp [daysInMonth, hnext]
        omega

/-- The dates of the days that are kept are valid. -/
theorem valid_ofDays {n : Int} (h : minDay ≤ n ∧ n ≤ maxDay) : (Date.ofDays n).valid = true := by
  obtain ⟨year, day, hday, hleap, hn, hdate⟩ := exists_marchDate n
  have hmin : minDay = -96465292 := by decide
  have hmax : maxDay = 95026236 := by decide
  rw [hdate]
  refine valid_marchDate hday hleap ?_
  rw [marchDate_year hday, minYear, maxYear]
  rw [hmin, hmax, hn, yearStart] at h
  constructor
  · obtain h | rfl | h := (by omega : year ≤ -262145 ∨ year = -262144 ∨ -262143 ≤ year)
    · omega
    · rw [if_neg (by omega)]
      decide
    · split <;> omega
  · obtain h | rfl | h := (by omega : year ≤ 262141 ∨ year = 262142 ∨ 262143 ≤ year)
    · split <;> omega
    · rw [if_pos (by omega)]
    · omega

end TrafficWatch.Time
