import Mathlib.Algebra.Order.Ring.Int
import SchemaMigration.Time.Instant

/-!
# Days and dates

`days_ofDays`    : the days to the date of a day are that day again.
`isValid_ofDays` : the date of a day exists, if its year is one that is kept.

An era has 400 years, counted from March. The year of a day in its era is found by division, and its month within the
year too; both divisions are tied to the first days of the years and months that they find.
-/

namespace SchemaMigration.Time

set_option autoImplicit false

/-! ## Years of an era -/

/-- A day of an era, but for its last, lies between the first days of its year and of the next. -/
theorem yearOfEra_bounds {d y c : Int} (h0 : 0 ≤ d) (h1 : d < 146096) (hc : c = d / 36524)
    (hy : y = (d - d / 1460 + c) / 365) :
    0 ≤ y ∧ y ≤ 399 ∧ 365 * y + y / 4 - y / 100 ≤ d ∧
      d < 365 * (y + 1) + (y + 1) / 4 - (y + 1) / 100 + (y + 1) / 400 := by
  -- The correction for centuries is a constant in each of the four.
  have hcentury : c = 0 ∨ c = 1 ∨ c = 2 ∨ c = 3 := by omega
  have hyears : y / 100 = c := by omega
  refine ⟨by omega, by omega, by omega, ?_⟩
  by_cases hlast : y = 100 * c + 99
  · omega
  · have hsame : (y + 1) / 100 = c := by omega
    have hera : (y + 1) / 400 = 0 := by omega
    rw [hsame, hera]
    clear hsame hera hyears
    omega

/-- Every day has a year of an era from March, a month from March and a day, and its date is made of these. -/
theorem exists_marchDate (n : Int) :
    ∃ era y m d : Int, 0 ≤ y ∧ y ≤ 399 ∧ 0 ≤ m ∧ m ≤ 11 ∧ 1 ≤ d ∧
      (153 * m + 2) / 5 + d ≤ (153 * (m + 1) + 2) / 5 ∧
      (153 * m + 2) / 5 + d ≤ 365 + ((y + 1) / 4 - y / 4) - ((y + 1) / 100 - y / 100) + (y + 1) / 400 ∧
      n + 719468 = era * 146097 + (365 * y + y / 4 - y / 100) + ((153 * m + 2) / 5 + d - 1) ∧
      Date.ofDays n =
        ⟨y + era * 400 + (if m < 10 then 0 else 1), (if m < 10 then m + 3 else m - 9).toNat, d.toNat⟩ := by
  let z := n + 719468
  let era := z / 146097
  let e := z - era * 146097
  let y := (e - e / 1460 + e / 36524 - e / 146096) / 365
  let x := e - (365 * y + y / 4 - y / 100)
  let m := (5 * x + 2) / 153
  have he : 0 ≤ e ∧ e ≤ 146096 := by omega
  have hy : 0 ≤ y ∧ y ≤ 399 ∧ 365 * y + y / 4 - y / 100 ≤ e ∧
      e < 365 * (y + 1) + (y + 1) / 4 - (y + 1) / 100 + (y + 1) / 400 := by
    by_cases hlast : e = 146096
    · have : y = 399 := by omega
      omega
    · exact yearOfEra_bounds he.1 (by omega) rfl (by omega)
  obtain ⟨hy0, hy399, hfirst, hnext⟩ := hy
  have hx : 0 ≤ x ∧ x ≤ 365 := by omega
  refine ⟨era, y, m, x - (153 * m + 2) / 5 + 1, hy0, hy399, by omega, by omega, by omega, by omega, by omega, by omega,
    ?_⟩
  have hmonth : (if m < 10 then m + 3 else m - 9) ≤ 2 ↔ ¬ m < 10 := by
    split <;> omega
  have hparts : Date.ofDays n = ⟨y + era * 400 + (if (if m < 10 then m + 3 else m - 9) ≤ 2 then 1 else 0),
      (if m < 10 then m + 3 else m - 9).toNat, (x - (153 * m + 2) / 5 + 1).toNat⟩ := by
    simp only [Date.ofDays, Int.fdiv_eq_ediv_of_nonneg _ (show (0 : Int) ≤ 146097 by decide)]
    rfl
  rw [hparts]
  simp only [hmonth, ite_not]

/-! ## Dates and days -/

theorem days_ofDays (n : Int) : (Date.ofDays n).days = n := by
  obtain ⟨era, y, m, d, hy0, hy399, hm0, hm11, hd1, hd, -, hn, hdate⟩ := exists_marchDate n
  have hyear : (y + era * 400) / 400 = era := by omega
  rw [hdate]
  simp only [Date.days, Int.fdiv_eq_ediv_of_nonneg _ (show (0 : Int) ≤ 400 by decide)]
  by_cases hm : m < 10
  · have hlate : ¬ (m + 3).toNat ≤ 2 := by omega
    have hmonth : ((m + 3).toNat : Int) - 3 = m := by omega
    simp only [if_pos hm, if_neg hlate, if_pos (show (m + 3).toNat > 2 by omega), add_zero, hyear, hmonth]
    omega
  · have hearly : (m - 9).toNat ≤ 2 := by omega
    have hmonth : ((m - 9).toNat : Int) + 9 = m := by omega
    simp only [if_neg hm, if_pos hearly, if_neg (show ¬ (m - 9).toNat > 2 by omega), add_sub_cancel_right, hyear,
      hmonth]
    omega

/-- The years that 4, 100 and 400 divide add at most one leap day to a year of an era, and none to a common year. -/
theorem leapDays_le {y : Int} (era : Int) (h0 : 0 ≤ y) (h399 : y ≤ 399) :
    (y + 1) / 4 - y / 4 - ((y + 1) / 100 - y / 100) + (y + 1) / 400 ≤
      if isLeapYear (y + era * 400 + 1) then 1 else 0 := by
  split
  · by_cases hlast : y = 399
    · subst hlast
      decide
    · have : (y + 1) / 400 = 0 := by omega
      omega
  · next h =>
    simp only [isLeapYear, Bool.and_eq_true, Bool.or_eq_true, beq_iff_eq, bne_iff_ne, ne_eq, not_and, not_or,
      not_not] at h
    by_cases hfour : (y + 1) % 4 = 0
    · have hcentury := h (by omega)
      omega
    · omega

theorem isValid_ofDays {n : Int} (h : firstYear ≤ (Date.ofDays n).year ∧ (Date.ofDays n).year ≤ lastYear) :
    (Date.ofDays n).isValid = true := by
  obtain ⟨era, y, m, d, hy0, hy399, hm0, hm11, hd1, hd, hleap, hn, hdate⟩ := exists_marchDate n
  rw [hdate] at h ⊢
  simp only [Date.isValid, Bool.and_eq_true, decide_eq_true_eq]
  refine ⟨⟨⟨⟨⟨h.1, h.2⟩, ?_⟩, ?_⟩, ?_⟩, ?_⟩
  · split <;> omega
  · split <;> omega
  · omega
  simp only [daysInMonth, beq_iff_eq, Bool.or_eq_true]
  by_cases hm : m < 10
  · have hlate : ¬ (m + 3).toNat = 2 := by omega
    simp only [if_pos hm, if_neg hlate]
    split <;> omega
  · have hjanuary : m = 10 ∨ m = 11 := by omega
    simp only [if_neg hm]
    obtain rfl | rfl := hjanuary
    · rw [if_neg (by decide), if_neg (by decide)]
      omega
    · rw [if_pos (by decide)]
      have hdays := leapDays_le era hy0 hy399
      split at hdays
      · next hyear =>
        rw [if_pos hyear]
        omega
      · next hyear =>
        rw [if_neg hyear]
        omega

end SchemaMigration.Time
