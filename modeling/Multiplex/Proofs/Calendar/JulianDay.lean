import Multiplex.Calendar.Field
import Mathlib.Tactic

/-!
# The day count and the calendar

The formulas between a day count and a date are inverse to each other where both serve. In the
formula a year begins in March, so that the day that some Februaries have is its last: `count` adds
up years, months and days, and `civil` takes them apart again, and it does so for all counts, those
before the epoch included. A date of the calendar is among the days that the formula gives from
March 1900 to the last that sixteen bits count.

Main statements:

* `JulianDay.ofCivil_civil`: every count is the count of the date it stands for;
* `Date.IsServed.civil_ofCivil`: every served date is the date of its count.
-/

namespace Multiplex.Calendar

namespace JulianDay

/-- The year a month belongs to when years begin in March, from 1900 on. -/
def marchYear (year : Int) (month : Nat) : Int :=
  year - 1900 - if month ≤ 2 then 1 else 0

/-- The number of a month when March is the fourth and the February after it the fifteenth. -/
def marchMonth (month : Nat) : Int := month + 1 + (if month ≤ 2 then 1 else 0) * 12

/-- The day count of a year, month and day by the formula. -/
def count (year : Int) (month day : Nat) : Int :=
  14956 + day + yearDays (marchYear year month) + monthDays (marchMonth month)

/-- The year, month and day with a year and month counted from March. -/
def ofMarch (years months day : Int) : Int × Nat × Nat :=
  if 14 ≤ months then (years + 1901, (months - 13).toNat, day.toNat)
  else (years + 1900, (months - 1).toNat, day.toNat)

theorem marchMonth_mem {month : Nat} (h : 1 ≤ month) (h' : month ≤ 12) :
    4 ≤ marchMonth month ∧ marchMonth month ≤ 15 := by
  unfold marchMonth
  split_ifs <;> omega

theorem ofMarch_march {month : Nat} (year : Int) (day : Nat) (h : 1 ≤ month) (h' : month ≤ 12) :
    ofMarch (marchYear year month) (marchMonth month) day = (year, month, day) := by
  unfold ofMarch marchYear marchMonth
  split_ifs <;> simp <;> omega

theorem march_ofMarch (years : Int) {months : Int} (day : Int) (hm : 4 ≤ months)
    (hm' : months ≤ 15) :
    marchYear (ofMarch years months day).1 (ofMarch years months day).2.1 = years ∧
      marchMonth (ofMarch years months day).2.1 = months := by
  unfold ofMarch
  by_cases h : 14 ≤ months
  · have h2 : (months - 13).toNat ≤ 2 := by omega
    simp only [if_pos h, marchYear, marchMonth, h2, if_true]
    omega
  · have h2 : ¬ (months - 1).toNat ≤ 2 := by omega
    simp only [if_neg h, marchYear, marchMonth, h2, if_false]
    omega

theorem le_monthDays {past months : Int} (hm : 4 ≤ months) (hm' : months ≤ 15)
    (h : (10000 * past - 1000) / 306001 = months) : past ≤ monthDays (months + 1) := by
  interval_cases months <;> simp only [monthDays] <;> omega

theorem sub_yearDays_le {n years : Int} (h : (100 * n - 1507820) / 36525 = years) :
    n - 14956 - yearDays years ≤ 487 + years % 4 / 3 := by
  have hr : years % 4 = 0 ∨ years % 4 = 1 ∨ years % 4 = 2 ∨ years % 4 = 3 := by omega
  unfold yearDays
  rcases hr with hr | hr | hr | hr <;> rw [hr] <;> omega

/-- The day of a word lies within a month and within a year. -/
theorem civil_eq_ofMarch (w : UInt16) : ∃ years months day : Int,
    4 ≤ months ∧ months ≤ 15 ∧ 1 ≤ day ∧ monthDays months + day ≤ monthDays (months + 1) ∧
      monthDays months + day ≤ 487 + years % 4 / 3 ∧
      (w.toNat : Int) = 14956 + day + yearDays years + monthDays months ∧
      civil w = ofMarch years months day := by
  let years : Int := (100 * (w.toNat : Int) - 1507820) / 36525
  let months := (10000 * (w.toNat : Int) - 149561000 - 10000 * yearDays years) / 306001
  let day := (w.toNat : Int) - 14956 - yearDays years - monthDays months
  have hm : 4 ≤ months := by simp only [months, years, yearDays]; omega
  have hm' : months ≤ 15 := by simp only [months, years, yearDays]; omega
  have hd : 1 ≤ day := by simp only [day, months, years, yearDays, monthDays]; omega
  have hl : monthDays months + day ≤ monthDays (months + 1) := by
    refine le_monthDays hm hm' ?_
    simp only [day, months]
    congr 1
    omega
  have hy : monthDays months + day ≤ 487 + years % 4 / 3 := by
    have := sub_yearDays_le (n := w.toNat) (rfl : years = _)
    simp only [day]
    omega
  refine ⟨years, months, day, hm, hm', hd, hl, hy, by simp only [day]; omega, ?_⟩
  change (years + (if months = 14 ∨ months = 15 then 1 else 0) + 1900,
    (months - 1 - (if months = 14 ∨ months = 15 then 1 else 0) * 12).toNat, day.toNat) = _
  unfold ofMarch
  by_cases h : 14 ≤ months
  · rw [if_pos (by omega), if_pos h, Prod.mk.injEq, Prod.mk.injEq]
    exact ⟨by omega, by congr 1; omega, rfl⟩
  · rw [if_neg (by omega), if_neg h, Prod.mk.injEq, Prod.mk.injEq]
    exact ⟨by omega, by congr 1; omega, rfl⟩

/-- Every word is the count of the day that the formula gives for it, whether or not there is such
a day. -/
theorem count_civil (w : UInt16) : count (civil w).1 (civil w).2.1 (civil w).2.2 = w.toNat := by
  obtain ⟨years, months, day, hm, hm', hd, -, -, hw, he⟩ := civil_eq_ofMarch w
  obtain ⟨hy, hmonth⟩ := march_ofMarch years day hm hm'
  have e : ((ofMarch years months day).2.2 : Int) = day := by
    unfold ofMarch
    split_ifs <;> simp <;> omega
  rw [he, hw, count, hy, hmonth, e]

theorem saturate16_toNat (w : UInt16) : saturate16 w.toNat = w := by
  have h := w.toNat_lt
  simp only [saturate16, ← UInt16.toNat_inj]
  simp
  omega

theorem toNat_saturate16 {n : Int} (h : 0 ≤ n) (h' : n ≤ 65535) :
    ((saturate16 n).toNat : Int) = n := by
  simp only [saturate16, UInt16.toNat_ofNat']
  omega

theorem ofCivil_eq_saturate16 (year : Int) (month day : Nat) :
    ofCivil year month day = saturate16 (count year month day) := rfl

theorem ofCivil_civil (w : UInt16) : ofCivil (civil w).1 (civil w).2.1 (civil w).2.2 = w := by
  rw [ofCivil_eq_saturate16, count_civil, saturate16_toNat]

/-- The day of a count is the only one that lies within its month and its year. -/
theorem civil_eq_of_count {w : UInt16} {years months day : Int} (hm : 4 ≤ months)
    (hm' : months ≤ 15) (hd : 1 ≤ day) (hl : monthDays months + day ≤ monthDays (months + 1))
    (hy : monthDays months + day ≤ 487 + years % 4 / 3)
    (hw : (w.toNat : Int) = 14956 + day + yearDays years + monthDays months) :
    civil w = ofMarch years months day := by
  have e1 : (100 * (w.toNat : Int) - 1507820) / 36525 = years := by
    have h4 : 122 ≤ monthDays months := by simp only [monthDays]; omega
    have hr : years % 4 = 0 ∨ years % 4 = 1 ∨ years % 4 = 2 ∨ years % 4 = 3 := by omega
    rw [hw]
    generalize monthDays months = past at *
    rcases hr with h | h | h | h <;> rw [h] at hy <;> simp only [yearDays] <;> omega
  have e2 : (10000 * (w.toNat : Int) - 149561000 - 10000 * yearDays years) / 306001 = months := by
    have e : 10000 * (w.toNat : Int) - 149561000 - 10000 * yearDays years =
        10000 * (monthDays months + day) - 1000 := by omega
    rw [e]
    interval_cases months <;> simp only [monthDays] at * <;> omega
  have e3 : (w.toNat : Int) - 14956 - yearDays years - monthDays months = day := by omega
  simp only [civil, e1, e2, e3]
  unfold ofMarch
  by_cases h : 14 ≤ months
  · rw [if_pos (by omega), if_pos h]
    simp
    omega
  · rw [if_neg (by omega), if_neg h]
    simp

end JulianDay

/-- The first day on which the formula and the calendar agree. -/
def firstDay : Date := ⟨1900, 3, 1, by decide, by decide⟩

/-- The last day that 16 bits can count. -/
def lastDay : Date := ⟨2038, 4, 22, by decide, by decide⟩

namespace Date

theorem month_mem (d : Date) : 1 ≤ d.month ∧ d.month ≤ 12 := by
  have h := le_trans d.one_le_day d.day_le
  unfold daysInMonth at h
  split at h <;> omega

/-- The days of a year before a month. -/
theorem daysBeforeMonth_eq (d : Date) : (daysBeforeMonth d.year d.month : Int) =
    if d.month ≤ 2 then JulianDay.monthDays (JulianDay.marchMonth d.month) - 428
    else JulianDay.monthDays (JulianDay.marchMonth d.month) - 63 + (isLeapYear d.year).toNat := by
  obtain ⟨h, h'⟩ := d.month_mem
  obtain ⟨year, month, day, _, _⟩ := d
  dsimp only at *
  interval_cases month <;> cases hl : isLeapYear year <;>
    simp [daysBeforeMonth, daysInMonth, JulianDay.monthDays, JulianDay.marchMonth, hl]

theorem day_le_monthDays (d : Date) :
    JulianDay.monthDays (JulianDay.marchMonth d.month) + d.day ≤
        JulianDay.monthDays (JulianDay.marchMonth d.month + 1) ∧
      JulianDay.monthDays (JulianDay.marchMonth d.month) + d.day ≤
        487 + if d.month = 2 then ((isLeapYear d.year).toNat : Int) else 0 := by
  obtain ⟨h, h'⟩ := d.month_mem
  have hd := d.day_le
  obtain ⟨year, month, day, _, _⟩ := d
  dsimp only at *
  interval_cases month <;> cases hl : isLeapYear year <;>
    simp [daysInMonth, JulianDay.monthDays, JulianDay.marchMonth, hl] at hd ⊢ <;> omega

end Date

theorem isLeapYear_toNat {year : Int} (h : 1900 ≤ year) (h' : year ≤ 2038) :
    ((isLeapYear year).toNat : Int) = if year % 4 = 0 ∧ year ≠ 1900 then 1 else 0 := by
  have e : isLeapYear year = decide (year % 4 = 0 ∧ year ≠ 1900) := by
    rw [Bool.eq_iff_iff]
    simp [isLeapYear]
    omega
  rw [e]
  by_cases hy : year % 4 = 0 ∧ year ≠ 1900
  · rw [if_pos hy, decide_eq_true hy]
    rfl
  · rw [if_neg hy, decide_eq_false hy]
    rfl

/-- A day from the first to the last that the formula serves. -/
def Date.IsServed (d : Date) : Prop :=
  firstDay.dayNumber ≤ d.dayNumber ∧ d.dayNumber ≤ lastDay.dayNumber

namespace Date

theorem dayOfYear_le (d : Date) : daysBeforeMonth d.year d.month + d.day ≤ 366 := by
  obtain ⟨h, h'⟩ := d.month_mem
  have hd := d.day_le
  obtain ⟨year, month, day, _, _⟩ := d
  dsimp only at *
  interval_cases month <;> cases hl : isLeapYear year <;>
    simp [daysBeforeMonth, daysInMonth, hl] at hd ⊢ <;> omega

theorem IsServed.year_mem {d : Date} (h : d.IsServed) : 1900 ≤ d.year ∧ d.year ≤ 2038 := by
  obtain ⟨h, h'⟩ := h
  rw [show firstDay.dayNumber = 15079 by decide] at h
  rw [show lastDay.dayNumber = 65535 by decide] at h'
  have hd := d.one_le_day
  have hy := d.dayOfYear_le
  unfold dayNumber daysBeforeYear origin at h h'
  dsimp only at h h'
  omega

/-- From March 1900 on, the days of the calendar are those of the formula. -/
theorem IsServed.dayNumber_eq {d : Date} (h : d.IsServed) :
    d.dayNumber = JulianDay.count d.year d.month d.day := by
  obtain ⟨hy, hy'⟩ := h.year_mem
  have h1900 := h.1
  rw [show firstDay.dayNumber = 15079 by decide] at h1900
  have hd := d.one_le_day
  have hm := d.day_le_monthDays.2
  have hb := d.daysBeforeMonth_eq
  have hl := isLeapYear_toNat hy hy'
  have hy : (d.year - 1) / 100 - (d.year - 1) / 400 = if d.year = 1900 then 14 else 15 := by
    have := le_or_gt d.year 2000
    split_ifs <;> omega
  have hq : JulianDay.yearDays (JulianDay.marchYear d.year d.month) =
      365 * JulianDay.marchYear d.year d.month + JulianDay.marchYear d.year d.month / 4 := by
    unfold JulianDay.yearDays
    omega
  unfold dayNumber daysBeforeYear origin at *
  unfold JulianDay.count
  rw [hq]
  unfold JulianDay.marchYear
  generalize JulianDay.monthDays (JulianDay.marchMonth d.month) = past at *
  dsimp only at *
  split_ifs at * <;> omega

/-- The formula leads back to a day from its count. -/
theorem IsServed.civil_ofCivil {d : Date} (h : d.IsServed) :
    JulianDay.civil (JulianDay.ofCivil d.year d.month d.day) = (d.year, d.month, d.day) := by
  obtain ⟨hm, hm'⟩ := d.month_mem
  obtain ⟨h4, h15⟩ := JulianDay.marchMonth_mem hm hm'
  obtain ⟨hy, hy'⟩ := h.year_mem
  have hl := isLeapYear_toNat hy hy'
  have hd : (1 : Int) ≤ d.day := by exact_mod_cast d.one_le_day
  obtain ⟨hf, hg⟩ := d.day_le_monthDays
  have hn := h.dayNumber_eq
  have h1 := h.1
  have h2 := h.2
  rw [show firstDay.dayNumber = 15079 by decide, hn] at h1
  rw [show lastDay.dayNumber = 65535 by decide, hn] at h2
  have hw : ((JulianDay.ofCivil d.year d.month d.day).toNat : Int) =
      JulianDay.count d.year d.month d.day := by
    rw [JulianDay.ofCivil_eq_saturate16, JulianDay.toNat_saturate16 (by omega) (by omega)]
  rw [JulianDay.civil_eq_of_count h4 h15 hd hf (hg.trans ?_) hw, JulianDay.ofMarch_march _ _ hm hm']
  unfold JulianDay.marchYear
  split_ifs at * <;> omega

/-- The formula takes the February of 1900 for one of 29 days, which no other day is counted as. -/
theorem ofCivil_ne (d : Date) : JulianDay.ofCivil d.year d.month d.day ≠ 15078 := by
  obtain ⟨hm, hm'⟩ := d.month_mem
  obtain ⟨h4, -⟩ := JulianDay.marchMonth_mem hm hm'
  obtain ⟨-, hg⟩ := d.day_le_monthDays
  have hd : (1 : Int) ≤ d.day := by exact_mod_cast d.one_le_day
  have hp : 122 ≤ JulianDay.monthDays (JulianDay.marchMonth d.month) := by
    unfold JulianDay.monthDays
    omega
  have hleap : d.year = 1900 → ((isLeapYear d.year).toNat : Int) = 0 := by
    intro h
    rw [h]
    rfl
  have hone : ((isLeapYear d.year).toNat : Int) ≤ 1 := by
    exact_mod_cast Bool.toNat_le (isLeapYear d.year)
  intro h
  have hc : JulianDay.count d.year d.month d.day = 15078 := by
    rw [JulianDay.ofCivil_eq_saturate16, ← UInt16.toNat_inj] at h
    simp only [saturate16, UInt16.toNat_ofNat'] at h
    change _ = 15078 at h
    omega
  have hb : d.month = 2 → JulianDay.marchYear d.year d.month = -1 → d.year = 1900 := by
    intro h2 hy
    rw [JulianDay.marchYear, if_pos h2.le] at hy
    omega
  unfold JulianDay.count JulianDay.yearDays at hc
  generalize JulianDay.marchYear d.year d.month = years at hc hb
  generalize JulianDay.monthDays (JulianDay.marchMonth d.month) = past at hc hg hp
  rcases lt_trichotomy years (-1) with hy | rfl | hy
  · have : 36525 * years / 100 ≤ -731 := by omega
    split_ifs at hg <;> omega
  · split_ifs at hg with h2
    · have := hleap (hb h2 rfl)
      omega
    · omega
  · have : 0 ≤ 36525 * years / 100 := by omega
    omega

end Date

namespace JulianDay

/-- Each word but one stands for a day that there is. -/
theorem exists_date_of_ne {w : UInt16} (h : w ≠ 15078) :
    ∃ d : Date, civil w = (d.year, d.month, d.day) := by
  obtain ⟨years, months, day, hm, hm', hd, hl, hy, hw, he⟩ := civil_eq_ofMarch w
  have hn : (w.toNat : Int) ≠ 15078 := by
    intro hn
    exact h (UInt16.toNat_inj.mp (by exact_mod_cast hn))
  have hlt := w.toNat_lt
  -- The year of a 29 February is a multiple of four, and it is not 1900.
  have hleap : months = 15 → 28 < day → isLeapYear (years + 1901) = true := by
    rintro rfl hlong
    rw [show monthDays 15 = 459 from rfl] at hl hy hw
    have hthree : years % 4 = 3 := by omega
    have hne : years ≠ -1 := by
      rintro rfl
      rw [show yearDays (-1) = -366 from rfl] at hw
      omega
    have hnear : -50 ≤ years ∧ years ≤ 140 := by
      unfold yearDays at hw
      constructor <;> omega
    simp [isLeapYear]
    omega
  rw [he]
  suffices hs : 1 ≤ (ofMarch years months day).2.2 ∧ (ofMarch years months day).2.2 ≤
      daysInMonth (ofMarch years months day).1 (ofMarch years months day).2.1 from
    ⟨⟨_, _, _, hs.1, hs.2⟩, rfl⟩
  rcases hm'.lt_or_eq with hm' | rfl
  · clear hw he hy
    interval_cases months <;> simp [monthDays] at hl <;> simp [ofMarch, daysInMonth] <;> omega
  · rw [show monthDays 15 = 459 from rfl] at hy
    cases hf : isLeapYear (years + 1901) with
    | true =>
        simp [ofMarch, daysInMonth, hf]
        omega
    | false =>
        have hshort : ¬ 28 < day := fun h => by simp [hleap rfl h] at hf
        simp [ofMarch, daysInMonth, hf]
        omega

/-- A date is counted as a day that there is, be it another one. -/
theorem exists_date_of_ofCivil (d : Date) :
    ∃ d' : Date, civil (ofCivil d.year d.month d.day) = (d'.year, d'.month, d'.day) :=
  exists_date_of_ne d.ofCivil_ne

end JulianDay

end Multiplex.Calendar
