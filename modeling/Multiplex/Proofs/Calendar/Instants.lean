import Multiplex.Proofs.Calendar.Counting

/-!
# Instants and their counts

A day and its number say the same, and so do an instant and its count of seconds: whatever is
counted off in years, months, hours and minutes adds up again, and no two days or instants have one
count. An instant is therefore moved on by a duration exactly if the counts add up.

Main statements:

* `Date.dayNumber_ofDayNumber`, `Date.dayNumber_injective`: days and their numbers;
* `DateTime.seconds_ofSeconds`, `DateTime.ext_seconds`: instants and their counts;
* `DateTime.add_eq_iff`: a later instant by its count;
* `StartField.Names.isRepresentable`: what begins at a start field and lasts a duration field is over
  on a day that dates can hold.
-/

namespace Multiplex.Calendar

variable {year : Int}

/-! ### Years and months -/

theorem daysBeforeMonth_mono : Monotone (daysBeforeMonth year) :=
  monotone_nat_of_le_succ fun _ => Nat.le_add_right _ _

theorem daysBeforeMonth_thirteen (year : Int) :
    daysBeforeMonth year 13 = 365 + (isLeapYear year).toNat := by
  have h : daysBeforeMonth year 13 = daysBeforeMonth year 12 + 31 := rfl
  rw [h, daysBeforeMonth_twelve]
  omega

theorem daysBeforeYear_mono : Monotone daysBeforeYear := by
  refine monotone_int_of_le_succ fun year => ?_
  rw [daysBeforeYear_succ]
  omega

/-- The days of whole cycles: four centuries have 146097 days, a century that is followed by another
of them 36524, and four years of a century 1461. -/
theorem daysBeforeYear_cycles (fourCenturies : Int) {centuries fourYears years : Nat}
    (hc : centuries ≤ 3) (hf : fourYears ≤ 24) (hy : years ≤ 3) :
    daysBeforeYear (fourCenturies * 400 + centuries * 100 + fourYears * 4 + years + 1) =
      146097 * fourCenturies + 36524 * centuries + 1461 * fourYears + 365 * years := by
  unfold daysBeforeYear
  dsimp only
  omega

/-- The last of four years is longer by a day, but for the last of a century that is followed by
another of the four. -/
theorem isLeapYear_cycles (fourCenturies : Int) {centuries fourYears : Nat} (hf : fourYears ≤ 24)
    (h : fourYears ≠ 24 ∨ centuries = 3) :
    isLeapYear (fourCenturies * 400 + centuries * 100 + fourYears * 4 + (3 : Nat) + 1) = true := by
  simp [isLeapYear]
  omega

namespace Date

/-! ### Days -/

/-- Month by month the days of a year are counted off. -/
theorem dayNumber_inYear {later rest : Nat} (hl : later ≤ 11)
    (h : daysBeforeMonth year (12 - later) + rest < daysBeforeMonth year 13) :
    (inYear year later rest).dayNumber =
      daysBeforeYear year + daysBeforeMonth year (12 - later) + rest - origin := by
  induction later generalizing rest with
  | zero =>
      have h13 : daysBeforeMonth year 13 = daysBeforeMonth year 12 + daysInMonth year 12 := rfl
      rw [Nat.sub_zero] at h ⊢
      rw [inYear, dif_pos (by omega)]
      simp only [dayNumber]
      omega
  | succ later ih =>
      have he : 12 - (later + 1) = 11 - later := by omega
      have hstep : daysBeforeMonth year (12 - later) =
          daysBeforeMonth year (11 - later) + daysInMonth year (11 - later) := by
        rw [show 12 - later = 11 - later + 1 by omega]
        rfl
      rw [he] at h ⊢
      rw [inYear]
      split_ifs with hr
      · simp only [dayNumber]
        omega
      · rw [ih (by omega) (by omega), hstep]
        omega

theorem dayNumber_ofDayNumber (n : Int) : (ofDayNumber n).dayNumber = n := by
  unfold ofDayNumber
  dsimp only
  -- The cycles, from the longest on, and the day that is left in the year.
  generalize hq : (n + origin) / 146097 = fourCenturies
  generalize hr : ((n + origin) % 146097).toNat = r
  generalize hc : min (r / 36524) 3 = centuries
  generalize hr' : r - centuries * 36524 = r'
  generalize hf : r' / 1461 = fourYears
  generalize hy : min (r' % 1461 / 365) 3 = years
  generalize hd : r' % 1461 - years * 365 = rest
  have hsum : n + origin = 146097 * fourCenturies + 36524 * centuries + 1461 * fourYears +
      365 * years + rest := by omega
  have hc3 : centuries ≤ 3 := by omega
  have hf24 : fourYears ≤ 24 := by omega
  have hy3 : years ≤ 3 := by omega
  have hrest : rest < 365 + (isLeapYear
      (fourCenturies * 400 + centuries * 100 + fourYears * 4 + years + 1)).toNat := by
    by_cases hlong : rest < 365
    · omega
    · obtain rfl : years = 3 := by omega
      rw [isLeapYear_cycles fourCenturies hf24 (by omega)]
      simp only [Bool.toNat_true]
      omega
  have hb : daysBeforeMonth (fourCenturies * 400 + centuries * 100 + fourYears * 4 + years + 1)
      (12 - 11) = 0 := rfl
  rw [dayNumber_inYear (Nat.le_refl 11) (by rw [hb, daysBeforeMonth_thirteen]; omega), hb,
    daysBeforeYear_cycles fourCenturies hc3 hf24 hy3]
  omega

/-- A day comes before the first of any later month of its year; the thirteenth is the next
January. -/
theorem dayNumber_lt (d : Date) {month : Nat} (h : d.month < month) :
    d.dayNumber < daysBeforeYear d.year + daysBeforeMonth d.year month - origin := by
  have hday := d.day_le
  have hone := d.one_le_day
  have hmono : daysBeforeMonth d.year (d.month + 1) ≤ daysBeforeMonth d.year month :=
    daysBeforeMonth_mono h
  have hnext : daysBeforeMonth d.year (d.month + 1) =
      daysBeforeMonth d.year d.month + daysInMonth d.year d.month := rfl
  unfold dayNumber
  omega

theorem dayNumber_lt_of_year_lt {d e : Date} (h : d.year < e.year) : d.dayNumber < e.dayNumber := by
  have hd := d.dayNumber_lt (Nat.lt_succ_of_le d.month_mem.2)
  have hyear : daysBeforeYear (d.year + 1) ≤ daysBeforeYear e.year :=
    daysBeforeYear_mono (Int.add_one_le_of_lt h)
  rw [daysBeforeMonth_thirteen] at hd
  rw [daysBeforeYear_succ] at hyear
  unfold dayNumber at hd ⊢
  omega

theorem dayNumber_lt_of_month_lt {d e : Date} (hy : d.year = e.year) (h : d.month < e.month) :
    d.dayNumber < e.dayNumber := by
  have hd := d.dayNumber_lt h
  rw [hy] at hd
  unfold dayNumber at hd ⊢
  omega

theorem dayNumber_injective : Function.Injective dayNumber := by
  intro d e h
  have hy : d.year = e.year := by
    rcases lt_trichotomy d.year e.year with hlt | heq | hgt
    · exact absurd h (dayNumber_lt_of_year_lt hlt).ne
    · exact heq
    · exact absurd h (dayNumber_lt_of_year_lt hgt).ne'
  have hm : d.month = e.month := by
    rcases lt_trichotomy d.month e.month with hlt | heq | hgt
    · exact absurd h (dayNumber_lt_of_month_lt hy hlt).ne
    · exact heq
    · exact absurd h (dayNumber_lt_of_month_lt hy.symm hgt).ne'
  have hd : d.day = e.day := by
    have hone := d.one_le_day
    have hone' := e.one_le_day
    rw [dayNumber, dayNumber, hy, hm] at h
    omega
  cases d
  cases e
  simp only at hy hm hd
  subst hy hm hd
  rfl

theorem year_le_of_dayNumber_le {d e : Date} (h : d.dayNumber ≤ e.dayNumber) :
    d.year ≤ e.year := by
  by_contra hlt
  have := dayNumber_lt_of_year_lt (not_le.mp hlt)
  omega

/-- A day that the packed form of a date has room for: its year is a signed number of nineteen bits,
and not the first or the last of them. -/
def IsRepresentable (d : Date) : Prop := -262143 ≤ d.year ∧ d.year ≤ 262142

end Date

namespace DateTime

/-! ### Instants -/

theorem seconds_ofSeconds (s : Int) (nanos : Nat) :
    (ofSeconds s nanos).seconds = s + (nanos / nanosPerSecond : Nat) := by
  unfold ofSeconds seconds secondOfDay
  dsimp only
  rw [Date.dayNumber_ofDayNumber]
  generalize s + (nanos / nanosPerSecond : Nat) = total
  omega

theorem ext_seconds {t u : DateTime} (hs : t.seconds = u.seconds) (hn : t.nanos = u.nanos) :
    t = u := by
  have ht := t.secondOfDay_lt
  have hu := u.secondOfDay_lt
  unfold seconds at hs
  have hday : t.date.dayNumber = u.date.dayNumber := by omega
  have hclock : t.secondOfDay = u.secondOfDay := by omega
  have := t.minute_lt
  have := t.second_lt
  have := u.minute_lt
  have := u.second_lt
  unfold secondOfDay at hclock
  exact DateTime.ext (Date.dayNumber_injective hday) (by omega) (by omega) (by omega) hn

/-- Where no nanoseconds are carried, the later instant is the one whose count is the sum. -/
theorem add_eq_iff {t u : DateTime} {d : Duration} (h : t.nanos + d.nanos < nanosPerSecond) :
    t.add d = u ↔ u.seconds = t.seconds + d.seconds ∧ u.nanos = t.nanos + d.nanos := by
  have hn : t.nanos % nanosPerSecond = t.nanos := Nat.mod_eq_of_lt (by omega)
  have hadd : t.add d = ofSeconds (t.seconds + d.seconds) (t.nanos + d.nanos) := by
    rw [add, dif_neg (by omega), hn]
  have hs : (t.add d).seconds = t.seconds + d.seconds := by
    rw [hadd, seconds_ofSeconds, Nat.div_eq_of_lt h, Nat.cast_zero, add_zero]
  have hf : (t.add d).nanos = t.nanos + d.nanos := by
    rw [hadd]
    exact Nat.mod_eq_of_lt h
  constructor
  · rintro rfl
    exact ⟨hs, hf⟩
  · rintro ⟨hs', hf'⟩
    exact ext_seconds (hs.trans hs'.symm) (hf.trans hf'.symm)

end DateTime

/-! ### What the time fields stand for -/

theorem Bcd.value_le (b : UInt8) : value b ≤ 165 := by
  have hb := b.toNat_lt
  unfold value
  omega

namespace DurationField

/-- Digits of fifteen throughout stand for a week less 735 seconds. -/
theorem seconds_decode_le (f : DurationField) : f.decode.seconds ≤ 604065 := by
  have hh := Bcd.value_le f.hours
  have hm := Bcd.value_le f.minutes
  have hs := Bcd.value_le f.seconds
  change Bcd.value f.hours * 3600 + Bcd.value f.minutes * 60 + Bcd.value f.seconds ≤ 604065
  omega

theorem nanos_decode (f : DurationField) : f.decode.nanos = 0 := rfl

theorem isAddable_decode (f : DurationField) : f.decode.isAddable = true := by
  have hs := f.seconds_decode_le
  have hl : Duration.longest.totalNanos = 9223372036854775807000000 := rfl
  have hn : nanosPerSecond = 1000000000 := rfl
  rw [Duration.isAddable, decide_eq_true_iff, hl, Duration.totalNanos, nanos_decode, hn]
  omega

end DurationField

namespace StartField

variable {f : StartField} {t : DateTime}

theorem Names.nanos_eq (h : f.Names (some t)) : t.nanos = 0 := by
  cases h with
  | instant _ _ _ _ whole => exact whole

theorem Names.year_mem (h : f.Names (some t)) : 1858 ≤ t.date.year ∧ t.date.year ≤ 2039 := by
  cases h with
  | instant date _ _ _ _ =>
      have hw := f.mjd.toNat_lt
      have hy : (JulianDay.civil f.mjd).1 = t.date.year := by rw [date]
      rw [← hy]
      unfold JulianDay.civil
      dsimp only
      split_ifs <;> omega

/-- What begins at an instant that a field names, and lasts as long as a duration field says, is over
on a day that is representable. -/
theorem Names.isRepresentable (h : f.Names (some t)) (length : DurationField) {u : DateTime}
    (hu : u.seconds = t.seconds + length.decode.seconds) : u.date.IsRepresentable := by
  obtain ⟨hfirst, hlast⟩ := h.year_mem
  have hd := length.seconds_decode_le
  have ht := t.secondOfDay_lt
  have hu' := u.secondOfDay_lt
  unfold DateTime.seconds at hu
  have hbegin : t.date.year ≤ u.date.year := Date.year_le_of_dayNumber_le (by omega)
  have hnew : t.date.dayNumber < (Date.newYear 2040).dayNumber :=
    Date.dayNumber_lt_of_year_lt (Int.lt_add_one_of_le hlast)
  have hend : u.date.year ≤ (Date.newYear 2041).year := by
    apply Date.year_le_of_dayNumber_le
    rw [show (Date.newYear 2040).dayNumber = 66154 by decide] at hnew
    rw [show (Date.newYear 2041).dayNumber = 66520 by decide]
    omega
  rw [show (Date.newYear 2041).year = 2041 from rfl] at hend
  constructor <;> omega

end StartField

end Multiplex.Calendar
