import Multiplex.Proofs.Calendar.Field
import Multiplex.Proofs.Wire.Form

/-!
# Days counted one by one

`Date.next` leads from a day of the proleptic Gregorian calendar to the day after it, so that the
day with a given count is reached from 17 November 1858 in so many steps. From the count 15079 on,
the rounded products of the formula give just these days, and a start field is read to the day of
its count and the time of its digits. Below it the days are the formula's own, and still what is
read is written back as it was.

Main statements:

* `Date.dayNumber_iterate_next`: the day so many steps from the first has this number;
* `JulianDay.civil_eq_iterate_next`: the formula gives the days of the calendar;
* `start_field_exact`: what five bytes are read to, and what is written for it.
-/

namespace Multiplex.Calendar

open Multiplex.Wire

theorem one_le_daysInMonth {year : Int} {month : Nat} (h : 1 ≤ month) (h' : month ≤ 12) :
    1 ≤ daysInMonth year month := by
  cases hl : isLeapYear year <;> interval_cases month <;> simp [daysInMonth, hl]

theorem daysBeforeYear_succ (year : Int) :
    daysBeforeYear (year + 1) = daysBeforeYear year + 365 + (isLeapYear year).toNat := by
  unfold daysBeforeYear
  cases hl : isLeapYear year with
  | true =>
      simp [isLeapYear] at hl ⊢
      omega
  | false =>
      simp [isLeapYear] at hl ⊢
      omega

theorem daysBeforeMonth_twelve (year : Int) :
    daysBeforeMonth year 12 = 334 + (isLeapYear year).toNat := by
  cases hl : isLeapYear year <;> simp [daysBeforeMonth, daysInMonth, hl]

namespace Date

/-- 17 November 1858. -/
def epoch : Date := ⟨1858, 11, 17, by decide, by decide⟩

theorem one_le_daysInMonth_one (year : Int) : 1 ≤ daysInMonth year 1 :=
  one_le_daysInMonth (Nat.le_refl 1) (by decide)

/-- 1 January. -/
def newYear (year : Int) : Date := ⟨year, 1, 1, Nat.one_pos, one_le_daysInMonth_one year⟩

/-- The day after a day. -/
def next (d : Date) : Date :=
  if h : d.day < daysInMonth d.year d.month then
    ⟨d.year, d.month, d.day + 1, Nat.le_add_left 1 d.day, h⟩
  else if h : d.month < 12 then
    ⟨d.year, d.month + 1, 1, Nat.one_pos, one_le_daysInMonth (Nat.le_add_left 1 d.month) h⟩
  else newYear (d.year + 1)

theorem dayNumber_next (d : Date) : d.next.dayNumber = d.dayNumber + 1 := by
  have hd := d.one_le_day
  have hl := d.day_le
  unfold next
  split_ifs with h1 h2
  · simp only [dayNumber]
    omega
  · have hm : daysBeforeMonth d.year (d.month + 1) =
        daysBeforeMonth d.year d.month + daysInMonth d.year d.month := rfl
    simp only [dayNumber, hm]
    omega
  · have h12 : d.month = 12 := by
      have := d.month_mem
      omega
    have hy := daysBeforeYear_succ d.year
    have hm := daysBeforeMonth_twelve d.year
    have h31 : daysInMonth d.year 12 = 31 := rfl
    have h0 : daysBeforeMonth (d.year + 1) 1 = 0 := rfl
    rw [h12] at hl h1
    simp only [dayNumber, newYear, h12, hy, hm, h0]
    omega

/-- Day by day from the first, the numbers count the steps. -/
theorem dayNumber_iterate_next (n : Nat) : (next^[n] epoch).dayNumber = n := by
  induction n with
  | zero => decide
  | succ n ih =>
      rw [Function.iterate_succ_apply', dayNumber_next, ih]
      omega

end Date

namespace JulianDay

/-- From March 1900 on the formula agrees with the calendar. -/
theorem civil_eq_iterate_next {w : UInt16} (h : 15079 ≤ w.toNat) :
    civil w = ((Date.next^[w.toNat] Date.epoch).year, (Date.next^[w.toNat] Date.epoch).month,
      (Date.next^[w.toNat] Date.epoch).day) := by
  have hn := Date.dayNumber_iterate_next w.toNat
  generalize Date.next^[w.toNat] Date.epoch = d at hn ⊢
  have hw := w.toNat_lt
  have hs : d.IsServed := by
    refine ⟨?_, ?_⟩
    · rw [hn, show firstDay.dayNumber = 15079 by decide]
      omega
    · rw [hn, show lastDay.dayNumber = 65535 by decide]
      omega
  -- The day has the number of the word, so the word is what the formula makes of the day.
  have hc : ofCivil d.year d.month d.day = w := by
    rw [ofCivil_eq_saturate16, ← hs.dayNumber_eq, hn, saturate16_toNat]
  rw [← hs.civil_ofCivil, hc]

end JulianDay

/-- The digits of three bytes are an hour, a minute and a second of a day. -/
def ShowsTime (hour minute second : UInt8) : Prop :=
  ∃ h m s, Bcd.Digits hour h ∧ Bcd.Digits minute m ∧ Bcd.Digits second s ∧
    h ≤ 23 ∧ m ≤ 59 ∧ s ≤ 59

/-- The instant so many days after 17 November 1858, at the time that three bytes show. -/
structure DateTime.IsAt (t : DateTime) (days : Nat) (hour minute second : UInt8) : Prop where
  date : t.date = Date.next^[days] Date.epoch
  hour : Bcd.Digits hour t.hour
  minute : Bcd.Digits minute t.minute
  second : Bcd.Digits second t.second
  whole : t.nanos = 0

namespace StartField

theorem names_none_iff {f : StartField} : f.Names none ↔ f.bytes = List.replicate 5 0xFF := by
  constructor
  · intro h
    cases h with
    | unknown ones => exact ones
  · exact Names.unknown

/-- A field from March 1900 on names the day of its count. -/
theorem names_some_iff {f : StartField} (h : 15079 ≤ f.mjd.toNat) {t : DateTime} :
    f.Names (some t) ↔ t.IsAt f.mjd.toNat f.hour f.minute f.second := by
  have hc := JulianDay.civil_eq_iterate_next h
  constructor
  · intro hn
    cases hn with
    | instant date hour minute second whole =>
        rw [hc, Prod.mk.injEq, Prod.mk.injEq] at date
        refine ⟨?_, hour, minute, second, whole⟩
        obtain ⟨hy, hm, hd⟩ := date
        cases ht : t.date
        simp only [ht] at hy hm hd
        simp only [← hy, ← hm, ← hd]
  · rintro ⟨date, hour, minute, second, whole⟩
    exact .instant (by rw [hc, date]) hour minute second whole

theorem exists_isAt_iff {days : Nat} {hour minute second : UInt8} :
    (∃ t : DateTime, t.IsAt days hour minute second) ↔ ShowsTime hour minute second := by
  constructor
  · rintro ⟨t, -, hh, hm, hs, -⟩
    have := t.hour_lt
    have := t.minute_lt
    have := t.second_lt
    exact ⟨t.hour, t.minute, t.second, hh, hm, hs, by omega, by omega, by omega⟩
  · rintro ⟨h, m, s, hh, hm, hs, h1, h2, h3⟩
    let t : DateTime :=
      { date := Date.next^[days] Date.epoch, hour := h, minute := m, second := s
        hour_lt := by omega, minute_lt := by omega, second_lt := by omega }
    exact ⟨t, rfl, hh, hm, hs, rfl⟩

end StartField

/-- What a start field is read to, by what it names. -/
theorem start_eq_ok_iff {f : StartField} {start : Option DateTime} {c : Cursor} :
    Reader.start (.ofBytes f.bytes) = .ok start c ↔ f.Names start ∧ c = ⟨5, []⟩ := by
  have e := Reader.start_append f 0 []
  rw [List.append_nil] at e
  rw [Cursor.ofBytes, e, ← StartField.decode?_eq_some_iff]
  cases f.decode? with
  | none => simp
  | some start' =>
      simp only [EStateM.Result.ok.injEq, Option.some.injEq]
      rw [eq_comm (a := c)]

theorem exists_start_iff {f : StartField} {start : Option DateTime} :
    (∃ c, Reader.start (.ofBytes f.bytes) = .ok start c) ↔ f.Names start := by
  simp only [start_eq_ok_iff, exists_and_left, exists_eq, and_true]

/-- A field that names nothing is refused as it is. -/
theorem start_eq_error_of_names {f : StartField} (h : ∀ start, ¬ f.Names start) :
    Reader.start (.ofBytes f.bytes) = .error (.invalidStart f) ⟨5, []⟩ := by
  have hnone : f.decode? = none := by
    cases hs : f.decode? with
    | none => rfl
    | some start => exact absurd (StartField.decode?_eq_some_iff.mp hs) (h start)
  have hread := Reader.start_append f 0 []
  rw [List.append_nil, hnone] at hread
  exact hread

/-- The field of five bytes. -/
theorem bytes_of_five (high low hour minute second : UInt8) :
    ∃ f : StartField, f.bytes = [high, low, hour, minute, second] ∧
      f.mjd.toNat = 256 * high.toNat + low.toNat ∧ f.hour = hour ∧ f.minute = minute ∧
      f.second = second := by
  obtain ⟨w, hw⟩ := exists_big16 (show [high, low].length = 2 from rfl)
  have hn : bigEndian [high, low] = w.toNat := by rw [hw, bigEndian_big16]
  refine ⟨⟨w, hour, minute, second⟩, ?_, ?_, rfl, rfl, rfl⟩
  · rw [StartField.bytes, ← hw]
    rfl
  · rw [← hn]
    simp [bigEndian]
    omega

/-- Five bytes of ones, and no others, are read as no start. From the count 15079 on, all others
are read to the day so many days after 17 November 1858 and the time of their digits, or refused as
they are if they show no time. Whatever the count, what is read is written back as the same five
bytes. -/
theorem start_field_exact (high low hour minute second : UInt8) :
    ∃ f : StartField, f.bytes = [high, low, hour, minute, second] ∧
      ((∃ c, Reader.start (.ofBytes f.bytes) = .ok none c) ↔
        f.bytes = List.replicate 5 0xFF) ∧
      (15079 ≤ 256 * high.toNat + low.toNat →
        (∀ t, (∃ c, Reader.start (.ofBytes f.bytes) = .ok (some t) c) ↔
          t.IsAt (256 * high.toNat + low.toNat) hour minute second) ∧
        ((∃ t c, Reader.start (.ofBytes f.bytes) = .ok (some t) c) ↔
          ShowsTime hour minute second) ∧
        (f.bytes ≠ List.replicate 5 0xFF → ¬ ShowsTime hour minute second →
          Reader.start (.ofBytes f.bytes) = .error (.invalidStart f) ⟨5, []⟩)) ∧
      ∀ start c, Reader.start (.ofBytes f.bytes) = .ok start c →
        (StartField.encode start).bytes = f.bytes := by
  obtain ⟨f, hf, hdays, rfl, rfl, rfl⟩ := bytes_of_five high low hour minute second
  rw [← hdays]
  refine ⟨f, hf, ?_, ?_, ?_⟩
  · rw [exists_start_iff]
    exact StartField.names_none_iff
  · intro hd
    have hread : ∀ t, (∃ c, Reader.start (.ofBytes f.bytes) = .ok (some t) c) ↔
        t.IsAt f.mjd.toNat f.hour f.minute f.second := by
      intro t
      exact exists_start_iff.trans (StartField.names_some_iff hd)
    refine ⟨hread, ?_, ?_⟩
    · simp only [hread]
      exact StartField.exists_isAt_iff
    · intro hones htime
      apply start_eq_error_of_names
      intro start hn
      cases start with
      | none => exact hones (StartField.names_none_iff.mp hn)
      | some t =>
          have ht := (StartField.names_some_iff hd).mp hn
          exact htime (StartField.exists_isAt_iff.mp ⟨t, ht⟩)
  · intro start c hs
    rw [(exists_start_iff.mp ⟨c, hs⟩).encode_eq]

/-- 13 October 1993, a quarter to one, and the same day at an hour of no decimal digits. -/
theorem start_field_exact_quarterToOne :
    15079 ≤ 256 * (0xC0 : UInt8).toNat + (0x79 : UInt8).toNat ∧
    (∃ t c, Reader.start (.ofBytes [0xC0, 0x79, 0x12, 0x45, 0x00]) = .ok (some t) c) ∧
    ∃ f : StartField, f.bytes = [0xC0, 0x79, 0x1A, 0x00, 0x00] ∧
      Reader.start (.ofBytes [0xC0, 0x79, 0x1A, 0x00, 0x00]) =
        .error (.invalidStart f) ⟨5, []⟩ := by
  have hd : 15079 ≤ 256 * (0xC0 : UInt8).toNat + (0x79 : UInt8).toNat := by decide
  obtain ⟨f, hf, -, hgood, -⟩ := start_field_exact 0xC0 0x79 0x12 0x45 0x00
  obtain ⟨g, hg, -, hbad, -⟩ := start_field_exact 0xC0 0x79 0x1A 0x00 0x00
  have hshows : ShowsTime 0x12 0x45 0x00 :=
    ⟨12, 45, 0, ⟨1, 2, by decide⟩, ⟨4, 5, by decide⟩, ⟨0, 0, by decide⟩, by decide⟩
  have hnot : ¬ ShowsTime 0x1A 0x00 0x00 := by
    rintro ⟨h, m, s, ⟨high, low, hh, hl, hb, -⟩, -⟩
    rw [show (0x1A : UInt8).toNat = 26 from rfl] at hb
    omega
  refine ⟨hd, ?_, g, hg, ?_⟩
  · rw [← hf]
    exact (hgood hd).2.1.mpr hshows
  · have hones : g.bytes ≠ List.replicate 5 0xFF := by
      rw [hg]
      decide
    rw [← hg]
    exact (hbad hd).2.2 hones hnot

end Multiplex.Calendar
