import Multiplex.Proofs.Calendar.JulianDay
import Mathlib.Tactic

/-!
# Start and duration fields

A start field is decoded just if it `Names` a start, and the encoder writes the start it names
back, byte for byte. So it does for every start that is served: none, or a whole second of the
days that sixteen bits count. A duration field is read leniently and written strictly: whatever
its nibbles, it is written back as the duration it stands for, or as the greatest.

Main statements:

* `StartField.decode?_eq_some_iff`: what decodes, and to what;
* `StartField.Names.encode_eq`: a decoded start is written as it was;
* `DurationField.decode_encode`: a written duration is read as it was, up to the greatest;
* `DurationField.encode_decode_eq_iff`: which fields are written as they were read.
-/

namespace Multiplex.Calendar

namespace Bcd

/-- The byte holds the two decimal digits of `n`. -/
def Digits (b : UInt8) (n : Nat) : Prop :=
  ∃ high low, high < 10 ∧ low < 10 ∧ b.toNat = 16 * high + low ∧ n = 10 * high + low

theorem decode?_eq_some_iff {b : UInt8} {n : Nat} : decode? b = some n ↔ Digits b n := by
  unfold decode?
  dsimp only
  constructor
  · intro h
    split_ifs at h with hd
    exact ⟨b.toNat / 16, b.toNat % 16, hd.1, hd.2, by omega, by simp at h; omega⟩
  · rintro ⟨high, low, hh, hl, hb, rfl⟩
    rw [if_pos (by omega)]
    simp
    omega

theorem Digits.eq_encode {b : UInt8} {n : Nat} (h : Digits b n) : b = encode n := by
  obtain ⟨high, low, hh, hl, hb, rfl⟩ := h
  have e : (10 * high + low) / 10 * 16 + (10 * high + low) % 10 = 16 * high + low := by omega
  rw [encode, e, ← hb, UInt8.ofNat_toNat]

theorem digits_encode {n : Nat} (h : n < 100) : Digits (encode n) n := by
  refine ⟨n / 10, n % 10, by omega, by omega, ?_, by omega⟩
  simp only [encode, UInt8.toNat_ofNat']
  omega

theorem Digits.lt {b : UInt8} {n : Nat} (h : Digits b n) : n < 100 := by
  obtain ⟨high, low, hh, hl, -, rfl⟩ := h
  omega

theorem Digits.value_eq {b : UInt8} {n : Nat} (h : Digits b n) : value b = n := by
  obtain ⟨high, low, hh, hl, hb, rfl⟩ := h
  rw [value, hb]
  omega

end Bcd

namespace StartField

/-- What a start field says: five bytes of ones that the start is not known, any other field a day
by the formula and a time of day in decimal digits. -/
inductive Names (f : StartField) : Option DateTime → Prop
  | unknown (ones : f.bytes = List.replicate 5 0xFF) : Names f none
  | instant {t : DateTime} (date : JulianDay.civil f.mjd = (t.date.year, t.date.month, t.date.day))
      (hour : Bcd.Digits f.hour t.hour) (minute : Bcd.Digits f.minute t.minute)
      (second : Bcd.Digits f.second t.second) (whole : t.nanos = 0) : Names f (some t)

theorem bytes_injective {f g : StartField} (h : f.bytes = g.bytes) : f = g := by
  obtain ⟨hm, ht⟩ := List.append_inj h (by simp)
  simp only [List.cons.injEq] at ht
  obtain ⟨mjd, hour, minute, second⟩ := f
  rw [StartField.mk.injEq]
  exact ⟨Wire.big16_injective hm, ht.1, ht.2.1, ht.2.2.1⟩

theorem bytes_eq_ones_iff {f : StartField} : f.bytes = List.replicate 5 0xFF ↔ f = unknown := by
  have e : unknown.bytes = List.replicate 5 0xFF := by decide
  rw [← e]
  exact ⟨bytes_injective, congrArg bytes⟩

theorem instant?_eq_some_iff {f : StartField} {t : DateTime} :
    f.instant? = some t ↔ f.Names (some t) := by
  constructor
  · intro h
    unfold instant? at h
    simp only [bind, Option.bind_eq_some_iff] at h
    obtain ⟨hour, hh, minute, hm, second, hs, date, hd, ht⟩ := h
    unfold Date.ofFields? at hd
    unfold DateTime.ofFields? at ht
    split_ifs at hd ht with h1 h2
    obtain rfl := Option.some.inj hd
    obtain rfl := Option.some.inj ht
    exact .instant rfl (Bcd.decode?_eq_some_iff.mp hh) (Bcd.decode?_eq_some_iff.mp hm)
      (Bcd.decode?_eq_some_iff.mp hs) rfl
  · intro h
    cases h with
    | instant date hour minute second whole =>
        rw [← Bcd.decode?_eq_some_iff] at hour minute second
        have hd : Date.ofFields? t.date.year t.date.month t.date.day = some t.date :=
          dif_pos ⟨t.date.one_le_day, t.date.day_le⟩
        have ht : DateTime.ofFields? t.date t.hour t.minute t.second = some t := by
          rw [DateTime.ofFields?, dif_pos ⟨t.hour_lt, t.minute_lt, t.second_lt⟩]
          exact congrArg some (DateTime.ext rfl rfl rfl rfl whole.symm)
        simp [instant?, date, hour, minute, second, hd, ht]

/-- A field that is all ones names no instant, since its hour has no decimal digits. -/
theorem decode?_eq_some_iff {f : StartField} {start : Option DateTime} :
    f.decode? = some start ↔ f.Names start := by
  unfold decode?
  by_cases h : f = unknown
  · rw [if_pos h, Option.some.injEq]
    constructor
    · rintro rfl
      exact .unknown (bytes_eq_ones_iff.mpr h)
    · intro hn
      cases hn with
      | unknown _ => rfl
      | instant date hour minute second whole =>
          obtain ⟨high, low, hh, hl, hb, -⟩ := hour
          rw [h, show unknown.hour.toNat = 255 by decide] at hb
          omega
  · rw [if_neg h]
    constructor
    · intro hs
      obtain ⟨t, ht, rfl⟩ := Option.map_eq_some_iff.mp hs
      exact instant?_eq_some_iff.mp ht
    · intro hn
      cases hn with
      | unknown ones => exact absurd (bytes_eq_ones_iff.mp ones) h
      | instant date hour minute second whole =>
          rw [instant?_eq_some_iff.mpr (.instant date hour minute second whole)]
          rfl

/-- A field that says when is the one that is written for it, also where its day is none of the
formula's range. -/
theorem Names.encode_eq {f : StartField} {start : Option DateTime} (h : f.Names start) :
    encode start = f := by
  cases h with
  | unknown ones => exact (bytes_eq_ones_iff.mp ones).symm
  | @instant t date hour minute second whole =>
      have hd := JulianDay.ofCivil_civil f.mjd
      rw [date] at hd
      change StartField.mk _ _ _ _ = f
      rw [hd, ← hour.eq_encode, ← minute.eq_encode, ← second.eq_encode]

theorem names_encode {t : DateTime} (h : t.date.IsServed) (whole : t.nanos = 0) :
    (encode (some t)).Names (some t) :=
  .instant h.civil_ofCivil (Bcd.digits_encode (t.hour_lt.trans (by decide)))
    (Bcd.digits_encode (t.minute_lt.trans (by decide)))
    (Bcd.digits_encode (t.second_lt.trans (by decide))) whole

theorem names_encode_none : (encode none).Names none := .unknown (by decide)

/-- What is written of a start says when, though not always the same. -/
theorem exists_names_encode (start : Option DateTime) :
    ∃ start', (encode start).Names start' := by
  cases start with
  | none => exact ⟨none, names_encode_none⟩
  | some t =>
      obtain ⟨date, hd⟩ := JulianDay.exists_date_of_ofCivil t.date
      let t' : DateTime := { t with date, nanos := 0, nanos_lt := by decide }
      exact ⟨some t', .instant hd (Bcd.digits_encode (t.hour_lt.trans (by decide)))
        (Bcd.digits_encode (t.minute_lt.trans (by decide)))
        (Bcd.digits_encode (t.second_lt.trans (by decide))) rfl⟩

end StartField

namespace DateTime

/-- 1900-03-01T00:00:00Z. -/
def firstServed : DateTime := { date := firstDay, hour := 0, minute := 0, second := 0 }

/-- 2038-04-22T23:59:59Z. -/
def lastServed : DateTime := { date := lastDay, hour := 23, minute := 59, second := 59 }

/-- A whole second from the first to the last that a start field serves. -/
def IsServed (t : DateTime) : Prop :=
  firstServed.seconds ≤ t.seconds ∧ t.seconds ≤ lastServed.seconds ∧ t.nanos = 0

theorem secondOfDay_lt (t : DateTime) : t.secondOfDay < 86400 := by
  have := t.hour_lt
  have := t.minute_lt
  have := t.second_lt
  unfold secondOfDay
  omega

theorem IsServed.date {t : DateTime} (h : t.IsServed) : t.date.IsServed := by
  obtain ⟨h1, h2, -⟩ := h
  have ht := t.secondOfDay_lt
  have e1 : firstServed.seconds = firstDay.dayNumber * 86400 := by decide
  have e2 : lastServed.seconds = lastDay.dayNumber * 86400 + 86399 := by decide
  rw [e1, seconds] at h1
  rw [e2, seconds] at h2
  constructor <;> omega

end DateTime

/-- The duration, or the longest that a field holds if that is shorter. -/
def Duration.capped (d : Duration) : Duration :=
  if DurationField.maxSeconds ≤ d.seconds then .ofSeconds DurationField.maxSeconds else d

namespace DurationField

/-- A field in decimal digits, its minutes and seconds below sixty, that stands for `n` seconds. -/
def Shows (f : DurationField) (n : Nat) : Prop :=
  ∃ h m s, Bcd.Digits f.hours h ∧ Bcd.Digits f.minutes m ∧ Bcd.Digits f.seconds s ∧
    m < 60 ∧ s < 60 ∧ n = h * 3600 + m * 60 + s

variable {f : DurationField} {n : Nat}

/-- What is written of a duration shows its whole seconds, up to the most that can be shown. -/
theorem shows_encode (d : Duration) : (encode d).Shows (min d.seconds maxSeconds) := by
  have hm : maxSeconds = 359999 := rfl
  generalize hn : min d.seconds maxSeconds = n
  have hle : n ≤ 359999 := by omega
  refine ⟨n / 3600, n / 60 % 60, n % 60, ?_, ?_, ?_, by omega, by omega, by omega⟩
  · rw [← hn]
    exact Bcd.digits_encode (by omega)
  · rw [← hn]
    exact Bcd.digits_encode (by omega)
  · rw [← hn]
    exact Bcd.digits_encode (by omega)

theorem Shows.decode_eq (h : f.Shows n) : f.decode = .ofSeconds n := by
  obtain ⟨hours, minutes, seconds, hh, hm, hs, -, -, rfl⟩ := h
  rw [decode, hh.value_eq, hm.value_eq, hs.value_eq]

theorem Shows.le (h : f.Shows n) : n ≤ maxSeconds := by
  obtain ⟨hours, minutes, seconds, hh, -, -, hm, hs, rfl⟩ := h
  have := hh.lt
  have : maxSeconds = 359999 := rfl
  omega

/-- There is one field that shows so many seconds. -/
theorem Shows.eq_encode (h : f.Shows n) : f = encode (.ofSeconds n) := by
  have hle := h.le
  obtain ⟨hours, minutes, seconds, hh, hm, hs, hm60, hs60, hn⟩ := h
  have cap : min (Duration.ofSeconds n).seconds maxSeconds = n := Nat.min_eq_left hle
  have eh : n / 3600 = hours := by omega
  have em : n / 60 % 60 = minutes := by omega
  have es : n % 60 = seconds := by omega
  simp only [encode, cap, eh, em, es]
  rw [← hh.eq_encode, ← hm.eq_encode, ← hs.eq_encode]

/-- The field that is written of a duration is the only one that shows its whole seconds, up to the
most that can be shown. -/
theorem shows_iff_eq_encode {d : Duration} : f.Shows (min d.seconds maxSeconds) ↔ f = encode d := by
  constructor
  · intro h
    rw [h.eq_encode]
    simp only [encode, Duration.ofSeconds, min_assoc, min_self]
  · rintro rfl
    exact shows_encode d

/-- A field is written as it was read just if it shows a time. -/
theorem encode_decode_eq_iff : encode f.decode = f ↔ ∃ n, f.Shows n := by
  constructor
  · intro h
    exact ⟨_, shows_iff_eq_encode.mpr h.symm⟩
  · rintro ⟨n, h⟩
    rw [h.decode_eq]
    exact h.eq_encode.symm

theorem decode_encode {d : Duration} (h : d.nanos = 0) : (encode d).decode = d.capped := by
  rw [(shows_encode d).decode_eq, Duration.capped]
  split_ifs with hd
  · rw [min_eq_right hd]
  · obtain ⟨seconds, nanos, _⟩ := d
    dsimp only at h hd
    subst h
    rw [min_eq_left (by dsimp only; omega)]
    rfl

theorem encode_capped (d : Duration) : encode d.capped = encode d := by
  have e : min d.capped.seconds maxSeconds = min d.seconds maxSeconds := by
    unfold Duration.capped
    split_ifs with hd
    · rw [min_eq_right hd]
      exact min_self _
    · rfl
  simp only [encode, e]

end DurationField

end Multiplex.Calendar
