import Multiplex.Proofs.Calendar.Instants
import Multiplex.Proofs.Section.Reading
import Multiplex.Proofs.Section.Writing
import Multiplex.Section.Lookup

/-!
# Durations of events

A duration field is normal if it shows a time in decimal digits, and there is one normal field for
each length up to 99:59:59. The writer writes no others, so that a field read is written as it was
just if it is normal; another is brought into the normal form of what it stands for, or of the
longest. An event of a decoded section is over after its duration as it was read, however far that
is beyond what is written of it.

Main statements:

* `Event.endsOnTime`: the end of an event whose start and duration are those of two fields;
* `durations_exact`: durations of fields and ends of events.
-/

namespace Multiplex.Section

open Multiplex.Wire Multiplex.Calendar

/-- An event has an end just if it has a start: the instant that comes its whole duration later, on
a day that is representable. -/
structure Event.EndsOnTime (e : Event) : Prop where
  none_iff : e.end? = none ↔ e.start = none
  exact : ∀ t, e.start = some t → ∀ u, e.end? = some u ↔
    u.seconds = t.seconds + e.duration.seconds ∧ u.nanos = t.nanos + e.duration.nanos
  representable : ∀ u, e.end? = some u → u.date.IsRepresentable

theorem Event.end?_eq {e : Event} (h : e.duration.isAddable = true) :
    e.end? = e.start.map (·.add e.duration) := if_pos h

/-- Both fields are bounded, and both stand for whole seconds. -/
theorem Event.endsOnTime {e : Event} {field : StartField} {length : DurationField}
    (hs : field.Names e.start) (hd : e.duration = length.decode) : e.EndsOnTime := by
  have hend : e.end? = e.start.map (·.add e.duration) := by
    apply Event.end?_eq
    rw [hd]
    exact length.isAddable_decode
  have hadd : ∀ t, e.start = some t → ∀ u, t.add e.duration = u ↔
      u.seconds = t.seconds + e.duration.seconds ∧ u.nanos = t.nanos + e.duration.nanos := by
    intro t ht u
    rw [ht] at hs
    apply DateTime.add_eq_iff
    rw [hs.nanos_eq, hd, length.nanos_decode]
    exact nanosPerSecond_pos
  refine ⟨?_, ?_, ?_⟩
  · rw [hend]
    exact Option.map_eq_none_iff
  · intro t ht u
    rw [hend, ht, Option.map_some, Option.some.injEq]
    exact hadd t ht u
  · intro u hu
    rw [hend, Option.map_eq_some_iff] at hu
    obtain ⟨t, ht, hu⟩ := hu
    have hsum := ((hadd t ht u).mp hu).1
    rw [ht] at hs
    rw [hd] at hsum
    exact hs.isRepresentable length hsum

/-- A row holds the fields of its start and its duration. -/
theorem Event.Form.endsOnTime {e : Event} {u : List UInt8} (h : e.Form u) : e.EndsOnTime := by
  obtain ⟨id, duration, word, names, -⟩ := h
  exact Event.endsOnTime names rfl

theorem Body.Form.endsOnTime {layout : Layout} {t : EventInformation} {u : List UInt8}
    (h : Body.Form layout (.eit t) u) : ∀ e ∈ t.events, e.EndsOnTime := by
  cases h with
  | eit ht =>
      obtain ⟨_, _, _, _, hrows⟩ := ht
      exact forall_mem_of_sequence hrows fun e v he => he.endsOnTime

theorem Spelled.endsOnTime {header : Header} {t : EventInformation} {crc : UInt32}
    {window : List UInt8} (h : Spelled ⟨header, .eit t, crc⟩ window) :
    ∀ e ∈ t.events, e.EndsOnTime := by
  cases h with
  | mk _ _ hb _ => exact hb.endsOnTime

/-- What is written of a duration shows a time and is read as its whole seconds, at most 99:59:59. A
field is written as it was read just if it shows a time; whatever its digits, it is written as the
field that shows the same total, or the longest if that is less. The events of a decoded section
end on time. -/
theorem durations_exact :
    (∀ d : Duration, (∃ n, (DurationField.encode d).Shows n) ∧
      (DurationField.encode d).decode = .ofSeconds (min d.seconds 359999)) ∧
    (∀ f : DurationField, (DurationField.encode f.decode = f ↔ ∃ n, f.Shows n) ∧
      ∀ g : DurationField,
        g.Shows (min f.decode.seconds 359999) ↔ g = DurationField.encode f.decode) ∧
    ∀ raw header table crc, decode raw = .ok ⟨header, .eit table, crc⟩ →
      ∀ e ∈ table.events, e.EndsOnTime := by
  refine ⟨?_, ?_, ?_⟩
  · intro d
    have h := DurationField.shows_encode d
    exact ⟨⟨_, h⟩, h.decode_eq⟩
  · intro f
    exact ⟨DurationField.encode_decode_eq_iff, fun g => DurationField.shows_iff_eq_encode⟩
  · intro raw header table crc h
    obtain ⟨window, rest, -, hs⟩ := exists_spelled_of_decode h
    exact hs.endsOnTime

/-- The last start there is, its duration without one decimal digit, and a start that is not
known. -/
def lastNight : EventInformation where
  streamId := 0x1044
  networkId := 0x233A
  lastSection := 0
  lastTable := 0x4E
  events :=
    [⟨7, some .lastServed, .ofSeconds 604065, .ofBits 4, false, []⟩,
      ⟨8, none, .ofSeconds 359999, .ofBits 0, false, []⟩]

theorem durations_exact_lastNight : ∃ raw header crc,
    decode raw = .ok ⟨header, .eit lastNight, crc⟩ ∧
      (∀ e ∈ lastNight.events, e.EndsOnTime) ∧
      lastNight.events.map Event.end? =
        [(Date.ofFields? 2038 4 29).bind (DateTime.ofFields? · 23 47 44), none] := by
  have h : decode [0x4E, 0xF0, 0x27, 0x04, 0x01, 0xC1, 0x00, 0x00,
      0x10, 0x44, 0x23, 0x3A, 0x00, 0x4E,
      0x00, 0x07, 0xFF, 0xFF, 0x23, 0x59, 0x59, 0xFF, 0xFF, 0xFF, 0x80, 0x00,
      0x00, 0x08, 0xFF, 0xFF, 0xFF, 0xFF, 0xFF, 0x99, 0x59, 0x59, 0x00, 0x00,
      0x01, 0x02, 0x03, 0x04] =
        .ok ⟨⟨.eitActual, 0x0401, 0, true, 0, 0⟩, .eit lastNight, 0x01020304⟩ := by
    decide +kernel
  exact ⟨_, _, _, h, durations_exact.2.2 _ _ _ _ h, by decide +kernel⟩

end Multiplex.Section
