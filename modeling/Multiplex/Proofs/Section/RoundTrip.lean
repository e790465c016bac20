import Multiplex.Proofs.Section.Reading
import Multiplex.Proofs.Section.Writing

/-!
# Round trips of sections

Writing and reading meet in the grammar. What is written of a section in range spells it, so that
it is decoded to it; what is decoded has a spelling, so that it is written again, in as many bytes
as its length field announced. Only durations need not come back: a field can stand for more than
99:59:59, and the writer stops there. A second round changes nothing.

Main statements:

* `decode_of_encode`: a section in range is decoded from what is written of it;
* `exists_encode_of_decode`: a decoded section can be written, and what is written is stable.
-/

namespace Multiplex.Section

open Multiplex.Wire Multiplex.Calendar

/-- An event whose start and duration have fields: no start or a served one, and whole seconds up
to 99:59:59. -/
structure Event.IsServed (e : Event) : Prop where
  start : ∀ t, e.start = some t → t.IsServed
  whole : e.duration.nanos = 0
  short : e.duration.seconds ≤ DurationField.maxSeconds
  status : ∃ bits, e.status = .ofBits bits

theorem Event.IsServed.writable {e : Event} (h : e.IsServed) : e.Writable := by
  refine ⟨?_, h.whole, h.status⟩
  cases hs : e.start with
  | none => exact StartField.names_encode_none
  | some t =>
      have ht := h.start t hs
      exact StartField.names_encode ht.date ht.2.2

theorem Event.IsServed.capped_eq {e : Event} (h : e.IsServed) : e.capped = e := by
  obtain ⟨id, start, ⟨seconds, nanos, _⟩, status, scrambled, ds⟩ := e
  obtain ⟨-, rfl : nanos = 0, hs : seconds ≤ _, -⟩ := h
  unfold Event.capped Duration.capped
  dsimp only
  split_ifs with hm
  · rw [Nat.le_antisymm hs hm]
    rfl
  · rfl

theorem InRange.mono {E F : Event → Prop} {s : Section} (h : s.InRange E) (e : ∀ v, E v → F v) :
    s.InRange F := by
  obtain ⟨header, body, crc⟩ := s
  obtain ⟨schedule, layout, version, hb⟩ := h
  refine ⟨schedule, layout, version, ?_⟩
  cases body with
  | eit t => exact fun v hv => e v (hb v hv)
  | _ => exact hb

theorem InRange.capped_eq {s : Section} (h : s.InRange Event.IsServed) : s.capped = s := by
  obtain ⟨header, body, crc⟩ := s
  obtain ⟨-, -, -, hb⟩ := h
  cases body with
  | eit t =>
      have e : t.events.map Event.capped = t.events :=
        (List.map_congr_left fun v hv => (hb v hv).capped_eq).trans (List.map_id _)
      obtain ⟨stream, network, lastSection, lastTable, events⟩ := t
      exact congrArg (fun es => (⟨header, .eit ⟨_, _, _, _, es⟩, crc⟩ : Section)) e
  | _ => rfl

/-- A section in range is decoded from what is written of it. -/
theorem decode_of_encode {s : Section} {raw : List UInt8} (h : s.InRange Event.IsServed)
    (he : s.encode = .ok raw) : decode raw = .ok s := by
  have hs := spelled_of_encode (h.mono fun _ => Event.IsServed.writable) he
  rw [h.capped_eq] at hs
  have hd := decode_append_of_spelled hs []
  rwa [List.append_nil] at hd

/-- A schedule with the last start and the longest duration, and a start that is not known. -/
def evening : Section where
  header := ⟨.eitSchedule 0x51, 0x0401, 31, true, 8, 0xF8⟩
  body := .eit ⟨0x1044, 0x233A, 0xF8, 0x51,
    [⟨7, some .lastServed, .ofSeconds 359999, .ofBits 4, true,
        [⟨0x4D, [0x65, 0x6E, 0x67]⟩, ⟨0x54, []⟩]⟩,
      ⟨8, none, .ofSeconds 0, .ofBits 7, false, []⟩]⟩
  crc := 0xDEADBEEF

theorem evening_inRange : evening.InRange Event.IsServed where
  schedule := by
    rintro _ ⟨⟩
    decide
  layout := rfl
  version := by decide
  body := by
    refine List.forall_mem_cons.mpr ⟨⟨?_, rfl, by decide, 4, rfl⟩,
      List.forall_mem_singleton.mpr ⟨?_, rfl, by decide, 7, rfl⟩⟩
    · rintro _ ⟨⟩
      exact ⟨by decide, le_refl _, rfl⟩
    · rintro _ ⟨⟩

theorem decode_of_encode_evening :
    ∃ raw, evening.encode = .ok raw ∧ raw.length = 49 ∧ decode raw = .ok evening := by
  have h : evening.encode = .ok [0x51, 0xF0, 0x2E, 0x04, 0x01, 0xFF, 0x08, 0xF8,
      0x10, 0x44, 0x23, 0x3A, 0xF8, 0x51,
      0x00, 0x07, 0xFF, 0xFF, 0x23, 0x59, 0x59, 0x99, 0x59, 0x59, 0x90, 0x07,
      0x4D, 0x03, 0x65, 0x6E, 0x67, 0x54, 0x00,
      0x00, 0x08, 0xFF, 0xFF, 0xFF, 0xFF, 0xFF, 0x00, 0x00, 0x00, 0xE0, 0x00,
      0xDE, 0xAD, 0xBE, 0xEF] := by decide +kernel
  exact ⟨_, h, rfl, decode_of_encode evening_inRange h⟩

/-- A decoded section can be written, in as many bytes as its length field announced. It is decoded
from them with its durations capped, and written so is the same. -/
theorem exists_encode_of_decode {raw : List UInt8} {s : Section} (h : decode raw = .ok s) :
    ∃ again, s.encode = .ok again ∧
      again.length = 3 + bigEndian ((raw.drop 1).take 2) % 0x1000 ∧
      decode again = .ok s.capped ∧ s.capped.encode = .ok again := by
  obtain ⟨window, rest, rfl, hs⟩ := exists_spelled_of_decode h
  obtain ⟨hr, again, he, hl⟩ := hs.encode
  have hd := decode_append_of_spelled (spelled_of_encode hr he) []
  rw [List.append_nil] at hd
  refine ⟨again, he, ?_, hd, (encode_capped s).trans he⟩
  cases hs with
  | mk known hh hb measured =>
      rename_i word header body crc front rows
      have e : ∀ c : List UInt8, (big16 word ++ c).take 2 = big16 word := by
        intro c
        rfl
      rw [hl]
      simp only [List.cons_append, List.append_assoc, List.drop_succ_cons, List.drop_zero, e,
        bigEndian_big16]
      rw [← measured]
      simp
      omega

/-- An event of a day before the epoch, its duration without one decimal digit. -/
def longAgo : Section where
  header := ⟨.eitActual, 0x0401, 0, false, 0, 0⟩
  body := .eit ⟨0x1044, 0x233A, 0, 0x4E,
    [⟨7, (Date.ofFields? 1858 11 18).bind (DateTime.ofFields? · 12 34 56),
      .ofSeconds 604065, .ofBits 6, false, [⟨0x80, [0xAA]⟩, ⟨0x81, [0xBB]⟩]⟩]⟩
  crc := 0x01020304

theorem exists_encode_of_decode_longAgo : ∃ raw again, decode raw = .ok longAgo ∧
    longAgo.encode = .ok again ∧ again.length = 36 ∧ decode again = .ok longAgo.capped ∧
      longAgo.capped.encode = .ok again := by
  have h : decode [0x4E, 0x00, 0x21, 0x04, 0x01, 0x00, 0x00, 0x00,
      0x10, 0x44, 0x23, 0x3A, 0x00, 0x4E,
      0x00, 0x07, 0x00, 0x00, 0x12, 0x34, 0x56, 0xFF, 0xFF, 0xFF, 0xC0, 0x06,
      0x80, 0x01, 0xAA, 0x81, 0x01, 0xBB, 0x01, 0x02, 0x03, 0x04, 0x63] = .ok longAgo := by
    decide +kernel
  obtain ⟨again, he, hl, hd, hc⟩ := exists_encode_of_decode h
  exact ⟨_, again, h, he, hl, hd, hc⟩

end Multiplex.Section
