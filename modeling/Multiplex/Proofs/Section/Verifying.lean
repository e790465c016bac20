import Multiplex.Proofs.Section.Register
import Multiplex.Proofs.Section.Sealing
import Multiplex.Proofs.Section.Window

/-!
# What a right checksum says

A section is verified by the checksum of all its bytes, those of its own checksum included: it has
to be zero. No other four bytes than the checksum of what stands before them make it so, and they
stand where the reader finds the checksum of a section, so that both look at the same bytes. A
burst, which alters bits within 32 places, is always found out, since it leaves a register that what
follows cannot empty.

Main statements:

* `Checksum.crc_append_big32_eq_zero_iff`: four bytes are a right checksum in one way only;
* `verify_eq_true_iff`: what is verified, and of which bytes;
* `verify_eq_false_of_burst`: no burst of up to 32 bits goes unnoticed.
-/

namespace Multiplex.Section

open Multiplex.Wire

namespace Checksum

/-- A checksum behind the bytes that it is of, and no other four bytes. -/
theorem crc_append_big32_eq_zero_iff (bytes : List UInt8) (w : UInt32) :
    crc (bytes ++ big32 w) = 0 ↔ w = crc bytes := by
  constructor
  · intro h
    have h : crc (bytes ++ big32 w) = crc (bytes ++ big32 (crc bytes)) :=
      h.trans (crc_append_big32 bytes).symm
    rw [crc, crc, foldl_step_eq, foldl_step_eq, bits_append, bits_append, List.foldl_append,
      List.foldl_append] at h
    have same : bits (big32 w) = bits (big32 (crc bytes)) :=
      eq_of_foldl_feedBit_eq rfl (le_refl 32) h
    exact big32_injective (bits_injective same)
  · rintro rfl
    exact crc_append_big32 bytes

end Checksum

/-- The checksum of a section that is decoded stands in the last four bytes of its window. -/
theorem exists_window_of_decode {raw : List UInt8} {s : Section} (h : decode raw = .ok s) :
    ∃ content rest, raw = content ++ big32 s.crc ++ rest ∧ 3 ≤ content.length ∧
      announced raw = content.length + 1 := by
  obtain ⟨window, rest, rfl, hs⟩ := exists_spelled_of_decode h
  obtain ⟨h4, hl⟩ := hs.announced_append rest
  obtain ⟨content, rfl, -⟩ := hs.with_crc
  rw [List.length_append, length_big32] at hl
  exact ⟨content, rest, rfl, by omega, by omega⟩

/-- The bytes that `verify` looks at: a whole window with room for a checksum, and in its last four
bytes the checksum of those before. -/
theorem verify_eq_true_iff_last {raw : List UInt8} :
    Checksum.verify raw = true ↔ 3 ≤ raw.length ∧ 4 ≤ announced raw ∧
      3 + announced raw ≤ raw.length ∧
      (raw.drop (announced raw - 1)).take 4 =
        big32 (Checksum.crc (raw.take (announced raw - 1))) := by
  rw [Checksum.verify_eq_true_iff_crc]
  refine and_congr_right fun h3 => and_congr_right fun h4 => and_congr_right fun hl => ?_
  obtain ⟨w, hw⟩ : ∃ w, (raw.drop (announced raw - 1)).take 4 = big32 w := by
    apply exists_big32
    rw [List.length_take, List.length_drop]
    omega
  have last : 3 + announced raw = announced raw - 1 + 4 := by omega
  rw [last, List.take_add, hw, Checksum.crc_append_big32_eq_zero_iff]
  exact ⟨congrArg big32, big32_injective⟩

/-- A section is verified if it is whole, has room for a checksum, and its last four bytes are the
checksum of those before them. If it can be decoded, this is to say that the checksum that was
decoded is the one of these bytes, whatever follows. -/
theorem verify_eq_true_iff (raw : List UInt8) :
    (Checksum.verify raw = true ↔ 3 ≤ raw.length ∧ 4 ≤ announced raw ∧
      3 + announced raw ≤ raw.length ∧
      (raw.drop (announced raw - 1)).take 4 =
        big32 (Checksum.crc (raw.take (announced raw - 1)))) ∧
    ∀ s, decode raw = .ok s →
      (Checksum.verify raw = true ↔ s.crc = Checksum.crc (raw.take (announced raw - 1))) := by
  refine ⟨verify_eq_true_iff_last, fun s h => ?_⟩
  obtain ⟨content, rest, rfl, h3, ha⟩ := exists_window_of_decode h
  have before : announced (content ++ big32 s.crc ++ rest) - 1 = content.length := by omega
  have length : (content ++ big32 s.crc ++ rest).length = content.length + 4 + rest.length := by
    rw [List.length_append, List.length_append, length_big32]
  have last : ((content ++ big32 s.crc ++ rest).drop content.length).take 4 = big32 s.crc := by
    rw [List.append_assoc, List.drop_left]
    rfl
  rw [verify_eq_true_iff_last, before, last]
  constructor
  · rintro ⟨-, -, -, h⟩
    exact big32_injective h
  · intro h
    exact ⟨by omega, by omega, by omega, congrArg big32 h⟩

/-- A program table of one program, with its checksum. -/
def undisturbed : List UInt8 :=
  [0x00, 0xB0, 0x0D, 0x10, 0x44, 0xC3, 0x00, 0x00, 0x00, 0x01, 0xE0, 0x10, 0x7F, 0x1D, 0x99, 0x39]

theorem verify_eq_true_iff_stuffed :
    decode (undisturbed ++ [0xFF, 0xFF]) =
        .ok ⟨⟨.pat, 0x1044, 1, true, 0, 0⟩, .pat ⟨[⟨1, 0x10⟩]⟩, 0x7F1D9939⟩ ∧
      Checksum.crc (undisturbed.take 12) = 0x7F1D9939 ∧
      Checksum.verify (undisturbed ++ [0xFF, 0xFF]) = true := by
  have hd : decode (undisturbed ++ [0xFF, 0xFF]) =
      .ok ⟨⟨.pat, 0x1044, 1, true, 0, 0⟩, .pat ⟨[⟨1, 0x10⟩]⟩, 0x7F1D9939⟩ := by decide +kernel
  have hc : Checksum.crc (undisturbed.take 12) = 0x7F1D9939 := by decide +kernel
  exact ⟨hd, hc, ((verify_eq_true_iff _).2 _ hd).mpr hc.symm⟩

/-! ### Bursts -/

/-- Bytes whose bits differ within 32 places only are known by their checksum. -/
theorem eq_of_crc_of_burst (start : Nat) {x y : List UInt8} (hl : x.length = y.length)
    (hb : ∀ i, (Checksum.bits x)[i]? ≠ (Checksum.bits y)[i]? → start ≤ i ∧ i < start + 32)
    (h : Checksum.crc x = Checksum.crc y) : x = y := by
  apply Checksum.bits_injective
  apply Checksum.eq_of_burst start (r := Checksum.initial) ?_ hb
  · rw [← Checksum.foldl_step_eq, ← Checksum.foldl_step_eq]
    exact h
  · rw [Checksum.length_bits, Checksum.length_bits, hl]

/-- A section that was sent with a right checksum and arrives with bits altered, none of them in the
first three bytes or behind the section, and all within 32 places, has no right checksum. -/
theorem verify_eq_false_of_burst (start : Nat) {sent received : List UInt8}
    (right : Checksum.verify sent = true) (length : received.length = sent.length)
    (altered : received ≠ sent)
    (burst : ∀ i, (Checksum.bits received)[i]? ≠ (Checksum.bits sent)[i]? →
      8 * 3 ≤ i ∧ i < 8 * (3 + announced sent) ∧ start ≤ i ∧ i < start + 32) :
    Checksum.verify received = false := by
  by_contra hv
  rw [Bool.not_eq_false] at hv
  obtain ⟨h3, -, hl, hs⟩ := (Checksum.verify_eq_true_iff_crc sent).mp right
  obtain ⟨h3', -, -, hr⟩ := (Checksum.verify_eq_true_iff_crc received).mp hv
  -- The length field is not altered, so that the window is the same.
  have frame : received.take 3 = sent.take 3 := by
    apply Checksum.take_eq_iff_bits.mpr
    intro i hi
    by_contra hne
    have := (burst i hne).1
    omega
  have same : announced received = announced sent := by
    rw [← announced_take h3' (le_refl 3), frame, announced_take h3 (le_refl 3)]
  rw [same] at hr
  have window : received.take (3 + announced sent) = sent.take (3 + announced sent) := by
    apply eq_of_crc_of_burst start ?_ ?_ (hr.trans hs.symm)
    · rw [List.length_take, List.length_take, length]
    · intro i hne
      rw [Checksum.bits_take, Checksum.bits_take, List.getElem?_take, List.getElem?_take] at hne
      split_ifs at hne with hi
      · exact (burst i hne).2.2
      · exact absurd rfl hne
  apply altered
  apply Checksum.bits_injective
  apply List.ext_getElem?
  intro i
  by_contra hne
  exact hne (Checksum.take_eq_iff_bits.mp window i (burst i hne).2.1)

/-- The same table, with 32 bits altered that begin and end within a byte. -/
def struck : List UInt8 :=
  [0x00, 0xB0, 0x0D, 0x10, 0x44, 0xC3, 0x00, 0x00, 0x00, 0x01, 0xF6, 0xB0, 0x7E, 0xE3, 0xB9, 0x39]

theorem verify_eq_false_of_burst_struck :
    Checksum.verify undisturbed = true ∧
      (Checksum.bits struck)[83]? ≠ (Checksum.bits undisturbed)[83]? ∧
      (Checksum.bits struck)[114]? ≠ (Checksum.bits undisturbed)[114]? ∧
      Checksum.verify struck = false := by
  have right : Checksum.verify undisturbed = true := by decide +kernel
  have near : ∀ i < 128, (Checksum.bits struck)[i]? ≠ (Checksum.bits undisturbed)[i]? →
      8 * 3 ≤ i ∧ i < 8 * (3 + announced undisturbed) ∧ 83 ≤ i ∧ i < 83 + 32 := by decide +kernel
  refine ⟨right, by decide +kernel, by decide +kernel,
    verify_eq_false_of_burst 83 right rfl (by decide) fun i hne => ?_⟩
  by_cases hi : i < 128
  · exact near i hi hne
  · have beyond (bytes : List UInt8) (hb : bytes.length = 16) : (Checksum.bits bytes)[i]? = none := by
      rw [List.getElem?_eq_none_iff, Checksum.length_bits]
      omega
    exact absurd ((beyond struck rfl).trans (beyond undisturbed rfl).symm) hne

end Multiplex.Section
