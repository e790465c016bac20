import Multiplex.Text.Broadcast
import Mathlib.Tactic

/-!
# Control codes in the single-byte sets

A text field in a single-byte set is read byte by byte. In most sets the bytes 0x80 to 0x9F are
control codes, which say nothing, or break the line in the case of 0x8A. The sets that stand for
parts 9 and 11 of ISO 8859 have characters at some of these bytes, and there a control code is shown
as a character.

Main statement:

* `control_bytes_by_part`: where control codes are kept out of the text, and where they are not.
-/

namespace Multiplex.Text

/-! ### Selectors -/

/-- The choice of a single-byte set at the start of a text field. -/
inductive Selector
  | none
  | short (number : UInt8) (range : 0x01 ≤ number ∧ number ≤ 0x0B)
  | long (high low : UInt8)

namespace Selector

/-- The bytes that make the choice. -/
def bytes : Selector → List UInt8
  | none => []
  | short number _ => [number]
  | long high low => [0x10, high, low]

/-- The part of ISO 8859 that is chosen. -/
def part : Selector → Nat
  | none => 1
  | short number _ => number.toNat + 4
  | long high low => high.toNat * 256 + low.toNat

/-- A payload can stand behind the choice. Where none is made, its first byte must not make one. -/
def Opens (payload : List UInt8) : Selector → Prop
  | none => ∀ b ∈ payload.head?, 0x20 ≤ b
  | short _ _ => True
  | long _ _ => True

theorem Opens.append {s : Selector} {u v : List UInt8} (hu : s.Opens u) (hv : s.Opens v) :
    s.Opens (u ++ v) := by
  cases s with
  | none =>
      cases u with
      | nil => exact hv
      | cons b u => exact hu
  | short number range => trivial
  | long high low => trivial

end Selector

/-! ### Texts byte by byte -/

/-- The character of a byte in a part of ISO 8859. -/
def partChar (part : Nat) (b : UInt8) : Char :=
  match SingleByte.iso8859? part with
  | some set => set.charOf b
  | none => Char.ofNat b.toNat

theorem decodeIso8859_eq_map (part : Nat) (bytes : List UInt8) :
    decodeIso8859 part bytes = bytes.map (partChar part) := by
  unfold decodeIso8859 partChar
  cases SingleByte.iso8859? part <;> rfl

theorem decodeField_short {number : UInt8} (range : 0x01 ≤ number ∧ number ≤ 0x0B)
    (payload : List UInt8) :
    decodeField (number :: payload) = decodeIso8859 (number.toNat + 4) payload := by
  have hl : ¬ 0x20 ≤ number := by
    intro h
    exact absurd (UInt8.le_trans h range.2) (by decide)
  unfold decodeField
  dsimp only
  rw [if_neg hl, if_pos range]

theorem decodeField_long (high low : UInt8) (payload : List UInt8) :
    decodeField (0x10 :: high :: low :: payload) =
      decodeIso8859 (high.toNat * 256 + low.toNat) payload := by
  have hpart : Wire.bigEndian [high, low] = high.toNat * 256 + low.toNat := by
    simp [Wire.bigEndian]
  unfold decodeField
  dsimp only
  rw [if_neg (by decide), if_neg (by decide), if_pos rfl, hpart]

/-- Behind a selector each byte is a character of the part that is chosen. -/
theorem Selector.decodeField_append {s : Selector} {payload : List UInt8} (h : s.Opens payload) :
    decodeField (s.bytes ++ payload) = payload.map (partChar s.part) := by
  cases s with
  | none =>
      cases payload with
      | nil => rfl
      | cons b payload =>
          -- No byte is taken off: the first one already is a character of the text.
          have hb : 0x20 ≤ b := h b rfl
          change decodeField (b :: payload) = latin1 (b :: payload)
          unfold decodeField
          exact if_pos hb
  | short number range => exact (decodeField_short range payload).trans (decodeIso8859_eq_map ..)
  | long high low => exact (decodeField_long high low payload).trans (decodeIso8859_eq_map ..)

theorem Selector.broadcastText_append {s : Selector} {payload : List UInt8} (h : s.Opens payload) :
    broadcastText (s.bytes ++ payload) =
      String.ofList (payload.flatMap fun b => withoutControl (partChar s.part b)) := by
  rw [broadcastText, Selector.decodeField_append h, List.flatMap_map]

/-! ### The bytes of control codes -/

/-- The bytes of control codes at which the set of a part has characters. -/
def strayBytes : (part : Nat) → List UInt8
  | 9 => [0x80, 0x82, 0x83, 0x84, 0x85, 0x86, 0x87, 0x88, 0x89, 0x8A, 0x8B, 0x8C, 0x91, 0x92, 0x93,
      0x94, 0x95, 0x96, 0x97, 0x98, 0x99, 0x9A, 0x9B, 0x9C, 0x9F]
  | 11 => [0x80, 0x85, 0x91, 0x92, 0x93, 0x94, 0x95, 0x96, 0x97]
  | _ => []

/-- What a control code says. -/
def controlText (b : UInt8) : List Char := if b = 0x8A then ['\n'] else []

theorem lt_of_mem_strayBytes {part : Nat} {b : UInt8} (h : b ∈ strayBytes part) : b < 0xA0 := by
  have hall : (strayBytes part).all (· < 0xA0) = true := by
    unfold strayBytes
    split <;> decide
  exact of_decide_eq_true (List.all_eq_true.mp hall b h)

theorem middle_of_iso8859? {part : Nat} {set : SingleByte}
    (h : SingleByte.iso8859? part = some set) :
    set.middle.map (·.1) = strayBytes part ∧ ∀ e ∈ set.middle, 0xA0 ≤ e.2.toNat := by
  unfold SingleByte.iso8859? at h
  split at h <;> cases h <;> decide

theorem strayBytes_of_iso8859?_eq_none {part : Nat} (h : SingleByte.iso8859? part = none) :
    strayBytes part = [] := by
  unfold strayBytes
  split
  · cases h
  · cases h
  · rfl

/-- Below 0xA0 a set has the characters of its middle, and control codes and ASCII elsewhere. -/
theorem SingleByte.charOf_cases (set : SingleByte) {b : UInt8} (hb : b < 0xA0) :
    (b ∉ set.middle.map (·.1) ∧ set.charOf b = Char.ofNat b.toNat) ∨
      (b, set.charOf b) ∈ set.middle := by
  unfold SingleByte.charOf
  rw [if_pos hb]
  cases hf : set.middle.find? (·.1 == b) with
  | none =>
      refine .inl ⟨?_, rfl⟩
      intro hm
      obtain ⟨e, he, rfl⟩ := List.mem_map.mp hm
      have hn := List.find?_eq_none.mp hf e he
      exact hn (beq_self_eq_true e.1)
  | some e =>
      obtain rfl : e.1 = b := by simpa using List.find?_some hf
      exact .inr (List.mem_of_find?_eq_some hf)

theorem partChar_cases (part : Nat) {b : UInt8} (hb : b < 0xA0) :
    (b ∉ strayBytes part ∧ partChar part b = Char.ofNat b.toNat) ∨
      (b ∈ strayBytes part ∧ 0xA0 ≤ (partChar part b).toNat) := by
  unfold partChar
  cases h : SingleByte.iso8859? part with
  | none =>
      rw [strayBytes_of_iso8859?_eq_none h]
      exact .inl ⟨List.not_mem_nil, rfl⟩
  | some set =>
      obtain ⟨hkeys, hchars⟩ := middle_of_iso8859? h
      rw [← hkeys]
      rcases set.charOf_cases hb with hn | hm
      · exact .inl hn
      · exact .inr ⟨List.mem_map.mpr ⟨_, hm, rfl⟩, hchars _ hm⟩

theorem withoutControl_of_control {b : UInt8} (hl : 0x80 ≤ b) (hu : b ≤ 0x9F) :
    withoutControl (Char.ofNat b.toNat) = controlText b := by
  have hc : (Char.ofNat b.toNat).toNat = b.toNat := by
    have hb := b.toNat_lt
    have hv : b.toNat.isValidChar := .inl (by omega)
    rw [Char.ofNat, dif_pos hv]
    rfl
  rw [UInt8.le_iff_toNat_le] at hl hu
  unfold withoutControl controlText
  rw [hc]
  by_cases h : b = 0x8A
  · rw [h]
    rfl
  · have hn : b.toNat ≠ 0x8A := by
      intro e
      exact h (UInt8.toNat_inj.mp e)
    rw [if_neg hn, if_neg h]
    exact if_pos ⟨hl, hu⟩

theorem withoutControl_of_le {c : Char} (h : 0xA0 ≤ c.toNat) : withoutControl c = [c] := by
  unfold withoutControl
  rw [if_neg (by omega), if_neg (by omega)]

/-- A text field in a single-byte set is shown byte by byte, so that texts of two payloads join. A
control code breaks the line or says nothing, unless the set has a character at its byte: that one
is shown then. -/
theorem control_bytes_by_part (s : Selector) :
    ∃ shown : UInt8 → List Char,
      (∀ payload, s.Opens payload →
        broadcastText (s.bytes ++ payload) = String.ofList (payload.flatMap shown)) ∧
      (∀ b : UInt8, 0x80 ≤ b → b ≤ 0x9F → b ∉ strayBytes s.part → shown b = controlText b) ∧
      (∀ b ∈ strayBytes s.part, ∃ c : Char, 0xA0 ≤ c.toNat ∧ shown b = [c]) ∧
      ∀ u v, s.Opens u → s.Opens v →
        broadcastText (s.bytes ++ (u ++ v)) =
          broadcastText (s.bytes ++ u) ++ broadcastText (s.bytes ++ v) := by
  refine ⟨fun b => withoutControl (partChar s.part b), ?_, ?_, ?_, ?_⟩
  · intro payload h
    exact s.broadcastText_append h
  · intro b hl hu hb
    have ha : b < 0xA0 := UInt8.lt_of_le_of_lt hu (by decide)
    rcases partChar_cases s.part ha with ⟨-, hc⟩ | ⟨hm, -⟩
    · change withoutControl (partChar s.part b) = _
      rw [hc]
      exact withoutControl_of_control hl hu
    · exact absurd hm hb
  · intro b hb
    rcases partChar_cases s.part (lt_of_mem_strayBytes hb) with ⟨hn, -⟩ | ⟨-, hc⟩
    · exact absurd hb hn
    · exact ⟨partChar s.part b, hc, withoutControl_of_le hc⟩
  · intro u v hu hv
    rw [s.broadcastText_append (hu.append hv), s.broadcastText_append hu,
      s.broadcastText_append hv, List.flatMap_append, String.ofList_append]

/-- The line break of a Cyrillic text, and the same byte in a Turkish one. -/
theorem control_bytes_by_part_turkish :
    broadcastText [0x01, 0x8A] = "\n" ∧ broadcastText [0x05, 0x8A] ≠ "\n" := by
  constructor
  · obtain ⟨shown, htext, hcontrol, -⟩ := control_bytes_by_part (.short 0x01 (by decide))
    have ht := htext [0x8A] trivial
    rw [List.flatMap_singleton, hcontrol 0x8A (by decide) (by decide) (by decide)] at ht
    exact ht
  · obtain ⟨shown, htext, -, hstray, -⟩ := control_bytes_by_part (.short 0x05 (by decide))
    obtain ⟨c, hl, hc⟩ := hstray 0x8A (by decide)
    have ht := htext [0x8A] trivial
    rw [List.flatMap_singleton, hc] at ht
    intro h
    have e : [c] = ['\n'] := String.ofList_injective (ht.symm.trans h)
    rw [(List.cons.inj e).1] at hl
    exact absurd hl (by decide)

end Multiplex.Text
