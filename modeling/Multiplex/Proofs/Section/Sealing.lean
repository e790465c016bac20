import Multiplex.Proofs.Section.Window

/-!
# Sealing what is written

What is written of a section is always read again, whatever its fields hold: a field that is too
great for its bits is written as what is left of it, and that can be read. So the place of the
checksum is the same for all who look for it. The writer puts it behind the body, the reader finds
it by the length field, and sealing by the end of the bytes. A checksum put there makes the checksum
of the whole zero.

Main statements:

* `exists_spelled_of_encode`: what is written spells a section;
* `Checksum.crc_append_big32`: bytes followed by their checksum have the checksum zero;
* `decode_resealed_of_encode`: what is written can be sealed, and is read as before but for the
  checksum.
-/

namespace Multiplex.Section

open Multiplex.Wire Multiplex.Calendar

/-! ### What is written spells something -/

theorem exists_sequence_of {α β : Type} {F : Wire.Form α} {G : Wire.Form β} {as : List α}
    {u : List UInt8} (h : Sequence F as u) (hf : ∀ a u, F a u → ∃ b, G b u) :
    ∃ bs, Sequence G bs u := by
  induction h with
  | nil => exact ⟨[], .nil⟩
  | cons ha _ ih =>
      obtain ⟨b, hb⟩ := hf _ _ ha
      obtain ⟨bs, hbs⟩ := ih
      exact ⟨b :: bs, .cons hb hbs⟩

theorem Program.exists_form (p : Program) : ∃ q : Program, q.Form p.bytes :=
  ⟨_, .mk p.id (0xE000 + p.pid % 0x2000)⟩

theorem ElementaryStream.exists_form {s : ElementaryStream} {u : List UInt8}
    (he : s.encode = .ok u) : ∃ t : ElementaryStream, t.Form u := by
  obtain ⟨loop, hl, rfl⟩ := ElementaryStream.encode_eq_ok_iff.mp he
  exact ⟨_, .mk s.streamType (0xE000 + s.pid % 0x2000)
    (loopForm_of_encodeLoop (by decide) (by decide) (by decide) hl)⟩

theorem Service.exists_form {s : Service} {u : List UInt8} (he : s.encode = .ok u) :
    ∃ t : Service, t.Form u := by
  obtain ⟨loop, hl, rfl⟩ := Service.encode_eq_ok_iff.mp he
  obtain ⟨filled⟩ := loopForm_of_statusLoop hl
  rw [← List.cons_append, ← List.append_assoc]
  exact ⟨_, .mk s.id _ _ filled⟩

theorem Event.exists_form {e : Event} {u : List UInt8} (he : e.encode = .ok u) :
    ∃ f : Event, f.Form u := by
  obtain ⟨loop, hl, rfl⟩ := Event.encode_eq_ok_iff.mp he
  obtain ⟨filled⟩ := loopForm_of_statusLoop hl
  obtain ⟨start, names⟩ := StartField.exists_names_encode e.start
  rw [← List.append_assoc]
  exact ⟨_, .mk e.id _ _ names filled⟩

theorem Body.exists_form {b : Body} {u : List UInt8} (he : b.encode = .ok u) :
    ∃ c : Body, c.Form b.layout u := by
  cases b with
  | pat t =>
      obtain rfl := Except.ok.inj he
      obtain ⟨ps, hp⟩ := exists_sequence_of (G := Program.Form) (sequence_bytes t.programs)
        fun p _ h => h ▸ p.exists_form
      exact ⟨_, .pat (.mk hp)⟩
  | pmt t =>
      obtain ⟨info, hi, rows, hr, rfl⟩ := ProgramMap.encode_eq_ok_iff.mp he
      obtain ⟨ss, hs⟩ := exists_sequence_of hr fun _ _ => ElementaryStream.exists_form
      exact ⟨_, .pmt (.mk (0xE000 + t.clockPid % 0x2000)
        (loopForm_of_encodeLoop (by decide) (by decide) (by decide) hi) hs)⟩
  | nit t => exact ⟨_, .nit (NetworkInformation.form_of_encode he)⟩
  | sdt t =>
      obtain ⟨rows, hr, rfl⟩ := ServiceDescription.encode_eq_ok_iff.mp he
      obtain ⟨ss, hs⟩ := exists_sequence_of hr fun _ _ => Service.exists_form
      exact ⟨_, .sdt (.mk t.networkId 0xFF hs)⟩
  | eit t =>
      obtain ⟨rows, hr, rfl⟩ := EventInformation.encode_eq_ok_iff.mp he
      obtain ⟨es, hs⟩ := exists_sequence_of hr fun _ _ => Event.exists_form
      exact ⟨_, .eit (.mk t.streamId t.networkId t.lastSection t.lastTable hs)⟩

/-- What is written of a section spells a section, if not always the same. -/
theorem exists_spelled_of_encode {s : Section} {raw : List UInt8}
    (schedule : ∀ b, s.header.tableId = .eitSchedule b → 0x50 ≤ b ∧ b ≤ 0x6F)
    (layout : s.body.layout = s.header.tableId.layout) (he : s.encode = .ok raw) :
    ∃ s', Spelled s' raw := by
  obtain ⟨rows, hr, hl, rfl⟩ := encode_eq_ok_iff.mp he
  obtain ⟨body, hb⟩ := Body.exists_form hr
  rw [layout] at hb
  generalize hn : (s.header.bytes ++ rows ++ big32 s.crc).length = n at hl ⊢
  refine ⟨_, .mk (TableId.ofByte?_byte schedule)
    (Header.Form.mk s.header.id _ s.header.number s.header.lastNumber) hb ?_⟩
  rw [hn, TableId.toNat_lengthWord_mod s.header.tableId hl]

/-! ### Bytes followed by their checksum -/

namespace Checksum

theorem table_zero : table.getD 0 0 = 0 := by decide +kernel

/-- A register that is fed its own upper byte moves up, and nothing is added. -/
theorem step_upper (r : UInt32) : step r (.ofNat (r.toNat / 0x1000000)) = r <<< 8 := by
  have hr := r.toNat_lt
  have e : r >>> 24 = (UInt8.ofNat (r.toNat / 0x1000000)).toUInt32 := by
    rw [← UInt32.toNat_inj]
    simp [Nat.shiftRight_eq_div_pow]
    omega
  rw [step, ← e, UInt32.xor_self]
  change _ ^^^ table.getD 0 0 = _
  rw [table_zero, UInt32.xor_zero]

theorem toNat_shiftLeft_byte (r : UInt32) : (r <<< 8).toNat = r.toNat * 256 % 2 ^ 32 := by
  simp [Nat.shiftLeft_eq]

/-- A register that is fed all its bytes is left empty. -/
theorem foldl_step_big32 (r : UInt32) : (big32 r).foldl step r = 0 := by
  have h1 := toNat_shiftLeft_byte r
  have h2 := toNat_shiftLeft_byte (r <<< 8)
  have h3 := toNat_shiftLeft_byte (r <<< 8 <<< 8)
  have h4 := toNat_shiftLeft_byte (r <<< 8 <<< 8 <<< 8)
  -- Each byte is the upper one when its turn comes.
  have e1 : UInt8.ofNat (r.toNat / 0x10000) = .ofNat ((r <<< 8).toNat / 0x1000000) := by
    rw [← UInt8.toNat_inj, UInt8.toNat_ofNat', UInt8.toNat_ofNat', h1]
    omega
  have e2 : UInt8.ofNat (r.toNat / 0x100) = .ofNat ((r <<< 8 <<< 8).toNat / 0x1000000) := by
    rw [← UInt8.toNat_inj, UInt8.toNat_ofNat', UInt8.toNat_ofNat', h2, h1]
    omega
  have e3 : UInt8.ofNat r.toNat = .ofNat ((r <<< 8 <<< 8 <<< 8).toNat / 0x1000000) := by
    rw [← UInt8.toNat_inj, UInt8.toNat_ofNat', UInt8.toNat_ofNat', h3, h2, h1]
    omega
  rw [big32, List.foldl_cons, step_upper, e1, List.foldl_cons, step_upper, e2, List.foldl_cons,
    step_upper, e3, List.foldl_cons, step_upper, List.foldl_nil, ← UInt32.toNat_inj, h4, h3, h2, h1]
  change _ = 0
  omega

theorem crc_append_big32 (bytes : List UInt8) : crc (bytes ++ big32 (crc bytes)) = 0 := by
  rw [crc, List.foldl_append]
  exact foldl_step_big32 (crc bytes)

/-- A checksum in place of the last four bytes. -/
theorem resealed_append_big32 (content : List UInt8) (w : UInt32) :
    resealed (content ++ big32 w) = content ++ big32 (crc content) := by
  have hl : (content ++ big32 w).length - 4 = content.length := by simp
  rw [resealed, if_neg (by simp), hl, List.take_left]

end Checksum

/-! ### Sealed sections -/

theorem Spelled.verify {s : Section} {raw : List UInt8} (h : Spelled s raw)
    (hc : Checksum.crc raw = 0) : Checksum.verify raw = true := by
  obtain ⟨h4, hl⟩ := h.announced_append []
  rw [List.append_nil] at h4 hl
  rw [Checksum.verify_eq_true_iff_crc, hl, List.take_length]
  exact ⟨by omega, h4, le_refl _, hc⟩

/-- Another checksum is another spelling, of a section that is the same but for it. -/
theorem Spelled.with_crc {s : Section} {raw : List UInt8} (h : Spelled s raw) :
    ∃ content, raw = content ++ big32 s.crc ∧
      ∀ crc, Spelled { s with crc } (content ++ big32 crc) := by
  cases h with
  | @mk byte tableId word header body crc front rows known hh hb measured =>
      refine ⟨byte :: big16 word ++ (front ++ rows), by simp, fun crc' => ?_⟩
      have key : Spelled ⟨header, body, crc'⟩ (byte :: big16 word ++ front ++ rows ++ big32 crc') :=
        .mk known hh hb (by simpa using measured)
      simpa using key

/-- What is written of a section can be sealed and verified. Sealing changes no byte but the last
four. What is written is decoded both before and after, to sections that differ in the checksum
only, which is the one of all other bytes afterwards. -/
theorem decode_resealed_of_encode {s : Section} {raw : List UInt8}
    (schedule : ∀ b, s.header.tableId = .eitSchedule b → 0x50 ≤ b ∧ b ≤ 0x6F)
    (layout : s.body.layout = s.header.tableId.layout) (he : s.encode = .ok raw) :
    Checksum.verify (Checksum.resealed raw) = true ∧
      (Checksum.resealed raw).length = raw.length ∧
      (Checksum.resealed raw).take (raw.length - 4) = raw.take (raw.length - 4) ∧
      ∃ s', decode raw = .ok s' ∧ decode (Checksum.resealed raw) =
        .ok { s' with crc := Checksum.crc (raw.take (raw.length - 4)) } := by
  obtain ⟨s', hs⟩ := exists_spelled_of_encode schedule layout he
  obtain ⟨content, rfl, hcrc⟩ := hs.with_crc
  have hl : (content ++ big32 s'.crc).length - 4 = content.length := by simp
  have hsealed := hcrc (Checksum.crc content)
  have hd := decode_append_of_spelled hs []
  have hd' := decode_append_of_spelled hsealed []
  rw [List.append_nil] at hd hd'
  rw [Checksum.resealed_append_big32, hl, List.take_left, List.take_left]
  exact ⟨hsealed.verify (Checksum.crc_append_big32 content), by simp, rfl, s', hd, hd'⟩

/-- A section with a version, a PID and a status that are too great for their bits. -/
def overfull : Section where
  header := ⟨.pmt, 0x0401, 0xFF, true, 0, 0⟩
  body := .pmt ⟨0xFFFF, [], [⟨0x1B, 0xFFFF, [⟨0x52, [0x01]⟩]⟩]⟩
  crc := 0

theorem decode_resealed_of_encode_overfull : ∃ raw, overfull.encode = .ok raw ∧
    Checksum.verify raw = false ∧ Checksum.verify (Checksum.resealed raw) = true ∧
      ∃ s', decode raw = .ok s' ∧ s' ≠ overfull ∧ decode (Checksum.resealed raw) =
        .ok { s' with crc := Checksum.crc (raw.take (raw.length - 4)) } := by
  have he : overfull.encode = .ok [0x02, 0xB0, 0x15, 0x04, 0x01, 0xFF, 0x00, 0x00,
      0xFF, 0xFF, 0xF0, 0x00, 0x1B, 0xFF, 0xFF, 0xF0, 0x03, 0x52, 0x01, 0x01,
      0x00, 0x00, 0x00, 0x00] := by decide +kernel
  obtain ⟨hv, -, -, s', hd, hd'⟩ := decode_resealed_of_encode (by rintro b ⟨⟩) rfl he
  refine ⟨_, he, by decide +kernel, hv, s', hd, ?_, hd'⟩
  rintro rfl
  revert hd
  decide +kernel

end Multiplex.Section
