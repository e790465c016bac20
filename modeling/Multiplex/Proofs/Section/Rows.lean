import Multiplex.Proofs.Section.Grammar
import Multiplex.Section.Writer

/-!
# Writing the rows of a section

The encoder of a row writes one of the spellings of the row, the one with its reserved bits set,
and fails only where a part is too long for its length field. A row that has a spelling is always
written, in as many bytes as the spelling has: a field of `n` bits announces no more than `n` bits
hold.

Main statements, for each kind of row:

* `form_of_encode`: what is written spells the row, for an event with its duration capped;
* `Form.encode`: a row with a spelling is written in as many bytes.
-/

namespace Multiplex.Section

open Multiplex.Wire Multiplex.Calendar

variable {α β ε : Type}

/-! ### Encoders that succeed -/

theorem bind_eq_ok_iff {x : Except ε α} {f : α → Except ε β} {b : β} :
    (x >>= f) = .ok b ↔ ∃ a, x = .ok a ∧ f a = .ok b := by
  cases x with
  | error e => simp [bind, Except.bind]
  | ok a => simp [bind, Except.bind]

theorem pure_eq_ok_iff {a b : α} : (pure a : Except ε α) = .ok b ↔ a = b := by
  simp [pure, Except.pure]

/-- Rows written one after the other. -/
theorem flatten_mapM_eq_ok_iff {f : α → Except ε (List UInt8)} {as : List α} {w : List UInt8} :
    (∃ us, as.mapM f = .ok us ∧ us.flatten = w) ↔ Sequence (fun a u => f a = .ok u) as w := by
  induction as generalizing w with
  | nil =>
      constructor
      · rintro ⟨us, h, rfl⟩
        rw [List.mapM_nil, pure_eq_ok_iff] at h
        rw [← h]
        exact .nil
      · intro h
        cases h
        exact ⟨[], by rw [List.mapM_nil]; rfl, rfl⟩
  | cons a as ih =>
      constructor
      · rintro ⟨us, h, rfl⟩
        rw [List.mapM_cons, bind_eq_ok_iff] at h
        obtain ⟨u, hu, h⟩ := h
        obtain ⟨vs, hv, h⟩ := bind_eq_ok_iff.mp h
        rw [← pure_eq_ok_iff.mp h]
        exact .cons hu (ih.mp ⟨vs, hv, rfl⟩)
      · intro h
        cases h with
        | @cons _ _ u v hu hs =>
            obtain ⟨vs, hv, rfl⟩ := ih.mpr hs
            refine ⟨u :: vs, ?_, rfl⟩
            rw [List.mapM_cons, hu, hv]
            rfl

theorem fit_eq_ok_iff {part : Part} {limit : Nat} {bytes u : List UInt8} :
    fit part limit bytes = .ok u ↔ bytes.length ≤ limit ∧ bytes = u := by
  unfold fit
  split_ifs with h
  · simp
    omega
  · simp
    omega

/-! ### Descriptor loops -/

theorem Descriptor.encode_eq_ok_iff {d : Descriptor} {u : List UInt8} :
    d.encode = .ok u ↔ d.Form u := by
  unfold Descriptor.encode
  rw [bind_eq_ok_iff]
  constructor
  · rintro ⟨_, hf, h⟩
    obtain ⟨hl, -⟩ := fit_eq_ok_iff.mp hf
    rw [← pure_eq_ok_iff.mp h]
    refine .mk ?_
    simp [maxPayload] at hl ⊢
    omega
  · rintro ⟨fits⟩
    rename_i tag length payload
    refine ⟨payload, fit_eq_ok_iff.mpr ⟨?_, rfl⟩, ?_⟩
    · have := length.toNat_lt
      simp [maxPayload]
      omega
    · rw [pure_eq_ok_iff]
      simp [Descriptor.bytes, fits]

theorem encodeDescriptors_eq_ok_iff {ds : List Descriptor} {w : List UInt8} :
    encodeDescriptors ds = .ok w ↔ Sequence Descriptor.Form ds w := by
  have e : (fun (d : Descriptor) u => d.encode = .ok u) = Descriptor.Form := by
    funext d u
    exact propext Descriptor.encode_eq_ok_iff
  rw [← e, ← flatten_mapM_eq_ok_iff]
  unfold encodeDescriptors
  rw [bind_eq_ok_iff]
  simp only [pure_eq_ok_iff]

theorem encodeLoop_eq_ok_iff {part : Part} {limit flags : Nat} {ds : List Descriptor}
    {u : List UInt8} :
    encodeLoop part limit flags ds = .ok u ↔ ∃ records, Filled records.length ds records ∧
      records.length ≤ limit ∧ u = lengthWord flags records.length ++ records := by
  unfold encodeLoop
  rw [bind_eq_ok_iff]
  constructor
  · rintro ⟨records, hd, h⟩
    obtain ⟨_, hf, h⟩ := bind_eq_ok_iff.mp h
    obtain ⟨hl, rfl⟩ := fit_eq_ok_iff.mp hf
    exact ⟨records, ⟨rfl, encodeDescriptors_eq_ok_iff.mp hd⟩, hl, (pure_eq_ok_iff.mp h).symm⟩
  · rintro ⟨records, ⟨-, hd⟩, hl, rfl⟩
    exact ⟨records, encodeDescriptors_eq_ok_iff.mpr hd, bind_eq_ok_iff.mpr
      ⟨records, fit_eq_ok_iff.mpr ⟨hl, rfl⟩, rfl⟩⟩

/-- A word of flags and a length holds the length. -/
theorem toNat_flags_add_mod {flags length modulus : Nat} (hl : length < modulus)
    (hf : flags % modulus = 0) (hw : flags + length < 0x10000) :
    (UInt16.ofNat (flags + length)).toNat % modulus = length := by
  have e : (UInt16.ofNat (flags + length)).toNat = flags + length := Nat.mod_eq_of_lt hw
  rw [e, Nat.add_mod, hf, Nat.zero_add, Nat.mod_mod, Nat.mod_eq_of_lt hl]

theorem loopForm_of_encodeLoop {part : Part} {limit flags modulus : Nat} {ds : List Descriptor}
    {u : List UInt8} (hm : limit < modulus) (hf : flags % modulus = 0)
    (hw : flags + limit < 0x10000) (h : encodeLoop part limit flags ds = .ok u) :
    LoopForm modulus ds u := by
  obtain ⟨records, hr, hl, rfl⟩ := encodeLoop_eq_ok_iff.mp h
  refine .mk ?_
  rw [toNat_flags_add_mod (by omega) hf (by omega)]
  exact hr

theorem Filled.encodeLoop {n limit : Nat} {ds : List Descriptor} {records : List UInt8}
    (h : Filled n ds records) (hn : n ≤ limit) (part : Part) (flags : Nat) :
    ∃ u, encodeLoop part limit flags ds = .ok u ∧ u.length = 2 + records.length := by
  refine ⟨_, encodeLoop_eq_ok_iff.mpr ⟨records, ⟨rfl, h.2⟩, h.1.trans_le hn, rfl⟩, ?_⟩
  rw [List.length_append, lengthWord, length_big16]

theorem LoopForm.encodeLoop (limit : Nat) {ds : List Descriptor} {u : List UInt8}
    (h : LoopForm (limit + 1) ds u) (part : Part) (flags : Nat) :
    ∃ v, encodeLoop part limit flags ds = .ok v ∧ v.length = u.length := by
  obtain ⟨filled⟩ := h
  obtain ⟨v, hv, hl⟩ :=
    filled.encodeLoop (Nat.lt_succ_iff.mp (Nat.mod_lt _ limit.succ_pos)) part flags
  exact ⟨v, hv, by rw [hl, List.length_append, length_big16]⟩

/-! ### Rows with a PID -/

theorem exists_pidWord {pid : UInt16} (h : pid ≤ 0x1FFF) :
    ∃ w : UInt16, pidWord pid = big16 w ∧ w % 0x2000 = pid := by
  refine ⟨_, rfl, ?_⟩
  rw [UInt16.le_iff_toNat_le] at h
  rw [← UInt16.toNat_inj]
  simp at h ⊢
  omega

theorem mod_pid_le (w : UInt16) : w % 0x2000 ≤ 0x1FFF := by
  rw [UInt16.le_iff_toNat_le]
  simp
  omega

theorem Program.form_bytes {p : Program} (h : p.pid ≤ 0x1FFF) : p.Form p.bytes := by
  obtain ⟨id, pid⟩ := p
  obtain ⟨w, hw, rfl⟩ := exists_pidWord h
  rw [Program.bytes, hw]
  exact .mk id w

theorem ElementaryStream.encode_eq_ok_iff {s : ElementaryStream} {u : List UInt8} :
    s.encode = .ok u ↔ ∃ loop, encodeLoop .streamInfo maxShortLoop 0xF000 s.descriptors = .ok loop ∧
      s.streamType :: pidWord s.pid ++ loop = u := by
  unfold ElementaryStream.encode
  simp only [bind_eq_ok_iff, pure_eq_ok_iff]

theorem ElementaryStream.form_of_encode {s : ElementaryStream} {u : List UInt8} (h : s.pid ≤ 0x1FFF)
    (he : s.encode = .ok u) : s.Form u := by
  obtain ⟨loop, hl, rfl⟩ := ElementaryStream.encode_eq_ok_iff.mp he
  obtain ⟨streamType, pid, ds⟩ := s
  obtain ⟨w, hw, rfl⟩ := exists_pidWord h
  rw [hw]
  exact .mk streamType w (loopForm_of_encodeLoop (by decide) (by decide) (by decide) hl)

theorem ElementaryStream.Form.encode {s : ElementaryStream} {u : List UInt8} (h : s.Form u) :
    s.pid ≤ 0x1FFF ∧ ∃ v, s.encode = .ok v ∧ v.length = u.length := by
  obtain ⟨streamType, w, hl⟩ := h
  obtain ⟨v, hv, e⟩ := LoopForm.encodeLoop maxShortLoop hl .streamInfo 0xF000
  refine ⟨mod_pid_le w, _, ElementaryStream.encode_eq_ok_iff.mpr ⟨v, hv, rfl⟩, ?_⟩
  simp [pidWord, e]

/-! ### Rows of a network -/

theorem TransportStream.encode_eq_ok_iff {s : TransportStream} {u : List UInt8} :
    s.encode = .ok u ↔
      ∃ loop, encodeLoop .transportDescriptors maxLongLoop 0xF000 s.descriptors = .ok loop ∧
        big16 s.id ++ big16 s.originalNetworkId ++ loop = u := by
  unfold TransportStream.encode
  simp only [bind_eq_ok_iff, pure_eq_ok_iff]

theorem TransportStream.form_of_encode {s : TransportStream} {u : List UInt8}
    (he : s.encode = .ok u) : s.Form u := by
  obtain ⟨loop, hl, rfl⟩ := TransportStream.encode_eq_ok_iff.mp he
  exact .mk s.id s.originalNetworkId (loopForm_of_encodeLoop (by decide) (by decide) (by decide) hl)

theorem TransportStream.Form.encode {s : TransportStream} {u : List UInt8} (h : s.Form u) :
    ∃ v, s.encode = .ok v ∧ v.length = u.length := by
  obtain ⟨id, network, hl⟩ := h
  obtain ⟨v, hv, e⟩ := LoopForm.encodeLoop maxLongLoop hl .transportDescriptors 0xF000
  refine ⟨_, TransportStream.encode_eq_ok_iff.mpr ⟨v, hv, rfl⟩, ?_⟩
  simp [e]

/-- A row is measured as long as it is written. -/
theorem TransportStream.measure_of_encode {s : TransportStream} {u : List UInt8}
    (h : s.encode = .ok u) : s.measure = .ok u.length := by
  obtain ⟨loop, hl, rfl⟩ := TransportStream.encode_eq_ok_iff.mp h
  obtain ⟨records, ⟨-, hr⟩, -, rfl⟩ := encodeLoop_eq_ok_iff.mp hl
  unfold TransportStream.measure
  rw [encodeDescriptors_eq_ok_iff.mpr hr, bind_eq_ok_iff]
  refine ⟨_, rfl, ?_⟩
  rw [pure_eq_ok_iff]
  simp [lengthWord]
  omega

/-! ### Rows with a status -/

theorem RunningStatus.bits_ofBits (b : UInt8) : (RunningStatus.ofBits b).bits = b % 8 := by
  have hb : (b % 8).toNat < 8 := by
    simp
    omega
  have e : b % 8 % 8 = b % 8 := by
    rw [← UInt8.toNat_inj]
    simp
  have h : b % 8 = .ofNat (b % 8).toNat := UInt8.ofNat_toNat.symm
  unfold RunningStatus.ofBits
  split
  case h_7 => exact e
  all_goals
    rename_i h'
    rw [h, h']
    rfl

theorem RunningStatus.ofBits_mod (b : UInt8) : RunningStatus.ofBits (b % 8) = .ofBits b := by
  have e : b % 8 % 8 = b % 8 := by
    rw [← UInt8.toNat_inj]
    simp
  unfold RunningStatus.ofBits
  rw [e]

/-- The word of a status, a scrambling bit and a length holds all three. -/
theorem exists_statusWord {status : RunningStatus} (scrambled : Bool) {length : Nat}
    (hs : ∃ bits, status = .ofBits bits) (hl : length ≤ maxLongLoop) :
    ∃ w : UInt16, lengthWord (statusFlags status scrambled) length = big16 w ∧
      .ofBits (.ofNat (w.toNat / 0x2000)) = status ∧
      decide (w.toNat / 0x1000 % 2 = 1) = scrambled ∧ w.toNat % 0x1000 = length := by
  refine ⟨_, rfl, ?_⟩
  obtain ⟨b, rfl⟩ := hs
  have hb : (b % 8).toNat < 8 := by
    simp
    omega
  have hc : scrambled.toNat < 2 := Bool.toNat_lt scrambled
  simp only [maxLongLoop] at hl
  have e : (UInt16.ofNat (statusFlags (.ofBits b) scrambled + length)).toNat =
      (b % 8).toNat * 0x2000 + scrambled.toNat * 0x1000 + length := by
    rw [UInt16.toNat_ofNat', statusFlags, RunningStatus.bits_ofBits]
    omega
  rw [e]
  refine ⟨?_, ?_, by omega⟩
  · rw [show ((b % 8).toNat * 0x2000 + scrambled.toNat * 0x1000 + length) / 0x2000 =
      (b % 8).toNat by omega, UInt8.ofNat_toNat, RunningStatus.ofBits_mod]
  · rw [show ((b % 8).toNat * 0x2000 + scrambled.toNat * 0x1000 + length) / 0x1000 % 2 =
      scrambled.toNat by omega]
    cases scrambled <;> rfl

theorem RunningStatus.bits_lt (status : RunningStatus) : status.bits.toNat < 8 := by
  cases status with
  | reserved b =>
      simp only [bits, UInt8.toNat_mod]
      exact Nat.mod_lt _ (by decide)
  | _ => decide

/-- The loop of a row with a status can be read, whatever the status. -/
theorem loopForm_of_statusLoop {part : Part} {status : RunningStatus} {scrambled : Bool}
    {ds : List Descriptor} {u : List UInt8}
    (h : encodeLoop part maxLongLoop (statusFlags status scrambled) ds = .ok u) :
    LoopForm 0x1000 ds u := by
  have hs := status.bits_lt
  have hc : scrambled.toNat < 2 := Bool.toNat_lt scrambled
  refine loopForm_of_encodeLoop (by decide) ?_ ?_ h
  · unfold statusFlags
    omega
  · unfold statusFlags maxLongLoop
    omega

theorem Service.encode_eq_ok_iff {s : Service} {u : List UInt8} :
    s.encode = .ok u ↔ ∃ loop, encodeLoop .serviceDescriptors maxLongLoop
      (statusFlags s.status s.scrambled) s.descriptors = .ok loop ∧
        big16 s.id ++ .ofNat (0xFC + s.hasSchedule.toNat * 2 + s.hasFollowing.toNat) :: loop =
          u := by
  unfold Service.encode
  simp only [bind_eq_ok_iff, pure_eq_ok_iff]

theorem exists_serviceFlags (schedule following : Bool) :
    ∃ b : UInt8, .ofNat (0xFC + schedule.toNat * 2 + following.toNat) = b ∧
      decide (b.toNat / 2 % 2 = 1) = schedule ∧ decide (b.toNat % 2 = 1) = following := by
  refine ⟨_, rfl, ?_, ?_⟩ <;> cases schedule <;> cases following <;> rfl

theorem Service.form_of_encode {s : Service} {u : List UInt8} (h : ∃ bits, s.status = .ofBits bits)
    (he : s.encode = .ok u) : s.Form u := by
  obtain ⟨loop, hl, rfl⟩ := Service.encode_eq_ok_iff.mp he
  obtain ⟨records, hr, hn, rfl⟩ := encodeLoop_eq_ok_iff.mp hl
  obtain ⟨id, hasSchedule, hasFollowing, status, scrambled, ds⟩ := s
  obtain ⟨w, hw, hs, hc, hn⟩ := exists_statusWord scrambled h hn
  dsimp only at *
  rw [hw, ← hs, ← hc]
  rw [← hn] at hr
  obtain ⟨flags, hb, hp, hq⟩ := exists_serviceFlags hasSchedule hasFollowing
  rw [hb, ← hp, ← hq]
  rw [← List.cons_append, ← List.append_assoc]
  exact .mk id flags w hr

theorem Service.Form.encode {s : Service} {u : List UInt8} (h : s.Form u) :
    (∃ bits, s.status = .ofBits bits) ∧ ∃ v, s.encode = .ok v ∧ v.length = u.length := by
  obtain ⟨id, flags, word, hr⟩ := h
  obtain ⟨v, hv, e⟩ := hr.encodeLoop (Nat.lt_succ_iff.mp (Nat.mod_lt _ maxLongLoop.succ_pos))
    .serviceDescriptors _
  refine ⟨⟨_, rfl⟩, _, Service.encode_eq_ok_iff.mpr ⟨v, hv, rfl⟩, ?_⟩
  simp [e]

/-- What an event must keep to be written as it can be read: its start has a field, its duration is
of whole seconds, and its status has bits. -/
def Event.Writable (e : Event) : Prop :=
  (StartField.encode e.start).Names e.start ∧ e.duration.nanos = 0 ∧
    ∃ bits, e.status = .ofBits bits

/-- The event with the duration that its field holds. -/
def Event.capped (e : Event) : Event := { e with duration := e.duration.capped }

theorem Event.encode_eq_ok_iff {e : Event} {u : List UInt8} :
    e.encode = .ok u ↔ ∃ loop, encodeLoop .eventDescriptors maxLongLoop
      (statusFlags e.status e.scrambled) e.descriptors = .ok loop ∧
        big16 e.id ++ (StartField.encode e.start).bytes ++
          (DurationField.encode e.duration).bytes ++ loop = u := by
  unfold Event.encode
  simp only [bind_eq_ok_iff, pure_eq_ok_iff]

theorem Event.form_of_encode {e : Event} {u : List UInt8} (h : e.Writable)
    (he : e.encode = .ok u) : e.capped.Form u := by
  obtain ⟨loop, hl, rfl⟩ := Event.encode_eq_ok_iff.mp he
  obtain ⟨records, hr, hn, rfl⟩ := encodeLoop_eq_ok_iff.mp hl
  obtain ⟨id, start, duration, status, scrambled, ds⟩ := e
  obtain ⟨names, whole, h⟩ := h
  obtain ⟨w, hw, hs, hc, hn⟩ := exists_statusWord scrambled h hn
  dsimp only [Event.capped] at *
  rw [hw, ← hs, ← hc, ← DurationField.decode_encode whole, ← List.append_assoc]
  rw [← hn] at hr
  exact .mk id (.encode duration) w names hr

theorem Event.Form.encode {e : Event} {u : List UInt8} (h : e.Form u) :
    e.Writable ∧ ∃ v, e.encode = .ok v ∧ v.length = u.length := by
  obtain ⟨id, duration, word, names, hr⟩ := h
  rename_i field start ds records
  obtain ⟨v, hv, e⟩ := hr.encodeLoop (Nat.lt_succ_iff.mp (Nat.mod_lt _ maxLongLoop.succ_pos))
    .eventDescriptors _
  refine ⟨⟨?_, rfl, _, rfl⟩, _, Event.encode_eq_ok_iff.mpr ⟨v, hv, rfl⟩, ?_⟩
  · dsimp only
    rw [names.encode_eq]
    exact names
  · simp [e, StartField.bytes, DurationField.bytes]

theorem Event.encode_capped (e : Event) : e.capped.encode = e.encode := by
  unfold Event.encode
  rw [show DurationField.encode e.capped.duration = .encode e.duration from
    DurationField.encode_capped e.duration]
  rfl

end Multiplex.Section
