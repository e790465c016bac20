import Multiplex.Proofs.Section.Rows

/-!
# Writing whole sections

The encoder of each body, and of the section around it, writes a spelling when the fields are in
range; what has a spelling is written in as many bytes. A body is too long to be written only if
it is too long for every window: the length of the rows of a NIT, which the reader does not look
at, is the one that is measured here and not taken from a spelling.

Main statements:

* `spelled_of_encode`: what is written spells the section, its durations capped;
* `Spelled.encode`: a section with a spelling is written in as many bytes;
* `encode_capped`: the durations that fields hold are written as those they stand for.
-/

namespace Multiplex.Section

open Multiplex.Wire Multiplex.Calendar

/-! ### Rows in sequence -/

theorem sequence_map {α β : Type} {F : Wire.Form α} {G : Wire.Form β} (f : α → β) {as : List α}
    {u : List UInt8} (h : Sequence F as u) (hf : ∀ a ∈ as, ∀ u, F a u → G (f a) u) :
    Sequence G (as.map f) u := by
  induction h with
  | nil => exact .nil
  | cons ha _ ih =>
      rw [List.forall_mem_cons] at hf
      exact .cons (hf.1 _ ha) (ih hf.2)

theorem sequence_mono {α : Type} {F G : Wire.Form α} {as : List α} {u : List UInt8}
    (h : Sequence F as u) (hf : ∀ a ∈ as, ∀ u, F a u → G a u) : Sequence G as u := by
  have := sequence_map (G := G) id h hf
  rwa [List.map_id] at this

theorem forall_mem_of_sequence {α : Type} {F : Wire.Form α} {P : α → Prop} {as : List α}
    {u : List UInt8} (h : Sequence F as u) (hf : ∀ a u, F a u → P a) : ∀ a ∈ as, P a := by
  induction h with
  | nil => simp
  | cons ha _ ih => exact List.forall_mem_cons.mpr ⟨hf _ _ ha, ih⟩

/-- Rows that can be written each in as many bytes can be written together so. -/
theorem exists_sequence {α : Type} {F G : Wire.Form α} {as : List α} {u : List UInt8}
    (h : Sequence F as u) (hf : ∀ a u, F a u → ∃ v, G a v ∧ v.length = u.length) :
    ∃ v, Sequence G as v ∧ v.length = u.length := by
  induction h with
  | nil => exact ⟨[], .nil, rfl⟩
  | cons ha _ ih =>
      obtain ⟨x, hx, ex⟩ := hf _ _ ha
      obtain ⟨y, hy, ey⟩ := ih
      exact ⟨x ++ y, .cons hx hy, by rw [List.length_append, List.length_append, ex, ey]⟩

/-! ### Bodies -/

theorem sequence_bytes (programs : List Program) :
    Sequence (fun p u => p.bytes = u) programs (programs.flatMap Program.bytes) := by
  induction programs with
  | nil => exact .nil
  | cons p programs ih => exact .cons rfl ih

theorem ProgramAssociation.form_bytes {t : ProgramAssociation}
    (h : ∀ p ∈ t.programs, p.pid ≤ 0x1FFF) : t.Form t.bytes := by
  refine .mk (sequence_mono (sequence_bytes t.programs) ?_)
  rintro p hp _ rfl
  exact Program.form_bytes (h p hp)

theorem ProgramAssociation.Form.length_bytes {t : ProgramAssociation} {u : List UInt8}
    (h : t.Form u) : (∀ p ∈ t.programs, p.pid ≤ 0x1FFF) ∧ t.bytes.length = u.length := by
  obtain ⟨h⟩ := h
  refine ⟨forall_mem_of_sequence h fun p u hp => ?_, ?_⟩
  · obtain ⟨id, pid⟩ := hp
    exact mod_pid_le pid
  · induction h with
    | nil => rfl
    | cons hp _ ih =>
        obtain ⟨id, pid⟩ := hp
        simp only [ProgramAssociation.bytes, List.flatMap_cons, List.length_append] at ih ⊢
        rw [ih]
        rfl

theorem encodeRows_eq_ok_iff {α : Type} {f : α → Except EncodeError (List UInt8)} {as : List α}
    (g : List UInt8 → List UInt8) {w : List UInt8} :
    (do let rows ← as.mapM f; return g rows.flatten) = Except.ok w ↔
      ∃ rows, Sequence (fun a u => f a = .ok u) as rows ∧ g rows = w := by
  rw [bind_eq_ok_iff]
  simp only [← flatten_mapM_eq_ok_iff, pure_eq_ok_iff]
  constructor
  · rintro ⟨us, h, rfl⟩
    exact ⟨_, ⟨us, h, rfl⟩, rfl⟩
  · rintro ⟨_, ⟨us, h, rfl⟩, rfl⟩
    exact ⟨us, h, rfl⟩

/-- Rows are written in as many bytes as their spellings have. -/
theorem rows_encode {α : Type} {F : Wire.Form α} {f : α → Except EncodeError (List UInt8)}
    {P : α → Prop} {as : List α} {u : List UInt8} (h : Sequence F as u)
    (hf : ∀ a u, F a u → P a ∧ ∃ v, f a = .ok v ∧ v.length = u.length) :
    (∀ a ∈ as, P a) ∧ ∃ v, Sequence (fun a w => f a = .ok w) as v ∧ v.length = u.length :=
  ⟨forall_mem_of_sequence h fun a u ha => (hf a u ha).1,
    exists_sequence h fun a u ha => (hf a u ha).2⟩

theorem ProgramMap.encode_eq_ok_iff {t : ProgramMap} {u : List UInt8} :
    t.encode = .ok u ↔
      ∃ info, encodeLoop .programInfo maxShortLoop 0xF000 t.descriptors = .ok info ∧
        ∃ rows, Sequence (fun s v => s.encode = .ok v) t.streams rows ∧
          pidWord t.clockPid ++ info ++ rows = u := by
  unfold ProgramMap.encode
  rw [bind_eq_ok_iff]
  exact exists_congr fun info => and_congr_right fun _ =>
    encodeRows_eq_ok_iff (pidWord t.clockPid ++ info ++ ·)

theorem ProgramMap.form_of_encode {t : ProgramMap} {u : List UInt8} (hp : t.clockPid ≤ 0x1FFF)
    (hs : ∀ s ∈ t.streams, s.pid ≤ 0x1FFF) (he : t.encode = .ok u) : t.Form u := by
  obtain ⟨info, hi, rows, hr, rfl⟩ := ProgramMap.encode_eq_ok_iff.mp he
  obtain ⟨pid, ds, streams⟩ := t
  obtain ⟨w, hw, rfl⟩ := exists_pidWord hp
  rw [hw]
  refine .mk w (loopForm_of_encodeLoop (by decide) (by decide) (by decide) hi)
    (sequence_mono hr fun s h v hv => ?_)
  exact ElementaryStream.form_of_encode (hs s h) hv

theorem ProgramMap.Form.encode {t : ProgramMap} {u : List UInt8} (h : t.Form u) :
    (t.clockPid ≤ 0x1FFF ∧ ∀ s ∈ t.streams, s.pid ≤ 0x1FFF) ∧
      ∃ v, t.encode = .ok v ∧ v.length = u.length := by
  obtain ⟨w, hl, hr⟩ := h
  obtain ⟨info, hi, ei⟩ := LoopForm.encodeLoop maxShortLoop hl .programInfo 0xF000
  obtain ⟨hs, rows, hv, er⟩ := rows_encode hr fun s u => ElementaryStream.Form.encode
  refine ⟨⟨mod_pid_le w, hs⟩, _, ProgramMap.encode_eq_ok_iff.mpr ⟨info, hi, rows, hv, rfl⟩, ?_⟩
  simp [pidWord, ei, er]

/-- Rows are measured together as long as they are written. -/
theorem measure_rows {streams : List TransportStream} {rows : List UInt8}
    (h : Sequence (fun s u => s.encode = .ok u) streams rows) :
    ∃ lengths, streams.mapM TransportStream.measure = .ok lengths ∧
      lengths.foldr (· + ·) 0 = rows.length := by
  induction h with
  | nil => exact ⟨[], by rw [List.mapM_nil]; rfl, rfl⟩
  | @cons s streams u v hs _ ih =>
      obtain ⟨lengths, hl, e⟩ := ih
      refine ⟨u.length :: lengths, ?_, ?_⟩
      · rw [List.mapM_cons, TransportStream.measure_of_encode hs, hl]
        rfl
      · rw [List.foldr_cons, e, List.length_append]

theorem NetworkInformation.encode_eq_ok_iff {t : NetworkInformation} {u : List UInt8} :
    t.encode = .ok u ↔
      ∃ own, encodeLoop .networkDescriptors maxLongLoop 0xF000 t.descriptors = .ok own ∧
        ∃ rows, Sequence (fun s v => s.encode = .ok v) t.streams rows ∧
          rows.length ≤ maxLongLoop ∧ own ++ lengthWord 0xF000 rows.length ++ rows = u := by
  unfold NetworkInformation.encode
  rw [bind_eq_ok_iff]
  refine exists_congr fun own => and_congr_right fun _ => ?_
  constructor
  · intro h
    obtain ⟨lengths, hl, h⟩ := bind_eq_ok_iff.mp h
    dsimp only at h
    split_ifs at h with hm
    · cases h
    · obtain ⟨rows, hr, rfl⟩ := (encodeRows_eq_ok_iff (own ++ lengthWord 0xF000 _ ++ ·)).mp h
      obtain ⟨_, hl', e⟩ := measure_rows hr
      obtain rfl := Except.ok.inj (hl.symm.trans hl')
      rw [e] at hm ⊢
      exact ⟨rows, hr, Nat.le_of_not_lt hm, rfl⟩
  · rintro ⟨rows, hr, hm, rfl⟩
    obtain ⟨lengths, hl, e⟩ := measure_rows hr
    refine bind_eq_ok_iff.mpr ⟨lengths, hl, ?_⟩
    dsimp only
    rw [e, if_neg (Nat.not_lt.mpr hm)]
    exact (encodeRows_eq_ok_iff (own ++ lengthWord 0xF000 _ ++ ·)).mpr ⟨rows, hr, rfl⟩

theorem NetworkInformation.form_of_encode {t : NetworkInformation} {u : List UInt8}
    (he : t.encode = .ok u) : t.Form u := by
  obtain ⟨own, ho, rows, hr, -, rfl⟩ := NetworkInformation.encode_eq_ok_iff.mp he
  refine .mk _ (loopForm_of_encodeLoop (by decide) (by decide) (by decide) ho)
    (sequence_mono hr fun s _ v hv => ?_)
  exact TransportStream.form_of_encode hv

/-- The rows of a spelling that is short enough fit their length field, whatever it held. -/
theorem NetworkInformation.Form.encode {t : NetworkInformation} {u : List UInt8} (h : t.Form u)
    (hu : u.length ≤ maxLength) : ∃ v, t.encode = .ok v ∧ v.length = u.length := by
  obtain ⟨ignored, hl, hr⟩ := h
  obtain ⟨own, ho, eo⟩ := LoopForm.encodeLoop maxLongLoop hl .networkDescriptors 0xF000
  obtain ⟨rows, hv, er⟩ := exists_sequence hr fun s u => TransportStream.Form.encode
  simp only [List.length_append] at hu
  refine ⟨_, NetworkInformation.encode_eq_ok_iff.mpr ⟨own, ho, rows, hv, ?_, rfl⟩, ?_⟩
  · rw [er]
    exact (Nat.le_add_left ..).trans hu
  · simp [lengthWord, eo, er]

theorem ServiceDescription.encode_eq_ok_iff {t : ServiceDescription} {u : List UInt8} :
    t.encode = .ok u ↔ ∃ rows, Sequence (fun s v => s.encode = .ok v) t.services rows ∧
      big16 t.networkId ++ 0xFF :: rows = u := by
  unfold ServiceDescription.encode
  rw [encodeRows_eq_ok_iff (big16 t.networkId ++ 0xFF :: ·)]

theorem ServiceDescription.form_of_encode {t : ServiceDescription} {u : List UInt8}
    (hs : ∀ s ∈ t.services, ∃ bits, s.status = .ofBits bits) (he : t.encode = .ok u) :
    t.Form u := by
  obtain ⟨rows, hr, rfl⟩ := ServiceDescription.encode_eq_ok_iff.mp he
  refine .mk _ _ (sequence_mono hr fun s h v hv => ?_)
  exact Service.form_of_encode (hs s h) hv

theorem ServiceDescription.Form.encode {t : ServiceDescription} {u : List UInt8} (h : t.Form u) :
    (∀ s ∈ t.services, ∃ bits, s.status = .ofBits bits) ∧
      ∃ v, t.encode = .ok v ∧ v.length = u.length := by
  obtain ⟨network, ignored, hr⟩ := h
  obtain ⟨hs, rows, hv, er⟩ := rows_encode hr fun s u => Service.Form.encode
  refine ⟨hs, _, ServiceDescription.encode_eq_ok_iff.mpr ⟨rows, hv, rfl⟩, ?_⟩
  simp [er]

/-- The events with the durations that their fields hold. -/
def EventInformation.capped (t : EventInformation) : EventInformation :=
  { t with events := t.events.map Event.capped }

theorem EventInformation.encode_eq_ok_iff {t : EventInformation} {u : List UInt8} :
    t.encode = .ok u ↔ ∃ rows, Sequence (fun e v => e.encode = .ok v) t.events rows ∧
      big16 t.streamId ++ big16 t.networkId ++ t.lastSection :: t.lastTable :: rows = u := by
  unfold EventInformation.encode
  rw [encodeRows_eq_ok_iff
    (big16 t.streamId ++ big16 t.networkId ++ t.lastSection :: t.lastTable :: ·)]

theorem EventInformation.form_of_encode {t : EventInformation} {u : List UInt8}
    (hs : ∀ e ∈ t.events, e.Writable) (he : t.encode = .ok u) : t.capped.Form u := by
  obtain ⟨rows, hr, rfl⟩ := EventInformation.encode_eq_ok_iff.mp he
  refine .mk _ _ _ _ (sequence_map Event.capped hr fun e h v hv => ?_)
  exact Event.form_of_encode (hs e h) hv

theorem EventInformation.Form.encode {t : EventInformation} {u : List UInt8} (h : t.Form u) :
    (∀ e ∈ t.events, e.Writable) ∧ ∃ v, t.encode = .ok v ∧ v.length = u.length := by
  obtain ⟨stream, network, lastSection, lastTable, hr⟩ := h
  obtain ⟨hs, rows, hv, er⟩ := rows_encode hr fun e u => Event.Form.encode
  refine ⟨hs, _, EventInformation.encode_eq_ok_iff.mpr ⟨rows, hv, rfl⟩, ?_⟩
  simp [er]

theorem EventInformation.encode_capped (t : EventInformation) : t.capped.encode = t.encode := by
  have e : ∀ events : List Event, (events.map Event.capped).mapM Event.encode =
      events.mapM Event.encode := by
    intro events
    induction events with
    | nil => rfl
    | cons e events ih =>
        rw [List.map_cons, List.mapM_cons, List.mapM_cons, ih, Event.encode_capped]
  unfold EventInformation.encode
  rw [show t.capped.events.mapM Event.encode = _ from e t.events]
  rfl

/-- What a body's fields must keep to be written as they can be read, where `E` is asked of its
events. -/
def Body.InRange (E : Event → Prop) : Body → Prop
  | .pat t => ∀ p ∈ t.programs, p.pid ≤ 0x1FFF
  | .pmt t => t.clockPid ≤ 0x1FFF ∧ ∀ s ∈ t.streams, s.pid ≤ 0x1FFF
  | .nit _ => True
  | .sdt t => ∀ s ∈ t.services, ∃ bits, s.status = .ofBits bits
  | .eit t => ∀ e ∈ t.events, E e

/-- The body with the durations that its fields hold. -/
def Body.capped : Body → Body
  | .eit t => .eit t.capped
  | b => b

theorem Body.form_of_encode {b : Body} {u : List UInt8} (h : b.InRange Event.Writable)
    (he : b.encode = .ok u) : b.capped.Form b.layout u := by
  cases b with
  | pat t =>
      obtain rfl := Except.ok.inj he
      exact .pat (ProgramAssociation.form_bytes h)
  | pmt t => exact .pmt (ProgramMap.form_of_encode h.1 h.2 he)
  | nit t => exact .nit (NetworkInformation.form_of_encode he)
  | sdt t => exact .sdt (ServiceDescription.form_of_encode h he)
  | eit t => exact .eit (EventInformation.form_of_encode h he)

theorem Body.Form.encode {layout : Layout} {b : Body} {u : List UInt8} (h : b.Form layout u)
    (hu : u.length ≤ maxLength) : b.layout = layout ∧ b.InRange Event.Writable ∧
      ∃ v, b.encode = .ok v ∧ v.length = u.length := by
  cases h with
  | pat h => exact ⟨rfl, h.length_bytes.1, _, rfl, h.length_bytes.2⟩
  | pmt h => exact ⟨rfl, h.encode⟩
  | nit h => exact ⟨rfl, trivial, h.encode hu⟩
  | sdt h => exact ⟨rfl, h.encode⟩
  | eit h => exact ⟨rfl, h.encode⟩

theorem Body.encode_capped (b : Body) : b.capped.encode = b.encode := by
  cases b with
  | eit t => exact EventInformation.encode_capped t
  | _ => rfl

/-! ### Whole sections -/

theorem TableId.ofByte?_byte {t : TableId} (h : ∀ b, t = .eitSchedule b → 0x50 ≤ b ∧ b ≤ 0x6F) :
    ofByte? t.byte = some t := by
  cases t with
  | eitSchedule b =>
      have hb := h b rfl
      have hn : ∀ c : UInt8, c < 0x50 → b ≠ c := by
        rintro c hc rfl
        exact UInt8.lt_irrefl _ (UInt8.lt_of_le_of_lt hb.1 hc)
      unfold ofByte? byte
      dsimp only
      rw [if_neg (hn _ (by decide)), if_neg (hn _ (by decide)), if_neg (hn _ (by decide)),
        if_neg (hn _ (by decide)), if_neg (hn _ (by decide)), if_neg (hn _ (by decide)),
        if_neg (hn _ (by decide)), if_neg (hn _ (by decide)), if_pos hb]
  | _ => rfl

theorem TableId.schedule_of_ofByte? {b c : UInt8} (h : ofByte? b = some (.eitSchedule c)) :
    0x50 ≤ c ∧ c ≤ 0x6F := by
  unfold ofByte? at h
  split_ifs at h <;> cases h
  assumption

/-- The length word of a section holds its length. -/
theorem TableId.toNat_lengthWord_mod (t : TableId) {length : Nat} (hl : length ≤ maxLength) :
    (UInt16.ofNat (t.lengthFlags + length)).toNat % 0x1000 = length := by
  simp only [maxLength] at hl
  have hf : t.lengthFlags = 0xB000 ∨ t.lengthFlags = 0xF000 := by cases t <;> simp [lengthFlags]
  exact toNat_flags_add_mod (by omega) (by omega) (by omega)

theorem exists_headerFlags {version : UInt8} (current : Bool) (h : version ≤ 31) :
    ∃ b : UInt8, .ofNat (0xC0 + version.toNat % 32 * 2 + current.toNat) = b ∧
      b / 2 % 32 = version ∧ decide (b.toNat % 2 = 1) = current := by
  rw [UInt8.le_iff_toNat_le] at h
  have hv : version.toNat ≤ 31 := h
  have hc : current.toNat < 2 := Bool.toNat_lt current
  have e : (UInt8.ofNat (0xC0 + version.toNat % 32 * 2 + current.toNat)).toNat =
      0xC0 + version.toNat * 2 + current.toNat := by
    rw [UInt8.toNat_ofNat']
    omega
  refine ⟨_, rfl, ?_, ?_⟩
  · rw [← UInt8.toNat_inj, UInt8.toNat_mod, UInt8.toNat_div, e]
    change (0xC0 + version.toNat * 2 + current.toNat) / 2 % 32 = version.toNat
    omega
  · rw [e, show (0xC0 + version.toNat * 2 + current.toNat) % 2 = current.toNat by omega]
    cases current <;> rfl

theorem Header.form_bytes {h : Header} (hv : h.version ≤ 31) : h.Form h.tableId h.bytes := by
  obtain ⟨tableId, id, version, isCurrent, number, lastNumber⟩ := h
  obtain ⟨flags, hb, hv, hc⟩ := exists_headerFlags isCurrent hv
  dsimp only [bytes] at *
  rw [hb, ← hv, ← hc]
  exact .mk id flags number lastNumber

theorem Header.Form.fields {tableId : TableId} {h : Header} {u : List UInt8}
    (hh : h.Form tableId u) : h.tableId = tableId ∧ h.version ≤ 31 ∧ u.length = h.bytes.length := by
  obtain ⟨id, flags, number, lastNumber⟩ := hh
  refine ⟨rfl, ?_, rfl⟩
  rw [UInt8.le_iff_toNat_le]
  simp
  omega

theorem encode_eq_ok_iff {s : Section} {raw : List UInt8} :
    s.encode = .ok raw ↔ ∃ rows, s.body.encode = .ok rows ∧
      (s.header.bytes ++ rows ++ big32 s.crc).length ≤ maxLength ∧
        s.header.tableId.byte :: lengthWord s.header.tableId.lengthFlags
          (s.header.bytes ++ rows ++ big32 s.crc).length ++
            (s.header.bytes ++ rows ++ big32 s.crc) = raw := by
  unfold encode
  rw [bind_eq_ok_iff]
  refine exists_congr fun rows => and_congr_right fun _ => ?_
  rw [bind_eq_ok_iff]
  simp only [fit_eq_ok_iff, pure_eq_ok_iff]
  constructor
  · rintro ⟨_, ⟨h, rfl⟩, rfl⟩
    exact ⟨h, rfl⟩
  · rintro ⟨h, rfl⟩
    exact ⟨_, ⟨h, rfl⟩, rfl⟩

/-- What the fields of a section must keep to be written as they can be read, where `E` is asked of
its events. -/
structure InRange (E : Event → Prop) (s : Section) : Prop where
  schedule : ∀ b, s.header.tableId = .eitSchedule b → 0x50 ≤ b ∧ b ≤ 0x6F
  layout : s.body.layout = s.header.tableId.layout
  version : s.header.version ≤ 31
  body : s.body.InRange E

/-- The section with the durations that its fields hold. -/
def capped (s : Section) : Section := { s with body := s.body.capped }

/-- What is written is a spelling of the section, but for the durations that no field holds. -/
theorem spelled_of_encode {s : Section} {raw : List UInt8} (h : s.InRange Event.Writable)
    (he : s.encode = .ok raw) : Spelled s.capped raw := by
  obtain ⟨rows, hr, hl, rfl⟩ := encode_eq_ok_iff.mp he
  obtain ⟨header, body, crc⟩ := s
  obtain ⟨schedule, layout, version, hb⟩ := h
  dsimp only at *
  have hb := Body.form_of_encode hb hr
  rw [layout] at hb
  generalize hn : (header.bytes ++ rows ++ big32 crc).length = n at hl ⊢
  refine .mk (TableId.ofByte?_byte schedule) (Header.form_bytes version) hb ?_
  rw [hn, TableId.toNat_lengthWord_mod header.tableId hl]

/-- A section with a spelling is written, and in as many bytes. -/
theorem Spelled.encode {s : Section} {window : List UInt8} (h : Spelled s window) :
    s.InRange Event.Writable ∧ ∃ raw, s.encode = .ok raw ∧ raw.length = window.length := by
  cases h with
  | @mk byte tableId word header body crc front rows known hh hb measured =>
      obtain ⟨rfl, hv, hf⟩ := hh.fields
      have hm : word.toNat % 0x1000 ≤ maxLength := Nat.lt_succ_iff.mp (Nat.mod_lt _ (by decide))
      simp only [List.length_append] at measured
      obtain ⟨layout, hb, bytes, he, hl⟩ := hb.encode (by omega)
      have e : (header.bytes ++ bytes ++ big32 crc).length =
          (front ++ rows ++ big32 crc).length := by
        simp only [List.length_append, hl, hf]
      refine ⟨⟨?_, layout, hv, hb⟩, _, encode_eq_ok_iff.mpr ⟨bytes, he, ?_, rfl⟩, ?_⟩
      · rintro b (hs : header.tableId = _)
        rw [hs] at known
        exact TableId.schedule_of_ofByte? known
      · rw [e]
        simp only [List.length_append]
        omega
      · simp [lengthWord, hl, hf]

theorem encode_capped (s : Section) : s.capped.encode = s.encode := by
  unfold encode
  rw [show s.capped.body.encode = s.body.encode from Body.encode_capped s.body]
  rfl

end Multiplex.Section
