import Multiplex.Proofs.Section.Writing

/-!
# What fits

The parts of a section are measured in the order in which they are written: the payloads of a loop
before the loop, all rows of a network before the first of them is written, and the section in the
end. A section is refused for the first part that is too long, and for nothing else. So when it is
written, no length was cut off by its field: each holds the number of the bytes that it covers.

Main statements:

* `measured_of_encode`: every length field of a written section holds what it covers;
* `encode_refused_iff`: a section is refused for the first part that is too long, and only then.
-/

namespace Multiplex.Section

open Multiplex.Wire Multiplex.Calendar

variable {α β : Type}

/-! ### Measures -/

/-- A part of a section with its length, and the greatest length that fits. -/
structure Measure where
  part : Part
  length : Nat
  limit : Nat

namespace Measure

/-- Whether the part is too long. -/
def exceeds (m : Measure) : Bool := m.limit < m.length

/-- The refusal of the part. -/
def refusal (m : Measure) : EncodeError := .tooLong m.part m.length m.limit

@[simp] theorem exceeds_iff {m : Measure} : m.exceeds = true ↔ m.limit < m.length := by
  simp [exceeds]

end Measure

/-- The bytes of the records of a loop. -/
def loopSize (ds : List Descriptor) : Nat := (ds.map fun d => 2 + d.payload.length).sum

/-- The payloads of a loop. -/
def payloadMeasures (ds : List Descriptor) : List Measure :=
  ds.map fun d => ⟨.descriptorPayload, d.payload.length, 255⟩

/-- The payloads of a loop, and the loop. -/
def loopMeasures (part : Part) (limit : Nat) (ds : List Descriptor) : List Measure :=
  payloadMeasures ds ++ [⟨part, loopSize ds, limit⟩]

/-- The bytes of a row of a NIT. -/
def TransportStream.size (s : TransportStream) : Nat := 6 + loopSize s.descriptors

namespace Body

/-- What is measured of a body, in the order of writing. -/
def measures : Body → List Measure
  | .pat _ => []
  | .pmt t => loopMeasures .programInfo 1023 t.descriptors ++
      t.streams.flatMap fun s => loopMeasures .streamInfo 1023 s.descriptors
  | .nit t => loopMeasures .networkDescriptors 4095 t.descriptors ++
      (t.streams.flatMap (fun s => payloadMeasures s.descriptors) ++
        ⟨.transportStreamLoop, (t.streams.map (·.size)).sum, 4095⟩ ::
          t.streams.flatMap fun s => loopMeasures .transportDescriptors 4095 s.descriptors)
  | .sdt t => t.services.flatMap fun s => loopMeasures .serviceDescriptors 4095 s.descriptors
  | .eit t => t.events.flatMap fun e => loopMeasures .eventDescriptors 4095 e.descriptors

/-- The bytes of a body. -/
def size : Body → Nat
  | .pat t => 4 * t.programs.length
  | .pmt t => 4 + loopSize t.descriptors +
      (t.streams.map fun s => 5 + loopSize s.descriptors).sum
  | .nit t => 4 + loopSize t.descriptors + (t.streams.map (·.size)).sum
  | .sdt t => 3 + (t.services.map fun s => 5 + loopSize s.descriptors).sum
  | .eit t => 6 + (t.events.map fun e => 12 + loopSize e.descriptors).sum

end Body

/-- What is measured of a section, in the order of writing. The length of a section counts the bytes
behind its length field: five of the header, the body, and four of the checksum. -/
def measures (s : Section) : List Measure :=
  s.body.measures ++ [⟨.section, 5 + s.body.size + 4, 4095⟩]

/-! ### Refusals -/

/-- `x` fails for the first of some measures that is over its limit, and for nothing else. -/
def RefusedFor (ms : List Measure) (x : Except EncodeError α) : Prop :=
  ∀ e, x = .error e ↔ ∃ m, ms.find? (·.exceeds) = some m ∧ m.refusal = e

namespace RefusedFor

variable {ms ns : List Measure} {x : Except EncodeError α}

theorem find?_eq_none {a : α} (h : RefusedFor ms (.ok a)) : ms.find? (·.exceeds) = none := by
  cases hm : ms.find? (·.exceeds) with
  | none => rfl
  | some m => exact absurd ((h m.refusal).mpr ⟨m, hm, rfl⟩) (by simp)

theorem ok (a : α) : RefusedFor [] (.ok a) := by
  intro e
  simp

theorem bind {f : α → Except EncodeError β} (hx : RefusedFor ms x)
    (hf : ∀ a, x = .ok a → RefusedFor ns (f a)) : RefusedFor (ms ++ ns) (x >>= f) := by
  intro e
  rw [List.find?_append]
  cases x with
  | ok a =>
      rw [hx.find?_eq_none]
      exact hf a rfl e
  | error e' =>
      obtain ⟨m, hm, rfl⟩ := (hx e').mp rfl
      rw [hm]
      simp [Bind.bind, Except.bind]

/-- What follows without being measured. -/
theorem map (hx : RefusedFor ms x) (f : α → β) :
    RefusedFor ms (do let a ← x; return f a) := by
  have h : RefusedFor (ms ++ []) (do let a ← x; return f a) := hx.bind fun a _ => ok (f a)
  rwa [List.append_nil] at h

theorem mapM {f : α → Except EncodeError β} {g : α → List Measure} {as : List α}
    (h : ∀ a ∈ as, RefusedFor (g a) (f a)) : RefusedFor (as.flatMap g) (as.mapM f) := by
  induction as with
  | nil => exact ok []
  | cons a as ih =>
      rw [List.mapM_cons, List.flatMap_cons]
      refine (h a List.mem_cons_self).bind fun b _ => ?_
      exact (ih fun a ha => h a (List.mem_cons_of_mem _ ha)).map _

/-- A limit that is looked at before something else. -/
theorem limit {m : Measure} (hx : RefusedFor ms x) :
    RefusedFor (m :: ms) (if m.limit < m.length then .error m.refusal else x) := by
  intro e
  by_cases hm : m.limit < m.length
  · have he : m.exceeds = true := Measure.exceeds_iff.mpr hm
    simp [hm, he]
  · have he : m.exceeds = false := by simp [Measure.exceeds]; omega
    rw [if_neg hm, List.find?_cons_of_neg (by simp [he])]
    exact hx e

theorem fit (part : Part) (n : Nat) (bytes : List UInt8) :
    RefusedFor [⟨part, bytes.length, n⟩] (fit part n bytes) :=
  limit (m := ⟨part, bytes.length, n⟩) (ok bytes)

end RefusedFor

/-! ### Descriptor loops -/

theorem length_records {ds : List Descriptor} {records : List UInt8}
    (h : Sequence Descriptor.Form ds records) : records.length = loopSize ds := by
  induction h with
  | nil => rfl
  | cons hd _ ih =>
      obtain ⟨fits⟩ := hd
      simp only [loopSize, List.map_cons, List.sum_cons, List.length_append, List.length_cons] at ih ⊢
      omega

theorem LoopForm.length_eq {modulus : Nat} {ds : List Descriptor} {u : List UInt8}
    (h : LoopForm modulus ds u) : u.length = 2 + loopSize ds := by
  obtain ⟨-, h⟩ := h
  rw [List.length_append, length_big16, length_records h]

theorem refusedFor_encodeDescriptors (ds : List Descriptor) :
    RefusedFor (payloadMeasures ds) (encodeDescriptors ds) := by
  have h : ∀ d ∈ ds, RefusedFor [⟨.descriptorPayload, d.payload.length, 255⟩] d.encode :=
    fun d _ => (RefusedFor.fit .descriptorPayload maxPayload d.payload).map fun _ => d.bytes
  have hm := (RefusedFor.mapM h).map List.flatten
  rwa [← List.map_eq_flatMap] at hm

theorem refusedFor_encodeLoop (part : Part) (limit flags : Nat) (ds : List Descriptor) :
    RefusedFor (loopMeasures part limit ds) (encodeLoop part limit flags ds) := by
  refine (refusedFor_encodeDescriptors ds).bind fun records hr => ?_
  rw [← length_records (encodeDescriptors_eq_ok_iff.mp hr)]
  exact (RefusedFor.fit part limit records).map _

/-! ### What length fields hold -/

/-- A row of a table: `fields` bytes, the last two of them the length of a loop, and the loop. -/
def Row (fields modulus : Nat) : Wire.Form (List Descriptor) := fun ds u =>
  ∃ front loop, front.length + 2 = fields ∧ LoopForm modulus ds loop ∧ front ++ loop = u

/-- The length fields of a body hold the numbers of the bytes that they cover: one in front of each
loop and each payload, and one in front of the rows of a NIT. -/
inductive Body.Measured : Body → List UInt8 → Prop
  | pat {t rows} (h : rows.length = 4 * t.programs.length) : Measured (.pat t) rows
  | pmt {t} {pid : UInt16} {own rows} (ho : LoopForm 0x400 t.descriptors own)
      (h : Sequence (Row 5 0x400) (t.streams.map (·.descriptors)) rows) :
      Measured (.pmt t) (big16 pid ++ own ++ rows)
  | nit {t} {word : UInt16} {own rows} (ho : LoopForm 0x1000 t.descriptors own)
      (measured : rows.length = word.toNat % 0x1000)
      (h : Sequence (Row 6 0x1000) (t.streams.map (·.descriptors)) rows) :
      Measured (.nit t) (own ++ big16 word ++ rows)
  | sdt {t} {network : UInt16} {reserved : UInt8} {rows}
      (h : Sequence (Row 5 0x1000) (t.services.map (·.descriptors)) rows) :
      Measured (.sdt t) (big16 network ++ reserved :: rows)
  | eit {t} {stream network : UInt16} {lastSection lastTable : UInt8} {rows}
      (h : Sequence (Row 12 0x1000) (t.events.map (·.descriptors)) rows) :
      Measured (.eit t) (big16 stream ++ big16 network ++ lastSection :: lastTable :: rows)

/-- The length fields of a section hold the numbers of the bytes that they cover: those of its body,
and the one behind the first byte. -/
inductive Measured (s : Section) : List UInt8 → Prop
  | mk {word : UInt16} {rows : List UInt8} (body : s.body.Measured rows)
      (measured : (s.header.bytes ++ rows ++ big32 s.crc).length = word.toNat % 0x1000) :
      Measured s
        (s.header.tableId.byte :: big16 word ++ (s.header.bytes ++ rows ++ big32 s.crc))

theorem length_rows {fields modulus : Nat} {loops : List (List Descriptor)} {u : List UInt8}
    (h : Sequence (Row fields modulus) loops u) :
    u.length = (loops.map fun ds => fields + loopSize ds).sum := by
  induction h with
  | nil => rfl
  | cons hr _ ih =>
      obtain ⟨front, loop, hf, hl, rfl⟩ := hr
      rw [List.map_cons, List.sum_cons, List.length_append, List.length_append, ih, hl.length_eq,
        ← hf, ← Nat.add_assoc front.length]

theorem Body.Measured.length_eq {b : Body} {u : List UInt8} (h : b.Measured u) :
    u.length = b.size := by
  cases h with
  | pat h => exact h
  | pmt ho h | nit ho _ h =>
      simp only [List.length_append, length_big16, ho.length_eq, length_rows h, List.map_map, size]
      simp only [Function.comp_def, TransportStream.size]
      omega
  | sdt h | eit h =>
      simp only [List.length_append, List.length_cons, length_big16, length_rows h, List.map_map,
        size, Function.comp_def]
      omega

/-- A row as it is written, where only a loop has a length field. -/
theorem row_of_front {modulus : Nat} {ds : List Descriptor} {loop : List UInt8}
    (front : List UInt8) (hl : LoopForm modulus ds loop) :
    Row (front.length + 2) modulus ds (front ++ loop) :=
  ⟨front, loop, rfl, hl, rfl⟩

theorem Body.measured_of_encode {b : Body} {u : List UInt8} (he : b.encode = .ok u) :
    b.Measured u := by
  cases b with
  | pat t =>
      obtain rfl := Except.ok.inj he
      refine .pat ?_
      have h : ∀ p : Program, p.bytes.length = 4 := fun _ => rfl
      simp only [ProgramAssociation.bytes, List.length_flatMap, h, List.map_const', List.sum_replicate]
      exact Nat.mul_comm ..
  | pmt t =>
      obtain ⟨own, ho, rows, hr, rfl⟩ := ProgramMap.encode_eq_ok_iff.mp he
      refine .pmt (loopForm_of_encodeLoop (by decide) (by decide) (by decide) ho)
        (sequence_map _ hr fun s _ v hv => ?_)
      obtain ⟨loop, hl, rfl⟩ := ElementaryStream.encode_eq_ok_iff.mp hv
      exact row_of_front (s.streamType :: pidWord s.pid)
        (loopForm_of_encodeLoop (by decide) (by decide) (by decide) hl)
  | nit t =>
      obtain ⟨own, ho, rows, hr, hm, rfl⟩ := NetworkInformation.encode_eq_ok_iff.mp he
      refine .nit (loopForm_of_encodeLoop (by decide) (by decide) (by decide) ho) ?_
        (sequence_map _ hr fun s _ v hv => ?_)
      · simp only [maxLongLoop] at hm
        exact (toNat_flags_add_mod (by omega) rfl (by omega)).symm
      · obtain ⟨loop, hl, rfl⟩ := TransportStream.encode_eq_ok_iff.mp hv
        exact row_of_front (big16 s.id ++ big16 s.originalNetworkId)
          (loopForm_of_encodeLoop (by decide) (by decide) (by decide) hl)
  | sdt t =>
      obtain ⟨rows, hr, rfl⟩ := ServiceDescription.encode_eq_ok_iff.mp he
      refine .sdt (sequence_map _ hr fun s _ v hv => ?_)
      obtain ⟨loop, hl, rfl⟩ := Service.encode_eq_ok_iff.mp hv
      exact row_of_front [_, _, _] (loopForm_of_statusLoop hl)
  | eit t =>
      obtain ⟨rows, hr, rfl⟩ := EventInformation.encode_eq_ok_iff.mp he
      refine .eit (sequence_map _ hr fun e _ v hv => ?_)
      obtain ⟨loop, hl, rfl⟩ := Event.encode_eq_ok_iff.mp hv
      exact row_of_front (big16 e.id ++ (StartField.encode e.start).bytes ++
        (DurationField.encode e.duration).bytes) (loopForm_of_statusLoop hl)

/-- Every length field of a written section holds what it covers. -/
theorem measured_of_encode {s : Section} {raw : List UInt8} (he : s.encode = .ok raw) :
    s.Measured raw := by
  obtain ⟨rows, hr, hl, rfl⟩ := encode_eq_ok_iff.mp he
  exact .mk (Body.measured_of_encode hr) (TableId.toNat_lengthWord_mod _ hl).symm

/-! ### The order of refusals -/

theorem refusedFor_measure (s : TransportStream) :
    RefusedFor (payloadMeasures s.descriptors) s.measure :=
  (refusedFor_encodeDescriptors s.descriptors).map _

theorem TransportStream.size_of_measure {s : TransportStream} {n : Nat} (h : s.measure = .ok n) :
    n = s.size := by
  unfold measure at h
  obtain ⟨records, hr, h⟩ := bind_eq_ok_iff.mp h
  rw [← pure_eq_ok_iff.mp h, length_records (encodeDescriptors_eq_ok_iff.mp hr), size]

theorem sizes_of_measures {streams : List TransportStream} {lengths : List Nat}
    (h : streams.mapM TransportStream.measure = .ok lengths) :
    lengths = streams.map (·.size) := by
  induction streams generalizing lengths with
  | nil => exact (pure_eq_ok_iff.mp h).symm
  | cons s streams ih =>
      rw [List.mapM_cons] at h
      obtain ⟨n, hn, h⟩ := bind_eq_ok_iff.mp h
      obtain ⟨ns, hns, h⟩ := bind_eq_ok_iff.mp h
      rw [← pure_eq_ok_iff.mp h, List.map_cons, ← TransportStream.size_of_measure hn, ← ih hns]

/-- Rows that are refused for their loops. -/
theorem refusedFor_rows {f : α → Except EncodeError (List UInt8)} {g : α → List Measure}
    (as : List α) (h : ∀ a, RefusedFor (g a) (f a)) (k : List UInt8 → β) :
    RefusedFor (as.flatMap g) (do let rows ← as.mapM f; return k rows.flatten) :=
  (RefusedFor.mapM fun a _ => h a).map fun rows => k rows.flatten

theorem Body.refusedFor_encode (b : Body) : RefusedFor b.measures b.encode := by
  cases b with
  | pat t => exact .ok t.bytes
  | pmt t =>
      refine (refusedFor_encodeLoop _ maxShortLoop 0xF000 t.descriptors).bind fun own _ => ?_
      exact refusedFor_rows _
        (fun s : ElementaryStream => (refusedFor_encodeLoop _ maxShortLoop 0xF000 s.descriptors).map _) _
  | nit t =>
      refine (refusedFor_encodeLoop _ maxLongLoop 0xF000 t.descriptors).bind fun own _ => ?_
      refine (RefusedFor.mapM fun s _ => refusedFor_measure s).bind fun lengths hl => ?_
      rw [sizes_of_measures hl, ← List.sum_eq_foldr]
      refine RefusedFor.limit ?_
      exact refusedFor_rows _
        (fun s : TransportStream => (refusedFor_encodeLoop _ maxLongLoop 0xF000 s.descriptors).map _) _
  | sdt t =>
      exact refusedFor_rows _
        (fun s : Service => (refusedFor_encodeLoop _ maxLongLoop _ s.descriptors).map _)
        (big16 t.networkId ++ 0xFF :: ·)
  | eit t =>
      exact refusedFor_rows _
        (fun e : Event => (refusedFor_encodeLoop _ maxLongLoop _ e.descriptors).map _)
        (big16 t.streamId ++ big16 t.networkId ++ t.lastSection :: t.lastTable :: ·)

/-- What stands behind the length of a section. -/
theorem length_content_of_encode {s : Section} {rows : List UInt8}
    (hr : s.body.encode = .ok rows) :
    (s.header.bytes ++ rows ++ big32 s.crc).length = 5 + s.body.size + 4 := by
  rw [List.length_append, List.length_append, (Body.measured_of_encode hr).length_eq]
  rfl

theorem refusedFor_encode (s : Section) : RefusedFor s.measures s.encode := by
  refine s.body.refusedFor_encode.bind fun rows hr => ?_
  rw [← length_content_of_encode hr]
  exact (RefusedFor.fit .section maxLength _).map _

/-- A section is written if each of its parts fits. -/
theorem exists_encode_of_fits {s : Section} (fits : s.measures.find? (·.exceeds) = none) :
    ∃ raw, s.encode = .ok raw ∧ raw.length = 12 + s.body.size := by
  cases he : s.encode with
  | error e =>
      obtain ⟨m, hm, -⟩ := (refusedFor_encode s e).mp he
      rw [fits] at hm
      cases hm
  | ok raw =>
      refine ⟨raw, rfl, ?_⟩
      obtain ⟨rows, hr, -, rfl⟩ := encode_eq_ok_iff.mp he
      have hl := length_content_of_encode hr
      rw [List.length_append, List.length_cons, hl, lengthWord, length_big16]
      omega

/-- The loops of a network's rows fit when the rows do together. -/
theorem loopSize_le_of_rows {streams : List TransportStream} {s : TransportStream}
    (hs : s ∈ streams) {n : Nat} (hn : (streams.map (·.size)).sum ≤ n) :
    loopSize s.descriptors ≤ n := by
  have h : 6 + loopSize s.descriptors ≤ (streams.map (·.size)).sum :=
    List.single_le_sum (fun _ _ => Nat.zero_le _) _ (List.mem_map_of_mem hs)
  omega

theorem part_of_mem_payloadMeasures {ds : List Descriptor} {m : Measure}
    (h : m ∈ payloadMeasures ds) : m.part = .descriptorPayload := by
  obtain ⟨d, -, rfl⟩ := List.mem_map.mp h
  rfl

theorem part_of_mem_loopMeasures {part : Part} {limit : Nat} {ds : List Descriptor} {m : Measure}
    (h : m ∈ loopMeasures part limit ds) :
    m.part = .descriptorPayload ∨ m = ⟨part, loopSize ds, limit⟩ := by
  rcases List.mem_append.mp h with h | h
  · exact .inl (part_of_mem_payloadMeasures h)
  · exact .inr (List.mem_singleton.mp h)

theorem part_ne_of_mem_loopMeasures {part : Part} {limit : Nat} {ds : List Descriptor} {m : Measure}
    (h : m ∈ loopMeasures part limit ds) (hp : part ≠ .transportDescriptors) :
    m.part ≠ .transportDescriptors := by
  rcases part_of_mem_loopMeasures h with h | rfl
  · rw [h]
    decide
  · exact hp

/-- No body is refused for the loop of a network's row. If that loop is too long, the rows are, and
they were measured before. -/
theorem Body.part_ne_of_find? {b : Body} {m : Measure}
    (h : b.measures.find? (·.exceeds) = some m) : m.part ≠ .transportDescriptors := by
  have rows : ∀ {α : Type} {as : List α} {part : Part} {limit : Nat} {f : α → List Descriptor},
      part ≠ .transportDescriptors → m ∈ as.flatMap (fun a => loopMeasures part limit (f a)) →
        m.part ≠ .transportDescriptors := by
    intro α as part limit f hp hm
    obtain ⟨a, -, ha⟩ := List.mem_flatMap.mp hm
    exact part_ne_of_mem_loopMeasures ha hp
  cases b with
  | pat t => cases h
  | pmt t =>
      rcases List.mem_append.mp (List.mem_of_find?_eq_some h) with h | h
      · exact part_ne_of_mem_loopMeasures h (by decide)
      · exact rows (by decide) h
  | sdt t | eit t => exact rows (by decide) (List.mem_of_find?_eq_some h)
  | nit t =>
      rw [measures, List.find?_append, Option.or_eq_some_iff, List.find?_append,
        Option.or_eq_some_iff] at h
      rcases h with h | ⟨-, h | ⟨-, h⟩⟩
      · exact part_ne_of_mem_loopMeasures (List.mem_of_find?_eq_some h) (by decide)
      · obtain ⟨s, -, hs⟩ := List.mem_flatMap.mp (List.mem_of_find?_eq_some h)
        rw [part_of_mem_payloadMeasures hs]
        decide
      · by_cases hrows : 4095 < (t.streams.map (·.size)).sum
        · rw [List.find?_cons_of_pos (Measure.exceeds_iff.mpr hrows)] at h
          obtain rfl := Option.some.inj h
          rintro ⟨⟩
        · rw [List.find?_cons_of_neg (mt Measure.exceeds_iff.mp hrows)] at h
          have hm : m.limit < m.length := Measure.exceeds_iff.mp (List.find?_some h)
          obtain ⟨s, hs, hmem⟩ := List.mem_flatMap.mp (List.mem_of_find?_eq_some h)
          rcases part_of_mem_loopMeasures hmem with hp | rfl
          · rw [hp]
            decide
          · exact absurd hm (Nat.not_lt.mpr (loopSize_le_of_rows hs (Nat.le_of_not_lt hrows)))

/-- A section cannot be written exactly if a part of it is too long for its length field: the
payload of a descriptor, a loop, the rows of a network together, or the section. The refusal names
the first such part in the order of writing, its length and its limit; the loop of a network's row
is never the first. In a section that is written, every length field holds the number of the bytes
that it covers. -/
theorem encode_refused_iff (s : Section) :
    ((∃ e, s.encode = .error e) ↔ ∃ m ∈ s.measures, m.limit < m.length) ∧
      (∀ e, s.encode = .error e ↔
        ∃ m, s.measures.find? (·.exceeds) = some m ∧ m.refusal = e) ∧
      (∀ length limit, s.encode ≠ .error (.tooLong .transportDescriptors length limit)) ∧
      ∀ raw, s.encode = .ok raw → s.Measured raw := by
  have refused := refusedFor_encode s
  refine ⟨?_, refused, ?_, fun raw => measured_of_encode⟩
  · constructor
    · rintro ⟨e, he⟩
      obtain ⟨m, hm, -⟩ := (refused e).mp he
      exact ⟨m, List.mem_of_find?_eq_some hm, Measure.exceeds_iff.mp (List.find?_some hm)⟩
    · rintro ⟨m, hm, hl⟩
      have h : (s.measures.find? (·.exceeds)).isSome = true :=
        List.find?_isSome.mpr ⟨m, hm, Measure.exceeds_iff.mpr hl⟩
      obtain ⟨first, hf⟩ := Option.isSome_iff_exists.mp h
      exact ⟨first.refusal, (refused _).mpr ⟨first, hf, rfl⟩⟩
  · intro length limit he
    obtain ⟨m, hm, hr⟩ := (refused _).mp he
    have hp : m.part = .transportDescriptors := (EncodeError.tooLong.inj hr).1
    rw [measures, List.find?_append] at hm
    cases hb : s.body.measures.find? (·.exceeds) with
    | some n =>
        rw [hb] at hm
        obtain rfl := Option.some.inj hm
        exact Body.part_ne_of_find? hb hp
    | none =>
        rw [hb] at hm
        obtain rfl := List.mem_singleton.mp (List.mem_of_find?_eq_some hm)
        cases hp

/-- A network with so many descriptors of 255 bytes in its only row. -/
def crowded (count : Nat) : Section where
  header := ⟨.nitActual, 0x3039, 2, true, 0, 0⟩
  body := .nit ⟨[], [⟨0x1044, 0x233A, List.replicate count ⟨0x80, List.replicate 255 0⟩⟩]⟩
  crc := 0

/-- The row's loop is too long for its length field, but the rows are refused before it. -/
theorem encode_refused_iff_crowded :
    (crowded 17).encode = .error (.tooLong .transportStreamLoop 4375 4095) ∧
      ∃ raw, (crowded 15).encode = .ok raw ∧ (crowded 15).Measured raw := by
  have hm : ((crowded 17).measures.find? (·.exceeds)).map Measure.refusal =
      some (.tooLong .transportStreamLoop 4375 4095) := by
    decide +kernel
  obtain ⟨-, refused, -, -⟩ := encode_refused_iff (crowded 17)
  obtain ⟨fits, -, -, measured⟩ := encode_refused_iff (crowded 15)
  refine ⟨(refused _).mpr (Option.map_eq_some_iff.mp hm), ?_⟩
  cases he : (crowded 15).encode with
  | ok raw => exact ⟨raw, rfl, measured raw he⟩
  | error e =>
      have h : ∀ m ∈ (crowded 15).measures, ¬ m.limit < m.length := by decide +kernel
      obtain ⟨m, hm, hl⟩ := fits.mp ⟨e, he⟩
      exact absurd hl (h m hm)

end Multiplex.Section
