import Multiplex.Proofs.Section.Grammar
import Multiplex.Section.Reader

/-!
# Reading sections is parsing their grammar

Every reader of a section takes from its window just the bytes that its grammar spells, and leaves
the rest. The readers of rows have no end of their own: they go on while more bytes are left than
the checksum has. They take a sequence of rows if the checksum is what remains, and where a row
runs into it the checksum cannot be read any more, so that the whole is refused.

Main statement:

* `decode_eq_ok_iff`: a section is decoded from the strings that begin with its spelling.
-/

namespace Multiplex.Section

open Multiplex.Wire Multiplex.Calendar

theorem Descriptor.Form.ne_nil {d : Descriptor} {u : List UInt8} (h : d.Form u) : u ≠ [] := by
  cases h
  simp

theorem Descriptor.reads : Reads Descriptor.Form Descriptor.read := by
  refine (Reads.u8.bind fun tag => Reads.u8.bind fun length =>
    (Reads.bytes length.toNat).map (Descriptor.mk tag)).congr fun d u => ?_
  constructor
  · rintro ⟨tag, _, _, rfl, rfl, length, _, _, rfl, rfl, payload, rfl, rfl, h⟩
    exact .mk h
  · rintro ⟨h⟩
    exact ⟨_, _, _, rfl, rfl, _, _, _, rfl, rfl, _, rfl, rfl, h⟩

theorem Descriptor.readsAll : ReadsUpTo 0 (Sequence Descriptor.Form) Descriptor.readAll :=
  Descriptor.reads.manyToEnd fun _ _ => Descriptor.Form.ne_nil

theorem Descriptor.readsLoop (n : Nat) : Reads (Filled n) (Descriptor.readLoop n) :=
  Descriptor.readsAll.within n

theorem reads_pid : Reads (fun pid u => ∃ w : UInt16, pid = w % 0x2000 ∧ u = big16 w) readPid :=
  Reads.u16.map (· % 0x2000)

theorem reads_loop {modulus : Nat} {r : Reader (List Descriptor)}
    (h : r = do Descriptor.readLoop ((← Reader.u16).toNat % modulus)) :
    Reads (LoopForm modulus) r := by
  rw [h]
  refine (Reads.u16.bind fun w => Descriptor.readsLoop (w.toNat % modulus)).congr fun ds u => ?_
  constructor
  · rintro ⟨w, _, records, rfl, rfl, h⟩
    exact .mk h
  · rintro ⟨h⟩
    exact ⟨_, _, _, rfl, rfl, h⟩

theorem Program.reads : Reads Program.Form Program.read := by
  refine (Reads.u16.bind fun id => reads_pid.map (Program.mk id)).congr fun p u => ?_
  constructor
  · rintro ⟨id, _, _, rfl, rfl, _, rfl, w, rfl, rfl⟩
    exact .mk id w
  · rintro ⟨id, w⟩
    exact ⟨_, _, _, rfl, rfl, _, rfl, _, rfl, rfl⟩

theorem ElementaryStream.reads : Reads ElementaryStream.Form ElementaryStream.read := by
  refine (Reads.u8.bind fun streamType => reads_pid.bind fun pid =>
    (reads_loop rfl : Reads (LoopForm 0x400) readShortLoop).map
      (ElementaryStream.mk streamType pid)).congr fun s u => ?_
  constructor
  · rintro ⟨t, _, _, rfl, rfl, _, _, _, rfl, ⟨w, rfl, rfl⟩, ds, rfl, h⟩
    exact .mk t w h
  · rintro ⟨t, w, h⟩
    exact ⟨t, [t], _, rfl, rfl, w % 0x2000, big16 w, _, rfl, ⟨w, rfl, rfl⟩, _, rfl, h⟩

theorem TransportStream.reads : Reads TransportStream.Form TransportStream.read := by
  refine (Reads.u16.bind fun id => Reads.u16.bind fun network =>
    (reads_loop rfl : Reads (LoopForm 0x1000) readLongLoop).map
      (TransportStream.mk id network)).congr fun s u => ?_
  constructor
  · rintro ⟨id, _, _, rfl, rfl, network, _, _, rfl, rfl, ds, rfl, h⟩
    rw [← List.append_assoc]
    exact .mk id network h
  · rintro ⟨id, network, h⟩
    exact ⟨id, big16 id, _, List.append_assoc .., rfl, network, big16 network, _, rfl, rfl, _, rfl,
      h⟩

theorem Service.reads : Reads Service.Form Service.read := by
  refine (Reads.u16.bind fun id => Reads.u8.bind fun flags => Reads.u16.bind fun word =>
    (Descriptor.readsLoop (word.toNat % 0x1000)).map _).congr fun s u => ?_
  constructor
  · rintro ⟨id, _, _, rfl, rfl, flags, _, _, rfl, rfl, word, _, _, rfl, rfl, ds, rfl, h⟩
    exact .mk id flags word h
  · rintro ⟨id, flags, word, h⟩
    exact ⟨id, big16 id, _, List.append_assoc .., rfl, flags, [flags], _, rfl, rfl, word,
      big16 word, _, rfl, rfl, _, rfl, h⟩

theorem Event.reads : Reads Event.Form Event.read := by
  refine (Reads.u16.bind fun id => Reads.start.bind fun start => Reads.duration.bind fun duration =>
    Reads.u16.bind fun word =>
      (Descriptor.readsLoop (word.toNat % 0x1000)).map _).congr fun e u => ?_
  constructor
  · rintro ⟨id, _, _, rfl, rfl, start, _, _, rfl, ⟨field, rfl, hf⟩, _, _, _, rfl, ⟨d, rfl, rfl⟩,
      word, _, _, rfl, rfl, ds, rfl, h⟩
    simp only [← List.append_assoc]
    exact .mk id d word (StartField.decode?_eq_some_iff.mp hf) h
  · rintro ⟨id, d, word, names, h⟩
    rename_i field start ds records
    refine ⟨id, big16 id, _, ?_, rfl, start, field.bytes, _, rfl,
      ⟨field, rfl, StartField.decode?_eq_some_iff.mpr names⟩, d.decode, d.bytes, _, rfl,
      ⟨d, rfl, rfl⟩, word, big16 word, records, rfl, rfl, ds, rfl, h⟩
    simp only [List.append_assoc]

theorem reads_rows {α : Type} {F : Wire.Form α} {row : Reader α} (h : Reads F row)
    (hF : ∀ a u, F a u → u ≠ []) : ReadsUpTo crcLength (Sequence F) (rows row) :=
  h.many hF

theorem ProgramAssociation.reads :
    ReadsUpTo crcLength ProgramAssociation.Form ProgramAssociation.read := by
  refine ((reads_rows Program.reads ?_).map ProgramAssociation.mk).congr fun t u => ?_
  · intro p u h
    cases h
    simp [big16]
  · constructor
    · rintro ⟨ps, rfl, h⟩
      exact .mk h
    · rintro ⟨h⟩
      exact ⟨_, rfl, h⟩

theorem ProgramMap.reads : ReadsUpTo crcLength ProgramMap.Form ProgramMap.read := by
  refine (reads_pid.bindUpTo fun pid =>
    (reads_loop rfl : Reads (LoopForm 0x400) readShortLoop).bindUpTo fun ds =>
      (reads_rows ElementaryStream.reads ?_).map (ProgramMap.mk pid ds)).congr fun t u => ?_
  · intro s u h
    cases h
    simp
  · constructor
    · rintro ⟨_, _, _, rfl, ⟨w, rfl, rfl⟩, ds, loop, rows, rfl, hl, ss, rfl, h⟩
      rw [← List.append_assoc]
      exact .mk w hl h
    · rintro ⟨w, hl, h⟩
      exact ⟨w % 0x2000, big16 w, _, List.append_assoc .., ⟨w, rfl, rfl⟩, _, _, _, rfl, hl, _, rfl,
        h⟩

theorem NetworkInformation.reads :
    ReadsUpTo crcLength NetworkInformation.Form NetworkInformation.read := by
  refine ((reads_loop rfl : Reads (LoopForm 0x1000) readLongLoop).bindUpTo fun ds =>
    Reads.u16.bindUpTo fun _ =>
      (reads_rows TransportStream.reads ?_).map (NetworkInformation.mk ds)).congr fun t u => ?_
  · intro s u h
    cases h
    simp [big16]
  · constructor
    · rintro ⟨ds, loop, _, rfl, hl, ignored, _, rows, rfl, rfl, ss, rfl, h⟩
      rw [← List.append_assoc]
      exact .mk ignored hl h
    · rintro ⟨ignored, hl, h⟩
      exact ⟨_, _, _, List.append_assoc .., hl, ignored, _, _, rfl, rfl, _, rfl, h⟩

theorem ServiceDescription.reads :
    ReadsUpTo crcLength ServiceDescription.Form ServiceDescription.read := by
  refine (Reads.u16.bindUpTo fun network => Reads.u8.bindUpTo fun _ =>
    (reads_rows Service.reads ?_).map (ServiceDescription.mk network)).congr fun t u => ?_
  · intro s u h
    cases h
    simp
  · constructor
    · rintro ⟨network, _, _, rfl, rfl, ignored, _, rows, rfl, rfl, ss, rfl, h⟩
      exact .mk network ignored h
    · rintro ⟨network, ignored, h⟩
      exact ⟨network, _, _, rfl, rfl, ignored, [ignored], _, rfl, rfl, _, rfl, h⟩

theorem EventInformation.reads :
    ReadsUpTo crcLength EventInformation.Form EventInformation.read := by
  refine (Reads.u16.bindUpTo fun stream => Reads.u16.bindUpTo fun network =>
    Reads.u8.bindUpTo fun lastSection => Reads.u8.bindUpTo fun lastTable =>
      (reads_rows Event.reads ?_).map
        (EventInformation.mk stream network lastSection lastTable)).congr fun t u => ?_
  · intro e u h
    cases h
    simp [big16]
  · constructor
    · rintro ⟨stream, _, _, rfl, rfl, network, _, _, rfl, rfl, lastSection, _, _, rfl, rfl,
        lastTable, _, rows, rfl, rfl, es, rfl, h⟩
      rw [← List.append_assoc]
      exact .mk stream network lastSection lastTable h
    · rintro ⟨stream, network, lastSection, lastTable, h⟩
      exact ⟨stream, _, _, List.append_assoc .., rfl, network, _, _, rfl, rfl, lastSection,
        [lastSection], _, rfl, rfl, lastTable, [lastTable], _, rfl, rfl, _, rfl, h⟩

theorem Body.reads (layout : Layout) :
    ReadsUpTo crcLength (Body.Form layout) (Body.read layout) := by
  cases layout with
  | programAssociation =>
      refine (ProgramAssociation.reads.map Body.pat).congr fun b u => ?_
      exact ⟨fun ⟨_, e, h⟩ => e ▸ .pat h, fun | .pat h => ⟨_, rfl, h⟩⟩
  | programMap =>
      refine (ProgramMap.reads.map Body.pmt).congr fun b u => ?_
      exact ⟨fun ⟨_, e, h⟩ => e ▸ .pmt h, fun | .pmt h => ⟨_, rfl, h⟩⟩
  | networkInformation =>
      refine (NetworkInformation.reads.map Body.nit).congr fun b u => ?_
      exact ⟨fun ⟨_, e, h⟩ => e ▸ .nit h, fun | .nit h => ⟨_, rfl, h⟩⟩
  | serviceDescription =>
      refine (ServiceDescription.reads.map Body.sdt).congr fun b u => ?_
      exact ⟨fun ⟨_, e, h⟩ => e ▸ .sdt h, fun | .sdt h => ⟨_, rfl, h⟩⟩
  | eventInformation =>
      refine (EventInformation.reads.map Body.eit).congr fun b u => ?_
      exact ⟨fun ⟨_, e, h⟩ => e ▸ .eit h, fun | .eit h => ⟨_, rfl, h⟩⟩

theorem Header.reads (tableId : TableId) : Reads (Header.Form tableId) (Header.read tableId) := by
  refine (Reads.u16.bind fun id => Reads.u8.bind fun flags => Reads.u8.bind fun number =>
    Reads.u8.map _).congr fun h u => ?_
  constructor
  · rintro ⟨id, _, _, rfl, rfl, flags, _, _, rfl, rfl, number, _, _, rfl, rfl, last, rfl, rfl⟩
    exact .mk id flags number last
  · rintro ⟨id, flags, number, last⟩
    exact ⟨id, _, _, rfl, rfl, flags, [flags], _, rfl, rfl, number, [number], _, rfl, rfl, last,
      rfl, rfl⟩

/-- What follows the length is read if the checksum is all that the body leaves of it. -/
theorem readContent_eq_ok_iff (tableId : TableId) (p : Nat) (w : List UInt8) (s : Section) :
    (∃ c, readContent tableId ⟨p, w⟩ = .ok s c) ↔
      ∃ front rows, w = front ++ rows ++ big32 s.crc ∧ s.header.Form tableId front ∧
        s.body.Form tableId.layout rows := by
  constructor
  · rintro ⟨c, h⟩
    obtain ⟨header, _, hh, h⟩ := Reader.bind_eq_ok.mp h
    obtain ⟨body, ⟨q, v⟩, hb, h⟩ := Reader.bind_eq_ok.mp h
    obtain ⟨crc, _, hc, h⟩ := Reader.bind_eq_ok.mp h
    obtain ⟨rfl, rfl⟩ := Reader.pure_eq_ok.mp h
    obtain ⟨front, w, rfl, hf, rfl⟩ := (Header.reads tableId ..).mp hh
    obtain ⟨_, rest, rfl, rfl, rfl⟩ := (Reads.u32 ..).mp hc
    -- The body leaves four bytes at least, so it leaves just these.
    obtain ⟨rows, rfl, hv, hr, -⟩ := (Body.reads tableId.layout ..).mp ⟨hb, by simp [crcLength]⟩
    have hrest : rest = [] := List.length_eq_zero_iff.mp (by simpa [crcLength] using hv)
    subst hrest
    exact ⟨front, rows, by simp, hf, hr⟩
  · rintro ⟨front, rows, rfl, hh, hb⟩
    obtain ⟨header, body, crc⟩ := s
    dsimp only at *
    have hh := (Header.reads tableId p (front ++ rows ++ big32 crc) header _).mpr
      ⟨front, rows ++ big32 crc, List.append_assoc .., hh, rfl⟩
    have hb := ((Body.reads tableId.layout (p + front.length) (rows ++ big32 crc) body _
      (big32 crc)).mpr ⟨rows, rfl, rfl, hb, rfl⟩).1
    have hc := (Reads.u32 (p + front.length + rows.length) (big32 crc) crc _).mpr
      ⟨big32 crc, [], by simp, rfl, rfl⟩
    exact ⟨_, Reader.bind_eq_ok.mpr ⟨_, _, hh, Reader.bind_eq_ok.mpr ⟨_, _, hb,
      Reader.bind_eq_ok.mpr ⟨_, _, hc, Reader.pure_eq_ok.mpr ⟨rfl, rfl⟩⟩⟩⟩⟩

theorem Reader.truncate_eq_ok_iff {n : Nat} {c d : Cursor} {u : Unit} :
    Reader.truncate n c = .ok u d ↔
      c.position < n ∧ n ≤ c.stop ∧ d = ⟨c.position, c.window.take (n - c.position)⟩ := by
  unfold Reader.truncate
  split_ifs with h
  · simp [h, eq_comm]
  · simp
    omega

/-- The frame is read if the window holds as many bytes as its length field announces. -/
theorem readFrame_eq_ok_iff {raw : List UInt8} {byte : UInt8} {c : Cursor} :
    readFrame (.ofBytes raw) = .ok byte c ↔
      ∃ word content rest, raw = byte :: big16 word ++ content ++ rest ∧ content ≠ [] ∧
        content.length = word.toNat % 0x1000 ∧ c = ⟨3, content⟩ := by
  constructor
  · intro h
    obtain ⟨_, _, hb, h⟩ := Reader.bind_eq_ok.mp h
    obtain ⟨word, _, hw, h⟩ := Reader.bind_eq_ok.mp h
    obtain ⟨_, _, ht, h⟩ := Reader.bind_eq_ok.mp h
    obtain ⟨rfl, rfl⟩ := Reader.pure_eq_ok.mp h
    obtain ⟨_, v, rfl, rfl, rfl⟩ := (Reads.u8 ..).mp hb
    obtain ⟨_, w, rfl, rfl, rfl⟩ := (Reads.u16 ..).mp hw
    obtain ⟨h1, h2, rfl⟩ := Reader.truncate_eq_ok_iff.mp ht
    simp only [Cursor.stop, List.length_singleton, length_big16, Nat.zero_add] at h1 h2 ⊢
    refine ⟨word, w.take (word.toNat % 0x1000), w.drop (word.toNat % 0x1000), by simp, ?_,
      by simp only [List.length_take]; omega, by simp⟩
    apply List.ne_nil_of_length_pos
    simp only [List.length_take]
    omega
  · rintro ⟨word, content, rest, rfl, hne, hl, rfl⟩
    have hpos := List.length_pos_iff.mpr hne
    have hb := (Reads.u8 0 (byte :: big16 word ++ content ++ rest) byte _).mpr
      ⟨[byte], _, rfl, rfl, rfl⟩
    have hw := (Reads.u16 1 (big16 word ++ content ++ rest) word _).mpr
      ⟨big16 word, _, List.append_assoc .., rfl, rfl⟩
    have ht : Reader.truncate (word.toNat % 0x1000 + 3) ⟨3, content ++ rest⟩ =
        .ok () ⟨3, content⟩ := by
      rw [Reader.truncate_eq_ok_iff]
      refine ⟨by dsimp only; omega, by simp [Cursor.stop]; omega, ?_⟩
      simp [← hl]
    exact Reader.bind_eq_ok.mpr ⟨_, _, hb, Reader.bind_eq_ok.mpr ⟨_, _, hw,
      Reader.bind_eq_ok.mpr ⟨_, _, ht, Reader.pure_eq_ok.mpr ⟨rfl, rfl⟩⟩⟩⟩

/-- What decodes begins with a spelling of the section. -/
theorem exists_spelled_of_decode {raw : List UInt8} {s : Section} (h : decode raw = .ok s) :
    ∃ window rest, raw = window ++ rest ∧ Spelled s window := by
  unfold decode at h
  cases hf : readFrame (.ofBytes raw) with
  | error e c => rw [hf] at h; cases h
  | ok byte c =>
      rw [hf] at h
      obtain ⟨word, content, rest, rfl, -, hl, rfl⟩ := readFrame_eq_ok_iff.mp hf
      dsimp only [List.cons_append, List.headD_cons] at h
      cases ht : TableId.ofByte? byte with
      | none => rw [ht] at h; cases h
      | some tableId =>
          rw [ht] at h
          dsimp only at h
          cases hc : readContent tableId ⟨3, content⟩ with
          | error e c => rw [hc] at h; cases h
          | ok t c =>
              rw [hc] at h
              obtain rfl := Except.ok.inj h
              obtain ⟨front, rows, rfl, hh, hb⟩ := (readContent_eq_ok_iff ..).mp ⟨c, hc⟩
              exact ⟨_, rest, rfl, .mk ht hh hb hl⟩

/-- A spelling decodes to its section, whatever follows it. -/
theorem decode_append_of_spelled {s : Section} {window : List UInt8} (h : Spelled s window)
    (rest : List UInt8) : decode (window ++ rest) = .ok s := by
  cases h with
  | @mk byte tableId word header body crc front rows known hh hb measured =>
      obtain ⟨c, hc⟩ := (readContent_eq_ok_iff tableId 3 _ ⟨header, body, crc⟩).mpr
        ⟨front, rows, rfl, hh, hb⟩
      have hf : readFrame (.ofBytes (byte :: big16 word ++ (front ++ rows ++ big32 crc) ++ rest)) =
          .ok byte ⟨3, front ++ rows ++ big32 crc⟩ :=
        readFrame_eq_ok_iff.mpr ⟨word, _, rest, rfl, by simp [big32], measured, rfl⟩
      unfold decode
      rw [hf]
      dsimp only [List.cons_append, List.headD_cons]
      rw [known]
      dsimp only
      rw [hc]

/-- The length field counts up to 4095 bytes, behind three that it does not count. -/
theorem Spelled.length_le {s : Section} {raw : List UInt8} (h : Spelled s raw) :
    raw.length ≤ 4098 := by
  cases h with
  | @mk byte tableId word header body crc front rows known hh hb measured =>
      have hw : word.toNat % 0x1000 < 0x1000 := Nat.mod_lt _ (by decide)
      rw [List.length_append, measured, List.length_cons, length_big16]
      omega

/-- The frame of a section that ends too early: the length field wants more than there is. -/
theorem readFrame_eq_error (byte : UInt8) {word : UInt16} {content : List UInt8}
    (h : content.length < word.toNat % 0x1000) :
    readFrame (.ofBytes (byte :: big16 word ++ content)) =
      .error (.overflow 3 (word.toNat % 0x1000) content.length) ⟨3, content⟩ := by
  have hb : Reader.u8 (.ofBytes (byte :: big16 word ++ content)) =
      .ok byte ⟨1, big16 word ++ content⟩ :=
    (Reads.u8 ..).mpr ⟨[byte], _, rfl, rfl, rfl⟩
  have hw : Reader.u16 ⟨1, big16 word ++ content⟩ = .ok word ⟨3, content⟩ :=
    (Reads.u16 ..).mpr ⟨big16 word, _, rfl, rfl, rfl⟩
  have ht : Reader.truncate (word.toNat % 0x1000 + 3) ⟨3, content⟩ =
      .error (.overflow 3 (word.toNat % 0x1000) content.length) ⟨3, content⟩ := by
    unfold Reader.truncate
    have hstop : ¬ word.toNat % 0x1000 + 3 ≤ Cursor.stop ⟨3, content⟩ := by
      simp only [Cursor.stop]
      omega
    rw [if_neg (hstop ·.2)]
    rfl
  unfold readFrame
  rw [Reader.bind_ok hb, Reader.bind_ok hw, Reader.bind_error ht]

/-- Of a section whose last bytes are missing, nothing is decoded. -/
theorem decode_take_of_spelled {s : Section} {raw : List UInt8} (h : Spelled s raw) {n : Nat}
    (hn : n + 3 < raw.length) :
    decode (raw.take (n + 3)) =
      .error (.malformed (raw.headD stuffingTableId) (.overflow 3 (raw.length - 3) n)) := by
  cases h with
  | @mk byte tableId word header body crc front rows known hh hb measured =>
      generalize front ++ rows ++ big32 crc = content at hn measured ⊢
      have hl : (byte :: big16 word ++ content).length = content.length + 3 := by
        rw [List.length_append, List.length_cons, length_big16, Nat.add_comm]
      have htake : (byte :: big16 word ++ content).take (n + 3) =
          byte :: big16 word ++ content.take n := rfl
      have hlt : (content.take n).length = n := by
        rw [List.length_take]
        omega
      have hshort : (content.take n).length < word.toNat % 0x1000 := by omega
      have hf := readFrame_eq_error byte hshort
      rw [hlt, ← measured] at hf
      unfold decode
      rw [htake, hf, hl]
      rfl

/-- A section is decoded from the strings that begin with a spelling of it, and from no others. -/
theorem decode_eq_ok_iff (raw : List UInt8) (s : Section) :
    decode raw = .ok s ↔ ∃ window rest, raw = window ++ rest ∧ Spelled s window := by
  constructor
  · exact exists_spelled_of_decode
  · rintro ⟨window, rest, rfl, h⟩
    exact decode_append_of_spelled h rest

end Multiplex.Section
