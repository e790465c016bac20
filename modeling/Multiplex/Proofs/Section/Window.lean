import Multiplex.Proofs.Section.Reading
import Multiplex.Proofs.Section.Writing
import Multiplex.Proofs.Wire.Overflow
import Multiplex.Section.Checksum

/-!
# The announced window

The length field announces where a section ends. If that many bytes are there, the reader decides
by them alone: what follows changes neither a section that is read nor an error, with its offset. If
they are not there, or none are announced, it is starved of bytes, and says so before it asks which
table the first byte names. Every reader fails for want of bytes, but for the one of start fields,
which refuses a field that names no instant; only event tables have such fields.

Main statements:

* `Spelled.announced_append`: what spells a section is as long as it announces;
* `decode_append_of_announced`: a whole window is decoded by what it holds;
* `starved_of_short`: less than a window is refused for want of bytes;
* `Body.onlyOverflows`: no body but that of an event table is refused for another reason;
* `decode_by_window`: what the result depends on, and which errors there are.
-/

namespace Multiplex.Section

open Multiplex.Wire

/-! ### Readers of tables -/

theorem Descriptor.onlyOverflows_readLoop (n : Nat) : OnlyOverflows (Descriptor.readLoop n) := by
  have record : OnlyOverflows Descriptor.read :=
    .bind .u8 fun tag => .bind .u8 fun length => .map (Descriptor.mk tag) (.bytes length.toNat)
  exact .bind (.sub n) fun inner => .within inner (.many _ record)

theorem onlyOverflows_pid : OnlyOverflows readPid := OnlyOverflows.u16.map (· % 0x2000)

theorem onlyOverflows_shortLoop : OnlyOverflows readShortLoop :=
  .bind .u16 fun word => Descriptor.onlyOverflows_readLoop (word.toNat % 0x400)

theorem onlyOverflows_longLoop : OnlyOverflows readLongLoop :=
  .bind .u16 fun word => Descriptor.onlyOverflows_readLoop (word.toNat % 0x1000)

theorem ProgramAssociation.onlyOverflows : OnlyOverflows ProgramAssociation.read := by
  have row : OnlyOverflows Program.read :=
    .bind .u16 fun id => onlyOverflows_pid.map (Program.mk id)
  exact .map ProgramAssociation.mk (.many _ row)

theorem ProgramMap.onlyOverflows : OnlyOverflows ProgramMap.read := by
  have row : OnlyOverflows ElementaryStream.read :=
    .bind .u8 fun streamType => .bind onlyOverflows_pid fun pid =>
      onlyOverflows_shortLoop.map (ElementaryStream.mk streamType pid)
  exact .bind onlyOverflows_pid fun pid => .bind onlyOverflows_shortLoop fun descriptors =>
    .map (ProgramMap.mk pid descriptors) (.many _ row)

theorem NetworkInformation.onlyOverflows : OnlyOverflows NetworkInformation.read := by
  have row : OnlyOverflows TransportStream.read :=
    .bind .u16 fun id => .bind .u16 fun network =>
      onlyOverflows_longLoop.map (TransportStream.mk id network)
  exact .bind onlyOverflows_longLoop fun descriptors => .bind .u16 fun _ =>
    .map (NetworkInformation.mk descriptors) (.many _ row)

theorem ServiceDescription.onlyOverflows : OnlyOverflows ServiceDescription.read := by
  have row : OnlyOverflows Service.read :=
    .bind .u16 fun _ => .bind .u8 fun _ => .bind .u16 fun word =>
      .map _ (Descriptor.onlyOverflows_readLoop (word.toNat % 0x1000))
  exact .bind .u16 fun network => .bind .u8 fun _ => .map (ServiceDescription.mk network)
    (.many _ row)

/-- Only event tables have start fields. -/
theorem Body.onlyOverflows {layout : Layout} (h : layout ≠ .eventInformation) :
    OnlyOverflows (Body.read layout) := by
  cases layout with
  | programAssociation => exact ProgramAssociation.onlyOverflows.map Body.pat
  | programMap => exact ProgramMap.onlyOverflows.map Body.pmt
  | networkInformation => exact NetworkInformation.onlyOverflows.map Body.nit
  | serviceDescription => exact ServiceDescription.onlyOverflows.map Body.sdt
  | eventInformation => exact absurd rfl h

theorem onlyOverflows_readContent {tableId : TableId} (h : tableId.layout ≠ .eventInformation) :
    OnlyOverflows (readContent tableId) := by
  have header : OnlyOverflows (Header.read tableId) :=
    .bind .u16 fun _ => .bind .u8 fun _ => .bind .u8 fun _ => .map _ .u8
  exact .bind header fun header => .bind (Body.onlyOverflows h) fun body =>
    .map (Section.mk header body) .u32

theorem onlyOverflows_readFrame : OnlyOverflows readFrame :=
  .bind .u8 fun _ => .bind .u16 fun _ => .bind (.truncate _) fun _ => .pure _

/-! ### The window -/

/-- The length that the low twelve bits of the second and the third byte announce. It counts the
bytes behind them. -/
def announced (raw : List UInt8) : Nat := bigEndian ((raw.drop 1).take 2) % 0x1000

theorem announced_eq (byte : UInt8) (word : UInt16) (content : List UInt8) :
    announced (byte :: big16 word ++ content) = word.toNat % 0x1000 := by
  have h : ((byte :: big16 word ++ content).drop 1).take 2 = big16 word := rfl
  rw [announced, h, bigEndian_big16]

theorem exists_frame {raw : List UInt8} (h : 3 ≤ raw.length) :
    ∃ byte word content, raw = byte :: big16 word ++ content := by
  match raw, h with
  | byte :: high :: low :: content, _ =>
      obtain ⟨word, hw⟩ := exists_big16 (show [high, low].length = 2 from rfl)
      exact ⟨byte, word, content, by rw [← hw]; rfl⟩

theorem announced_take {raw : List UInt8} {n : Nat} (hr : 3 ≤ raw.length) (hn : 3 ≤ n) :
    announced (raw.take n) = announced raw := by
  obtain ⟨byte, word, content, rfl⟩ := exists_frame hr
  obtain ⟨m, rfl⟩ := Nat.exists_eq_add_of_le' hn
  have h : (byte :: big16 word ++ content).take (m + 3) = byte :: big16 word ++ content.take m := rfl
  rw [h, announced_eq, announced_eq]

/-- Bytes that begin with a whole window that is not empty. -/
theorem exists_window {raw : List UInt8} (h3 : 3 ≤ raw.length)
    (hl : 3 + announced raw ≤ raw.length) (h0 : announced raw ≠ 0) :
    ∃ byte word content rest, raw = byte :: big16 word ++ content ++ rest ∧ content ≠ [] ∧
      content.length = word.toNat % 0x1000 := by
  obtain ⟨byte, word, content, rfl⟩ := exists_frame h3
  rw [announced_eq] at hl h0
  have length : (byte :: big16 word ++ content).length = content.length + 3 := by
    rw [List.length_append, List.length_cons, length_big16, Nat.add_comm]
  refine ⟨byte, word, content.take (word.toNat % 0x1000), content.drop (word.toNat % 0x1000),
    by simp, ?_, by rw [List.length_take]; omega⟩
  apply List.ne_nil_of_length_pos
  rw [List.length_take]
  omega

theorem Spelled.announced_append {s : Section} {window : List UInt8} (h : Spelled s window)
    (rest : List UInt8) :
    4 ≤ announced (window ++ rest) ∧ 3 + announced (window ++ rest) = window.length := by
  cases h with
  | @mk byte tableId word header body crc front rows known hh hb measured =>
      rw [List.append_assoc, announced_eq, ← measured]
      constructor
      · rw [List.length_append, length_big32]
        omega
      · generalize front ++ rows ++ big32 crc = content
        rw [List.length_append, List.length_cons, length_big16]

/-- The checksum of a whole window, its own checksum included, is zero. -/
theorem Checksum.verify_eq_true_iff_crc (raw : List UInt8) :
    verify raw = true ↔ 3 ≤ raw.length ∧ 4 ≤ announced raw ∧ 3 + announced raw ≤ raw.length ∧
      crc (raw.take (3 + announced raw)) = 0 := by
  match raw with
  | [] => simp [verify]
  | [_] => simp [verify]
  | [_, _] => simp [verify]
  | byte :: high :: low :: content =>
      have h : announced (byte :: high :: low :: content) = bigEndian [high, low] % 0x1000 := rfl
      rw [verify, ← h, Nat.add_comm (announced _) 3, Bool.and_eq_true, Bool.and_eq_true,
        decide_eq_true_iff, decide_eq_true_iff, beq_iff_eq, and_assoc]
      exact ⟨fun hv => ⟨by simp, hv⟩, fun hv => hv.2⟩

/-- What is made of a window: its first byte, and what stands behind the length. -/
def decodeWindow (byte : UInt8) (content : List UInt8) : Except DecodeError Section :=
  match TableId.ofByte? byte with
  | none => .error (.unexpectedTable byte)
  | some table =>
    match readContent table ⟨3, content⟩ with
    | .error e _ => .error (.malformed byte e)
    | .ok s _ => .ok s

theorem decode_eq_decodeWindow (byte : UInt8) {word : UInt16} {content : List UInt8}
    (hne : content ≠ []) (hl : content.length = word.toNat % 0x1000) (rest : List UInt8) :
    decode (byte :: big16 word ++ content ++ rest) = decodeWindow byte content := by
  have hf : readFrame (.ofBytes (byte :: big16 word ++ content ++ rest)) = .ok byte ⟨3, content⟩ :=
    readFrame_eq_ok_iff.mpr ⟨word, content, rest, rfl, hne, hl, rfl⟩
  unfold decode
  rw [hf]
  rfl

/-- A whole window is decoded by what it holds, whatever follows. -/
theorem decode_append_of_announced {raw : List UInt8} (h3 : 3 ≤ raw.length)
    (hl : 3 + announced raw ≤ raw.length) (h0 : announced raw ≠ 0) (suffix : List UInt8) :
    decode (raw ++ suffix) = decode raw := by
  obtain ⟨byte, word, content, rest, rfl, hne, hc⟩ := exists_window h3 hl h0
  rw [List.append_assoc _ rest, decode_eq_decodeWindow byte hne hc,
    decode_eq_decodeWindow byte hne hc]

/-! ### Errors -/

/-- `raw` is refused for want of bytes, in the name of its first byte. -/
def Starved (raw : List UInt8) : Prop :=
  ∃ offset wanted available,
    decode raw = .error (.malformed (raw.headD 0xFF) (.overflow offset wanted available))

theorem starved_of_short {raw : List UInt8}
    (h : raw.length < 3 ∨ raw.length < 3 + announced raw ∨ announced raw = 0) : Starved raw := by
  cases hf : readFrame (.ofBytes raw) with
  | error e c =>
      obtain ⟨offset, wanted, available, rfl⟩ := onlyOverflows_readFrame _ _ _ hf
      refine ⟨offset, wanted, available, ?_⟩
      unfold decode
      rw [hf]
      rfl
  | ok byte c =>
      exfalso
      obtain ⟨word, content, rest, rfl, hne, hl, -⟩ := readFrame_eq_ok_iff.mp hf
      have hpos := List.length_pos_iff.mpr hne
      have ha : announced (byte :: big16 word ++ content ++ rest) = content.length := by
        rw [List.append_assoc, announced_eq, hl]
      have hlen : (byte :: big16 word ++ content ++ rest).length =
          3 + content.length + rest.length := by
        simp
        omega
      omega

theorem starved_take (raw : List UInt8) {n : Nat} (hn : n < 3 + announced raw) :
    Starved (raw.take n) := by
  apply starved_of_short
  rw [List.length_take]
  by_cases h3 : 3 ≤ raw.length ∧ 3 ≤ n
  · rw [announced_take h3.1 h3.2]
    omega
  · omega

theorem TableId.byte_of_ofByte? {byte : UInt8} {tableId : TableId}
    (h : TableId.ofByte? byte = some tableId) : tableId.byte = byte := by
  unfold TableId.ofByte? at h
  split_ifs at h <;> cases h <;> simp only [TableId.byte, *]

theorem TableId.byte_mem_of_eventInformation {byte : UInt8} {tableId : TableId}
    (h : TableId.ofByte? byte = some tableId) (hl : tableId.layout = .eventInformation) :
    0x4E ≤ byte ∧ byte ≤ 0x6F := by
  obtain rfl := TableId.byte_of_ofByte? h
  cases tableId with
  | eitActual => decide
  | eitOther => decide
  | eitSchedule b =>
      obtain ⟨low, high⟩ := TableId.schedule_of_ofByte? h
      exact ⟨UInt8.le_trans (by decide) low, high⟩
  | _ => cases hl

theorem decodeWindow_eq_unexpectedTable_iff {byte : UInt8} {content : List UInt8} :
    decodeWindow byte content = .error (.unexpectedTable byte) ↔ TableId.ofByte? byte = none := by
  unfold decodeWindow
  cases TableId.ofByte? byte with
  | none => simp
  | some tableId =>
      dsimp only
      cases readContent tableId ⟨3, content⟩ with
      | ok s c => simp
      | error e c => simp

theorem decodeWindow_eq_error {byte : UInt8} {content : List UInt8} {e : DecodeError}
    (h : decodeWindow byte content = .error e) (hne : e ≠ .unexpectedTable byte) :
    ∃ cause, e = .malformed byte cause ∧
      ∀ field, cause = .invalidStart field → 0x4E ≤ byte ∧ byte ≤ 0x6F := by
  unfold decodeWindow at h
  cases known : TableId.ofByte? byte with
  | none =>
      rw [known] at h
      cases h
      exact absurd rfl hne
  | some tableId =>
      rw [known] at h
      dsimp only at h
      cases hc : readContent tableId ⟨3, content⟩ with
      | ok s c => rw [hc] at h; cases h
      | error cause c =>
          rw [hc] at h
          cases h
          refine ⟨cause, rfl, ?_⟩
          rintro field rfl
          by_cases hl : tableId.layout = .eventInformation
          · exact TableId.byte_mem_of_eventInformation known hl
          · obtain ⟨_, _, _, ⟨⟩⟩ := onlyOverflows_readContent hl _ _ _ hc

/-- Less than a window is refused for want of bytes, and so is each beginning of one, whatever table
the first byte names. A whole window decides alone: whatever follows, the result is the same. It is
refused as a table that is not known just if it is none, and else in the name of its first byte;
for a start field only if it is one of an event table. -/
theorem decode_by_window (raw : List UInt8) :
    (raw.length < 3 ∨ raw.length < 3 + announced raw ∨ announced raw = 0 → Starved raw) ∧
    (∀ n < 3 + announced raw, Starved (raw.take n)) ∧
    (3 ≤ raw.length → 3 + announced raw ≤ raw.length → announced raw ≠ 0 →
      (∀ suffix, decode (raw ++ suffix) = decode raw) ∧
      (decode raw = .error (.unexpectedTable (raw.headD 0xFF)) ↔
        TableId.ofByte? (raw.headD 0xFF) = none) ∧
      ∀ e, decode raw = .error e → e ≠ .unexpectedTable (raw.headD 0xFF) →
        ∃ cause, e = .malformed (raw.headD 0xFF) cause ∧
          ∀ field, cause = .invalidStart field →
            0x4E ≤ raw.headD 0xFF ∧ raw.headD 0xFF ≤ 0x6F) := by
  refine ⟨starved_of_short, fun n => starved_take raw, fun h3 hl h0 => ?_⟩
  refine ⟨decode_append_of_announced h3 hl h0, ?_⟩
  obtain ⟨byte, word, content, rest, rfl, hne, hc⟩ := exists_window h3 hl h0
  rw [decode_eq_decodeWindow byte hne hc]
  exact ⟨decodeWindow_eq_unexpectedTable_iff, fun e => decodeWindow_eq_error⟩

/-- An event that starts at the twenty-fifth hour. -/
def misdated : List UInt8 :=
  [0x4E, 0xF0, 0x1B, 0x04, 0x01, 0xC1, 0x00, 0x00, 0x10, 0x44, 0x23, 0x3A, 0x00, 0x4E,
    0x00, 0x07, 0xC0, 0x79, 0x25, 0x00, 0x00, 0x01, 0x30, 0x00, 0x80, 0x00,
    0xAA, 0xBB, 0xCC, 0xDD]

theorem decode_by_window_misdated :
    Starved [0x13, 0xF0, 0x00] ∧ Starved (misdated.take 29) ∧
      decode misdated = .error (.malformed 0x4E (.invalidStart ⟨0xC079, 0x25, 0x00, 0x00⟩)) ∧
      decode (misdated ++ [0x47, 0x1F, 0xFF]) = decode misdated ∧
      0x4E ≤ misdated.headD 0xFF ∧ misdated.headD 0xFF ≤ 0x6F := by
  have hd : decode misdated =
      .error (.malformed 0x4E (.invalidStart ⟨0xC079, 0x25, 0x00, 0x00⟩)) := by decide +kernel
  obtain ⟨empty, -, -⟩ := decode_by_window [0x13, 0xF0, 0x00]
  obtain ⟨-, cut, whole⟩ := decode_by_window misdated
  obtain ⟨same, -, other⟩ := whole (by decide) (by decide) (by decide)
  obtain ⟨cause, he, date⟩ := other _ hd (by decide)
  have hc : cause = .invalidStart ⟨0xC079, 0x25, 0x00, 0x00⟩ := by
    cases he
    rfl
  exact ⟨empty (by decide), cut 29 (by decide), hd, same _, date _ hc⟩

end Multiplex.Section
