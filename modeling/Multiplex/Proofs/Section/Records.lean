import Multiplex.Proofs.Section.Reading
import Multiplex.Proofs.Section.Rows
import Multiplex.Proofs.Wire.Bounds
import Multiplex.Proofs.Wire.Overflow

/-!
# Loops and their records

A loop is read to its end just if its bytes are records one behind the other, so that each list of
descriptors has one loop and each loop one list. Any other bytes begin with some whole records,
behind which they break off: within a record, after its tag or after its length. Reading fails
there, and the place is the end of the longest part of whole records that the bytes begin with.

Main statements:

* `records_iff`: records one behind the other are what the grammar of loops says;
* `exists_whole_records`: bytes are whole records and a rest that is empty or breaks off;
* `readAll_by_records`: what is read, where reading fails, and what is written.
-/

namespace Multiplex.Section

open Multiplex.Wire

/-- The records of some descriptors one behind the other: of each its tag, the length of its
payload, and its payload of at most 255 bytes. -/
def Records (descriptors : List Descriptor) (bytes : List UInt8) : Prop :=
  bytes = descriptors.flatMap Descriptor.bytes ∧ ∀ d ∈ descriptors, d.payload.length ≤ 255

/-- How reading breaks off at bytes that begin no whole record, with their first at position `p`: at
a tag that no length follows, or at a length that announces more bytes than follow it. -/
inductive BreaksOff (p : Nat) : List UInt8 → ReadError → Cursor → Prop
  | length (tag : UInt8) : BreaksOff p [tag] (.overflow (p + 1) 1 0) ⟨p + 1, []⟩
  | payload (tag length : UInt8) {rest : List UInt8} (short : rest.length < length.toNat) :
      BreaksOff p (tag :: length :: rest) (.overflow (p + 2) length.toNat rest.length) ⟨p + 2, rest⟩

variable {d : Descriptor} {ds : List Descriptor} {u w rest : List UInt8} {p : Nat} {e : ReadError}
  {c : Cursor}

/-! ### Whole records -/

theorem Descriptor.form_iff : d.Form u ↔ u = d.bytes ∧ d.payload.length ≤ 255 := by
  constructor
  · rintro ⟨fits⟩
    rename_i tag length payload
    have hl := length.toNat_lt
    refine ⟨?_, ?_⟩
    · simp [Descriptor.bytes, fits]
    · dsimp only
      omega
  · rintro ⟨rfl, hl⟩
    refine .mk ?_
    rw [UInt8.toNat_ofNat']
    omega

theorem records_iff : Records ds w ↔ Sequence Descriptor.Form ds w := by
  induction ds generalizing w with
  | nil =>
      constructor
      · rintro ⟨rfl, -⟩
        exact .nil
      · intro h
        cases h
        exact ⟨rfl, by simp⟩
  | cons d ds ih =>
      constructor
      · rintro ⟨rfl, hl⟩
        rw [List.forall_mem_cons] at hl
        exact .cons (Descriptor.form_iff.mpr ⟨rfl, hl.1⟩) (ih.mp ⟨rfl, hl.2⟩)
      · intro h
        cases h with
        | cons hd hs =>
            obtain ⟨rfl, hl⟩ := Descriptor.form_iff.mp hd
            obtain ⟨rfl, hls⟩ := ih.mpr hs
            exact ⟨rfl, List.forall_mem_cons.mpr ⟨hl, hls⟩⟩

theorem readAll_eq_ok_iff : Descriptor.readAll ⟨p, w⟩ = .ok ds c ↔
    Records ds w ∧ c = ⟨p + w.length, []⟩ := by
  rw [Descriptor.readsAll.eq_ok_iff, records_iff]
  rfl

theorem parse_eq_ok_iff : Descriptor.parse w = .ok ds ↔ Records ds w := by
  have h : ∀ c, Descriptor.readAll (.ofBytes w) = .ok ds c ↔ _ := fun c => readAll_eq_ok_iff
  unfold Descriptor.parse
  constructor
  · intro hp
    split at hp
    · next ds' c hr =>
        obtain rfl := Except.ok.inj hp
        exact ((h c).mp hr).1
    · cases hp
  · intro hr
    rw [(h _).mpr ⟨hr, rfl⟩]

/-- What is written is the length and the records, if these fit. -/
theorem encodeLoop_eq_ok_iff_parse {part : Part} {limit flags : Nat} :
    encodeLoop part limit flags ds = .ok u ↔ ∃ loop, Descriptor.parse loop = .ok ds ∧
      loop.length ≤ limit ∧ u = lengthWord flags loop.length ++ loop := by
  simp only [encodeLoop_eq_ok_iff, parse_eq_ok_iff, records_iff, Filled, true_and]

/-! ### Where records break off -/

/-- The first record of some bytes is whole, or they break off. -/
theorem exists_form_or_breaksOff (hw : w ≠ []) :
    (∃ d u rest, w = u ++ rest ∧ Descriptor.Form d u) ∨ ∀ p, ∃ e c, BreaksOff p w e c := by
  match w, hw with
  | [tag], _ => exact .inr fun p => ⟨_, _, .length tag⟩
  | tag :: length :: rest, _ =>
      by_cases h : rest.length < length.toNat
      · exact .inr fun p => ⟨_, _, .payload tag length h⟩
      · have fits : (rest.take length.toNat).length = length.toNat := by
          rw [List.length_take]
          omega
        refine .inl ⟨⟨tag, _⟩, _, rest.drop length.toNat, ?_, .mk fits⟩
        rw [List.cons_append, List.cons_append, List.take_append_drop]

/-- Bytes are whole records and a rest, which is empty or breaks off. -/
theorem exists_whole_records (bytes : List UInt8) :
    ∃ ds w rest, bytes = w ++ rest ∧ Sequence Descriptor.Form ds w ∧
      (rest = [] ∨ ∀ p, ∃ e c, BreaksOff p rest e c) := by
  -- On the bytes that are left: a whole record has some of them.
  induction hn : bytes.length using Nat.strong_induction_on generalizing bytes with
  | _ n ih =>
      by_cases hb : bytes = []
      · exact ⟨[], [], bytes, rfl, .nil, .inl hb⟩
      · rcases exists_form_or_breaksOff hb with ⟨d, u, rest, rfl, hd⟩ | broken
        · have hu := List.length_pos_iff.mpr hd.ne_nil
          have less : rest.length < n := by
            rw [← hn, List.length_append]
            omega
          obtain ⟨ds, w, rest, rfl, hs, he⟩ := ih rest.length less rest rfl
          exact ⟨d :: ds, u ++ w, rest, (List.append_assoc ..).symm, .cons hd hs, he⟩
        · exact ⟨[], [], bytes, rfl, .nil, .inr broken⟩

theorem BreaksOff.read (h : BreaksOff p w e c) : Descriptor.read ⟨p, w⟩ = .error e c := by
  have hu : ∀ q b v, Reader.u8 ⟨q, b :: v⟩ = .ok b ⟨q + 1, v⟩ := fun q b v =>
    (Reads.u8 ..).mpr ⟨[b], v, rfl, rfl, rfl⟩
  cases h with
  | length tag =>
      have hn : Reader.number 1 ⟨p + 1, []⟩ = .error (.overflow (p + 1) 1 0) ⟨p + 1, []⟩ :=
        Reader.bind_error (Reader.bytes_of_lt Nat.one_pos) _
      have hl : Reader.u8 ⟨p + 1, []⟩ = .error (.overflow (p + 1) 1 0) ⟨p + 1, []⟩ :=
        Reader.bind_error hn _
      rw [Descriptor.read, Reader.bind_ok (hu p tag []), Reader.bind_error hl]
  | payload tag length short =>
      rw [Descriptor.read, Reader.bind_ok (hu p tag _), Reader.bind_ok (hu (p + 1) length _)]
      exact Reader.bind_error (Reader.bytes_of_lt short) _

theorem BreaksOff.readAll (h : BreaksOff p w e c) : Descriptor.readAll ⟨p, w⟩ = .error e c := by
  have more : (!Cursor.atEnd ⟨p, w⟩) = true := by
    cases h <;> rfl
  exact Reader.many_eq_error_iff.mpr ⟨more, .inl h.read⟩

/-- A failure behind whole records is one of reading them all. -/
theorem readAll_append_eq_error (h : Sequence Descriptor.Form ds w)
    (he : Descriptor.readAll ⟨p + w.length, rest⟩ = .error e c) :
    Descriptor.readAll ⟨p, w ++ rest⟩ = .error e c := by
  induction h generalizing p with
  | nil => exact he
  | @cons d ds u v hd _ ih =>
      have hu := List.length_pos_iff.mpr hd.ne_nil
      have more : (!Cursor.atEnd ⟨p, u ++ v ++ rest⟩) = true := by
        cases hd
        rfl
      have first : Descriptor.read ⟨p, u ++ v ++ rest⟩ = .ok d ⟨p + u.length, v ++ rest⟩ :=
        (Descriptor.reads ..).mpr ⟨u, v ++ rest, List.append_assoc .., hd, rfl⟩
      rw [List.length_append, ← Nat.add_assoc] at he
      refine Reader.many_eq_error_iff.mpr ⟨more, .inr ⟨d, _, first, ?_, ih he⟩⟩
      simp [Cursor.remaining]
      omega

/-- What is left of broken bytes breaks off as well. -/
theorem BreaksOff.take (h : BreaksOff p w e c) {n : Nat} (hn : 0 < n) :
    ∃ e c, BreaksOff p (w.take n) e c := by
  cases h with
  | length tag =>
      rw [List.take_of_length_le (by simpa using Nat.succ_le_of_lt hn)]
      exact ⟨_, _, .length tag⟩
  | payload tag length short =>
      match n, hn with
      | 1, _ => exact ⟨_, _, .length tag⟩
      | n + 2, _ =>
          have short' := (List.length_take_le' n _).trans_lt short
          exact ⟨_, _, .payload tag length short'⟩

/-- Where bytes break off, the longest part of whole records that they begin with ends. -/
theorem isGreatest_of_breaksOff (h : Sequence Descriptor.Form ds w)
    (hb : BreaksOff (p + w.length) rest e c) :
    IsGreatest {n | n ≤ (w ++ rest).length ∧ ∃ ds, Records ds ((w ++ rest).take n)} w.length := by
  constructor
  · refine ⟨?_, ds, ?_⟩
    · rw [List.length_append]
      exact Nat.le_add_right ..
    · rw [List.take_left, records_iff]
      exact h
  · rintro n ⟨-, ds', hr⟩
    by_contra hn
    rw [not_le] at hn
    rw [List.take_append, List.take_of_length_le hn.le] at hr
    obtain ⟨e', c', hb'⟩ := hb.take (Nat.sub_pos_of_lt hn)
    have failed := readAll_append_eq_error h hb'.readAll
    rw [readAll_eq_ok_iff.mpr ⟨hr, rfl⟩] at failed
    cases failed

/-- Bytes are read as descriptors if and only if they are their records. Bytes that are no records
are refused for want of bytes, where the longest part of whole records that they begin with is
followed by a broken one, and the cursor stays there. A loop is written just if its records are
read and fit, as its length and these records. -/
theorem readAll_by_records (start : Nat) (bytes : List UInt8) :
    (∀ ds c, Descriptor.readAll ⟨start, bytes⟩ = .ok ds c ↔
      Records ds bytes ∧ c = ⟨start + bytes.length, []⟩) ∧
    ((∃ ds, Records ds bytes) ∨
      ∃ p e c, IsGreatest {n | n ≤ bytes.length ∧ ∃ ds, Records ds (bytes.take n)} p ∧
        BreaksOff (start + p) (bytes.drop p) e c ∧
        Descriptor.readAll ⟨start, bytes⟩ = .error e c) ∧
    ∀ part limit flags ds written, encodeLoop part limit flags ds = .ok written ↔
      ∃ loop, Descriptor.parse loop = .ok ds ∧ loop.length ≤ limit ∧
        written = lengthWord flags loop.length ++ loop := by
  refine ⟨fun ds c => readAll_eq_ok_iff, ?_, fun _ _ _ _ _ => encodeLoop_eq_ok_iff_parse⟩
  obtain ⟨ds, w, rest, rfl, h, rfl | broken⟩ := exists_whole_records bytes
  · left
    rw [List.append_nil]
    exact ⟨ds, records_iff.mpr h⟩
  · right
    obtain ⟨e, c, hb⟩ := broken (start + w.length)
    refine ⟨w.length, e, c, isGreatest_of_breaksOff h hb, ?_, readAll_append_eq_error h hb.readAll⟩
    rw [List.drop_left]
    exact hb

/-- The second record lacks its length, the first one is whole and empty. -/
example : Descriptor.parse [0x4D, 0x00, 0x54] = .error (.overflow 3 1 0) := by decide +kernel

end Multiplex.Section
