import Multiplex.Proofs.Wire.Overflow

/-!
# Cursors and the buffers they stand in

A cursor holds the bytes that are still to come. They are those of the buffer it was made over
between its position and its stop, which no reader moves apart: the position goes on as bytes are
taken, and the stop only comes nearer. `Bounds` is the same window without its bytes, as two
offsets into the buffer. A difference of offsets below zero and a slice beyond the buffer have no
value there, and as long as the cursor lies in its buffer neither comes up.

Main statements:

* `Cursor.LiesIn.bytes?_eq`, `Cursor.LiesIn.truncate?_eq`: reading by offsets is reading by bytes;
* `Forward.bind`, `Forward.many`: what is put together from forward readers goes forward.
-/

namespace Multiplex.Wire

variable {α β : Type} {c d : Cursor} {n : Nat}

namespace Cursor

@[simp] theorem position_advance (c : Cursor) (n : Nat) : (c.advance n).position = c.position + n :=
  rfl

@[simp] theorem window_advance (c : Cursor) (n : Nat) : (c.advance n).window = c.window.drop n :=
  rfl

@[simp] theorem remaining_advance (c : Cursor) (n : Nat) :
    (c.advance n).remaining = c.remaining - n :=
  List.length_drop

theorem advance_advance (c : Cursor) (m n : Nat) : (c.advance m).advance n = c.advance (m + n) := by
  simp only [advance, List.drop_drop, Nat.add_assoc]

theorem stop_advance (h : n ≤ c.remaining) : (c.advance n).stop = c.stop := by
  have hl : n ≤ c.window.length := h
  simp only [stop, position_advance, window_advance, List.length_drop]
  omega

/-- The cursor with a window that ends at position `n`. -/
def endAt (c : Cursor) (n : Nat) : Cursor := ⟨c.position, c.window.take (n - c.position)⟩

@[simp] theorem position_endAt (c : Cursor) (n : Nat) : (c.endAt n).position = c.position := rfl

theorem stop_endAt (h : c.position < n) (h' : n ≤ c.stop) : (c.endAt n).stop = n := by
  simp only [stop] at h'
  simp only [stop, endAt, List.length_take]
  omega

theorem stop_sub_position (c : Cursor) : c.stop - c.position = c.remaining := by
  simp only [stop, remaining]
  omega

end Cursor

/-! ### What the readers do, by what is to come -/

theorem Reader.bytes_of_le (h : n ≤ c.remaining) :
    Reader.bytes n c = .ok (c.window.take n) (c.advance n) := by
  rw [Reader.bytes, if_pos (Cursor.holds_iff.mpr h)]

theorem Reader.bytes_of_lt (h : c.remaining < n) :
    Reader.bytes n c = .error (.overflow c.position n c.remaining) c := by
  have hn : ¬ c.holds n = true := fun hc => absurd (Cursor.holds_iff.mp hc) (by omega)
  rw [Reader.bytes, if_neg hn]

theorem Reader.truncate_of_lt (h : c.position < n) (h' : n ≤ c.stop) :
    Reader.truncate n c = .ok () (c.endAt n) := by
  rw [Reader.truncate, if_pos ⟨h, h'⟩, Cursor.endAt]

theorem Reader.truncate_of_not (h : ¬ (c.position < n ∧ n ≤ c.stop)) :
    Reader.truncate n c = .error (.overflow c.position (n - c.position) c.remaining) c := by
  rw [Reader.truncate, if_neg h]

/-! ### Bounds -/

/-- The `n` bytes of a buffer from a position on, if they are all there. -/
def slice? (buffer : List UInt8) (position n : Nat) : Option (List UInt8) :=
  if position + n ≤ buffer.length then some ((buffer.drop position).take n) else none

/-- A window as two offsets into a buffer. -/
structure Bounds where
  buffer : List UInt8
  position : Nat
  stop : Nat

namespace Bounds

/-- The distance of the offsets, if they are in order. -/
def remaining? (b : Bounds) : Option Nat :=
  if b.position ≤ b.stop then some (b.stop - b.position) else none

/-- Takes the next `n` bytes. There is no result if the offsets are not in order or the bytes are
not all in the buffer. -/
def bytes? (n : Nat) (b : Bounds) : Option (EStateM.Result ReadError Bounds (List UInt8)) := do
  let available ← b.remaining?
  if available < n then return .error (.overflow b.position n available) b
  return .ok (← slice? b.buffer b.position n) { b with position := b.position + n }

/-- Ends the window at offset `n`. There is no result if the offsets are not in order where the
bytes between them are to be counted. -/
def truncate? (n : Nat) (b : Bounds) : Option (EStateM.Result ReadError Bounds Unit) :=
  if n ≤ b.position ∨ b.stop < n then do
    return .error (.overflow b.position (n - b.position) (← b.remaining?)) b
  else return .ok () { b with stop := n }

end Bounds

namespace Cursor

/-- The bounds of a cursor in its buffer. -/
def bounds (buffer : List UInt8) (c : Cursor) : Bounds := ⟨buffer, c.position, c.stop⟩

/-- A result with the bounds of its cursor. -/
def boundsOf (buffer : List UInt8) :
    EStateM.Result ReadError Cursor α → EStateM.Result ReadError Bounds α
  | .ok a c => .ok a (c.bounds buffer)
  | .error e c => .error e (c.bounds buffer)

/-- The window of a cursor lies in the buffer, and is what the buffer has there. -/
structure LiesIn (c : Cursor) (buffer : List UInt8) : Prop where
  position_le : c.position ≤ c.stop
  stop_le : c.stop ≤ buffer.length
  window_eq : c.window = (buffer.take c.stop).drop c.position

theorem liesIn_ofBytes (buffer : List UInt8) : (ofBytes buffer).LiesIn buffer where
  position_le := Nat.zero_le _
  stop_le := by simp [ofBytes, stop]
  window_eq := by simp [ofBytes, stop]

namespace LiesIn

variable {buffer : List UInt8}

theorem advance (h : c.LiesIn buffer) (hn : n ≤ c.remaining) : (c.advance n).LiesIn buffer where
  position_le := Nat.le_add_right ..
  stop_le := by
    rw [stop_advance hn]
    exact h.stop_le
  window_eq := by
    rw [stop_advance hn, window_advance, position_advance, h.window_eq, List.drop_drop]

theorem endAt (h : c.LiesIn buffer) (hn : c.position < n) (hn' : n ≤ c.stop) :
    (c.endAt n).LiesIn buffer where
  position_le := Nat.le_add_right ..
  stop_le := by
    rw [stop_endAt hn hn']
    exact hn'.trans h.stop_le
  window_eq := by
    have hm : c.position + (n - c.position) = n := by omega
    rw [stop_endAt hn hn', Cursor.endAt, h.window_eq, List.take_drop, List.take_take, hm,
      Nat.min_eq_left hn']

/-- The next bytes are those of the buffer behind the position. -/
theorem slice?_eq (h : c.LiesIn buffer) (hn : n ≤ c.remaining) :
    slice? buffer c.position n = some (c.window.take n) := by
  have hs := h.stop_le
  have hr : c.position + n ≤ c.stop := by
    simp only [stop, remaining] at hn ⊢
    omega
  rw [slice?, if_pos (hr.trans hs), h.window_eq, List.take_drop, List.take_drop, List.take_take,
    Nat.min_eq_left hr]

theorem remaining?_eq (h : c.LiesIn buffer) : (c.bounds buffer).remaining? = some c.remaining := by
  change (if c.position ≤ c.stop then some (c.stop - c.position) else none) = _
  rw [if_pos h.position_le, c.stop_sub_position]

/-- Reading by offsets always has a result, that of reading by bytes. -/
theorem bytes?_eq (h : c.LiesIn buffer) (n : Nat) :
    (c.bounds buffer).bytes? n = some (boundsOf buffer (Reader.bytes n c)) := by
  rw [Bounds.bytes?, h.remaining?_eq]
  by_cases hn : n ≤ c.remaining
  · have hs : (c.advance n).bounds buffer =
        { c.bounds buffer with position := c.position + n } := by
      rw [bounds, stop_advance hn]
      rfl
    rw [Reader.bytes_of_le hn, boundsOf, hs]
    change (if c.remaining < n then _ else
      (slice? buffer c.position n).bind fun taken => some _) = _
    rw [if_neg (by omega), h.slice?_eq hn]
    rfl
  · rw [Reader.bytes_of_lt (by omega)]
    change (if c.remaining < n then _ else _) = _
    rw [if_pos (by omega)]
    rfl

theorem truncate?_eq (h : c.LiesIn buffer) (n : Nat) :
    (c.bounds buffer).truncate? n = some (boundsOf buffer (Reader.truncate n c)) := by
  rw [Bounds.truncate?, h.remaining?_eq]
  by_cases hn : c.position < n ∧ n ≤ c.stop
  · have hs : (c.endAt n).bounds buffer = { c.bounds buffer with stop := n } := by
      rw [bounds, stop_endAt hn.1 hn.2]
      rfl
    rw [Reader.truncate_of_lt hn.1 hn.2, boundsOf, hs]
    change (if n ≤ c.position ∨ c.stop < n then _ else _) = _
    rw [if_neg (by omega)]
    rfl
  · rw [Reader.truncate_of_not hn]
    change (if n ≤ c.position ∨ c.stop < n then _ else _) = _
    rw [if_pos (by omega)]
    rfl

end LiesIn

end Cursor

/-! ### Forward readers -/

/-- The cursor after a read, whether or not it succeeds. -/
def Reader.after (r : Reader α) (c : Cursor) : Cursor :=
  match r c with
  | .ok _ d => d
  | .error _ d => d

/-- `r` passes bytes of its window and nothing else, and where it wants more than there is, it
reports the cursor that it leaves. -/
structure Forward (r : Reader α) : Prop where
  moves : ∀ c, ∃ n ≤ c.remaining, r.after c = c.advance n
  reports : ∀ c d offset wanted available, r c = .error (.overflow offset wanted available) d →
    offset = d.position ∧ available = d.remaining ∧ available < wanted

theorem Reader.after_of_ok {r : Reader α} {a : α} (h : r c = .ok a d) : r.after c = d := by
  rw [Reader.after, h]

theorem Reader.after_of_error {r : Reader α} {e : ReadError} (h : r c = .error e d) :
    r.after c = d := by
  rw [Reader.after, h]

namespace Forward

theorem pure (a : α) : Forward (pure a : Reader α) where
  moves c := ⟨0, Nat.zero_le _, rfl⟩
  reports := by
    intro c d offset wanted available h
    cases h

theorem bytes (n : Nat) : Forward (Reader.bytes n) where
  moves c := by
    by_cases h : n ≤ c.remaining
    · exact ⟨n, h, Reader.after_of_ok (Reader.bytes_of_le h)⟩
    · exact ⟨0, Nat.zero_le _, Reader.after_of_error (Reader.bytes_of_lt (by omega))⟩
  reports := by
    intro c d offset wanted available h
    have hn : c.remaining < n := by
      by_contra hle
      rw [Reader.bytes_of_le (by omega)] at h
      cases h
    rw [Reader.bytes_of_lt hn] at h
    cases h
    exact ⟨rfl, rfl, hn⟩

/-- Two moves are one. -/
theorem moves_trans {m : Nat} (hm : m ≤ c.remaining) (hd : ∃ n ≤ (c.advance m).remaining,
    d = (c.advance m).advance n) : ∃ n ≤ c.remaining, d = c.advance n := by
  obtain ⟨n, hn, rfl⟩ := hd
  rw [Cursor.remaining_advance] at hn
  exact ⟨m + n, by omega, Cursor.advance_advance c m n⟩

theorem bind {r : Reader α} {k : α → Reader β} (hr : Forward r) (hk : ∀ a, Forward (k a)) :
    Forward (r >>= k) where
  moves c := by
    obtain ⟨m, hm, hc⟩ := hr.moves c
    cases h : r c with
    | ok a d =>
        rw [Reader.after_of_ok h] at hc
        subst hc
        have he : (r >>= k).after c = (k a).after (c.advance m) := by
          rw [Reader.after, Reader.after, Reader.bind_ok h]
        rw [he]
        exact moves_trans hm ((hk a).moves _)
    | error e d =>
        rw [Reader.after_of_error h] at hc
        exact ⟨m, hm, (Reader.after_of_error (Reader.bind_error h k)).trans hc⟩
  reports := by
    intro c d offset wanted available h
    rcases Reader.bind_eq_error.mp h with h | ⟨a, c', -, h⟩
    · exact hr.reports c d _ _ _ h
    · exact (hk a).reports c' d _ _ _ h

theorem map {r : Reader α} (f : α → β) (hr : Forward r) : Forward (do return f (← r)) :=
  hr.bind fun a => pure (f a)

/-- Where rounds end: at once, behind an item, or where the rounds behind it end. -/
theorem after_many_cases (more : Cursor → Bool) (item : Reader α) (c : Cursor) :
    (Reader.many more item).after c = c ∨
      (Reader.many more item).after c = item.after c ∨
      (item.after c).remaining < c.remaining ∧
        (Reader.many more item).after c = (Reader.many more item).after (item.after c) := by
  unfold Reader.after
  rw [Reader.many]
  cases hm : more c with
  | false => exact .inl rfl
  | true =>
      right
      rw [if_pos rfl]
      cases hr : item c with
      | error e d => exact .inl rfl
      | ok a d =>
          dsimp only
          by_cases hless : d.remaining < c.remaining
          · rw [if_pos hless]
            refine .inr ⟨hless, ?_⟩
            cases Reader.many more item d <;> rfl
          · rw [if_neg hless]
            exact .inl rfl

theorem many {item : Reader α} (more : Cursor → Bool) (hi : Forward item) :
    Forward (Reader.many more item) where
  moves c := by
    -- On what is to come: a round that goes on leaves less of it.
    induction hn : c.remaining using Nat.strong_induction_on generalizing c with
    | _ n ih =>
        subst hn
        obtain ⟨m, hm, hitem⟩ := hi.moves c
        rcases after_many_cases more item c with h | h | ⟨hless, h⟩
        · exact ⟨0, Nat.zero_le _, h⟩
        · exact ⟨m, hm, h.trans hitem⟩
        · rw [hitem] at hless h
          exact moves_trans hm (h ▸ ih _ hless _ rfl)
  reports := by
    intro c
    induction hn : c.remaining using Nat.strong_induction_on generalizing c with
    | _ n ih =>
        intro d offset wanted available h
        obtain ⟨-, h | ⟨a, c', -, hless, h⟩⟩ := Reader.many_eq_error_iff.mp h
        · exact hi.reports c d _ _ _ h
        · exact ih _ (hn ▸ hless) c' rfl d _ _ _ h

theorem u8 : Forward Reader.u8 := ((bytes 1).map bigEndian).map UInt8.ofNat

end Forward

end Multiplex.Wire
