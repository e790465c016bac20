import Multiplex.Proofs.Wire.Form

/-!
# Readers that fail for want of bytes

The readers of bytes, of numbers and of parts of the window have one reason to fail: more is asked
for than the window holds. What is put together from such readers has no other reason either,
however often its rounds go on.

Main statements:

* `OnlyOverflows.bind` and `OnlyOverflows.within`: readers in sequence and readers of a part;
* `OnlyOverflows.many`: readers of items in rounds.
-/

namespace Multiplex.Wire

variable {α β : Type}

/-- `r` fails for want of bytes and for nothing else. -/
def OnlyOverflows (r : Reader α) : Prop :=
  ∀ c e d, r c = .error e d → ∃ offset wanted available, e = .overflow offset wanted available

theorem Reader.bind_eq_error {r : Reader α} {k : α → Reader β} {c d : Cursor} {e : ReadError} :
    (r >>= k) c = .error e d ↔ r c = .error e d ∨ ∃ a c', r c = .ok a c' ∧ k a c' = .error e d := by
  cases hr : r c with
  | ok a c' => simp [Reader.bind_ok hr]
  | error e' c' => simp [Reader.bind_error hr]

/-- Rounds fail where an item fails: the first one, or one behind an item that took something. -/
theorem Reader.many_eq_error_iff {more : Cursor → Bool} {item : Reader α} {c d : Cursor}
    {e : ReadError} :
    Reader.many more item c = .error e d ↔ more c = true ∧ (item c = .error e d ∨
      ∃ a c', item c = .ok a c' ∧ c'.remaining < c.remaining ∧
        Reader.many more item c' = .error e d) := by
  rw [Reader.many]
  cases hm : more c with
  | false => simp
  | true =>
      rw [if_pos rfl]
      cases hr : item c with
      | error e' c' => simp
      | ok a c' =>
          by_cases hless : c'.remaining < c.remaining
          · simp only [if_pos hless]
            cases hrest : Reader.many more item c' <;> simp [hless, hrest]
          · simp [hless]

namespace OnlyOverflows

theorem pure (a : α) : OnlyOverflows (pure a : Reader α) := by
  intro c e d h
  cases h

theorem bind {r : Reader α} {k : α → Reader β} (hr : OnlyOverflows r)
    (hk : ∀ a, OnlyOverflows (k a)) : OnlyOverflows (r >>= k) := by
  intro c e d h
  rcases Reader.bind_eq_error.mp h with h | ⟨a, c', -, h⟩
  · exact hr c e d h
  · exact hk a c' e d h

theorem map {r : Reader α} (f : α → β) (hr : OnlyOverflows r) :
    OnlyOverflows (do return f (← r)) :=
  hr.bind fun a => pure (f a)

theorem bytes (n : Nat) : OnlyOverflows (Reader.bytes n) := by
  intro c e d h
  unfold Reader.bytes at h
  split_ifs at h
  cases h
  exact ⟨_, _, _, rfl⟩

theorem number (n : Nat) : OnlyOverflows (Reader.number n) := (bytes n).map bigEndian

theorem u8 : OnlyOverflows Reader.u8 := (number 1).map UInt8.ofNat

theorem u16 : OnlyOverflows Reader.u16 := (number 2).map UInt16.ofNat

theorem u32 : OnlyOverflows Reader.u32 := (number 4).map UInt32.ofNat

theorem sub (n : Nat) : OnlyOverflows (Reader.sub n) := (bytes n).map Cursor.ofBytes

theorem truncate (n : Nat) : OnlyOverflows (Reader.truncate n) := by
  intro c e d h
  unfold Reader.truncate at h
  split_ifs at h
  cases h
  exact ⟨_, _, _, rfl⟩

theorem within {r : Reader α} (inner : Cursor) (hr : OnlyOverflows r) :
    OnlyOverflows (Reader.within inner r) := by
  intro c e d h
  unfold Reader.within at h
  cases hi : r inner with
  | ok a c' => rw [hi] at h; cases h
  | error e' c' =>
      rw [hi] at h
      cases h
      exact hr inner _ _ hi

theorem many {item : Reader α} (more : Cursor → Bool) (hi : OnlyOverflows item) :
    OnlyOverflows (Reader.many more item) := by
  intro c
  -- On what is to come: a round that goes on leaves less of it.
  induction hn : c.remaining using Nat.strong_induction_on generalizing c with
  | _ n ih =>
      intro e d h
      obtain ⟨-, h | ⟨a, c', -, hless, h⟩⟩ := Reader.many_eq_error_iff.mp h
      · exact hi c e d h
      · exact ih _ (hn ▸ hless) c' rfl e d h

end OnlyOverflows

end Multiplex.Wire
