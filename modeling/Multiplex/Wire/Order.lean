/-!
# Byte order

Numbers as byte sequences. Broadcast tables write the most significant byte first
(`bigEndian`, `big16`, `big32`); kernel structures write the least significant byte first
(`littleEndian`, `little`).
-/

namespace Multiplex.Wire

/-- The number whose base-256 digits are `bytes`, most significant first. -/
def bigEndian (bytes : List UInt8) : Nat :=
  bytes.foldl (fun n b => n * 256 + b.toNat) 0

/-- The number whose base-256 digits are the given bytes, least significant first. -/
def littleEndian : List UInt8 → Nat
  | [] => 0
  | b :: rest => b.toNat + 256 * littleEndian rest

/-- A 16-bit word, most significant byte first. -/
def big16 (w : UInt16) : List UInt8 :=
  [.ofNat (w.toNat / 0x100), .ofNat w.toNat]

/-- A 32-bit word, most significant byte first. -/
def big32 (w : UInt32) : List UInt8 :=
  [.ofNat (w.toNat / 0x1000000), .ofNat (w.toNat / 0x10000), .ofNat (w.toNat / 0x100),
    .ofNat w.toNat]

/-- The low `count` bytes of `n`, least significant first. -/
def little : (count n : Nat) → List UInt8
  | 0, _ => []
  | count + 1, n => .ofNat n :: little count (n / 256)

@[simp] theorem length_big16 (w : UInt16) : (big16 w).length = 2 := rfl

@[simp] theorem length_big32 (w : UInt32) : (big32 w).length = 4 := rfl

@[simp] theorem length_little (count n : Nat) : (little count n).length = count := by
  induction count generalizing n with
  | zero => rfl
  | succ count ih => simp [little, ih]

@[simp] theorem bigEndian_big16 (w : UInt16) : bigEndian (big16 w) = w.toNat := by
  have h := w.toNat_lt
  simp [bigEndian, big16]
  omega

@[simp] theorem bigEndian_big32 (w : UInt32) : bigEndian (big32 w) = w.toNat := by
  have h := w.toNat_lt
  simp [bigEndian, big32]
  omega

theorem big16_injective {v w : UInt16} (h : big16 v = big16 w) : v = w := by
  have h := congrArg bigEndian h
  rw [bigEndian_big16, bigEndian_big16] at h
  exact UInt16.toNat_inj.mp h

theorem big32_injective {v w : UInt32} (h : big32 v = big32 w) : v = w := by
  have h := congrArg bigEndian h
  rw [bigEndian_big32, bigEndian_big32] at h
  exact UInt32.toNat_inj.mp h

theorem exists_big16 {bytes : List UInt8} (h : bytes.length = 2) : ∃ w, bytes = big16 w := by
  match bytes, h with
  | [b, c], _ =>
      refine ⟨.ofNat (b.toNat * 256 + c.toNat), ?_⟩
      have := b.toNat_lt
      have := c.toNat_lt
      simp [big16, ← UInt8.toNat_inj]
      omega

theorem exists_big32 {bytes : List UInt8} (h : bytes.length = 4) : ∃ w, bytes = big32 w := by
  match bytes, h with
  | [a, b, c, d], _ =>
      refine ⟨.ofNat (((a.toNat * 256 + b.toNat) * 256 + c.toNat) * 256 + d.toNat), ?_⟩
      have := a.toNat_lt
      have := b.toNat_lt
      have := c.toNat_lt
      have := d.toNat_lt
      simp [big32, ← UInt8.toNat_inj]
      omega

end Multiplex.Wire
