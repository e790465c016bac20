import Mathlib.Tactic
import Multiplex.Section.Checksum

/-!
# The shift register of the checksum

The checksum is defined by a register of 32 bits that takes the data bit by bit. To move it up and
to add the polynomial are linear over the field of two elements, and two things follow. Bits that
are about to be fed can be added to the upper end of the register at once, so that what a byte sets
off can be looked up in a table, whatever stands in the lower places. And since the polynomial has
a lowest coefficient, no bit that leaves the register is lost: registers that differ go on to differ
as they take the same bits, and up to 32 bits are known by what they make of a register.

Main statements:

* `foldl_feedBit_eq`: bits can be added to the register before they are fed;
* `foldl_feedBit_injective`: registers that take the same bits stay apart;
* `eq_of_burst`: bits that differ within 32 places leave different registers;
* `crc_eq_foldl_feedBit`: the checksum by the table is the one by the register.
-/

namespace Multiplex.Section.Checksum

open Multiplex.Wire

/-! ### One bit -/

/-- The bit that leaves the register when it moves up. -/
def outgoing (r : UInt32) : Bool := r.toBitVec.msb

/-- What is added to the register once it has moved up, if the bit that left it and the bit fed in
differ, or if they do not. -/
def feedback (differ : Bool) : UInt32 := if differ then polynomial else 0

theorem outgoing_eq (r : UInt32) : outgoing r = decide (r.toNat / 0x80000000 = 1) := by
  have hr := r.toNat_lt
  rw [outgoing, BitVec.msb_eq_decide, decide_eq_decide, UInt32.toNat_toBitVec]
  omega

theorem outgoing_xor (r s : UInt32) : outgoing (r ^^^ s) = (outgoing r ^^ outgoing s) := by
  rw [outgoing, UInt32.toBitVec_xor, BitVec.msb_xor]
  rfl

theorem feedback_xor (a b : Bool) : feedback (a ^^ b) = feedback a ^^^ feedback b := by
  cases a <;> cases b <;> decide

theorem feedBit_eq (r : UInt32) (b : Bool) :
    feedBit r b = (r <<< 1) ^^^ feedback (outgoing r ^^ b) := by
  rw [feedBit, outgoing_eq, feedback, ← Bool.bne_eq_xor]
  split_ifs with h
  · rfl
  · rw [UInt32.xor_zero]

/-- The register is linear: registers and bits can be added before a step or after it. -/
theorem feedBit_xor (r s : UInt32) (a b : Bool) :
    feedBit (r ^^^ s) (a ^^ b) = feedBit r a ^^^ feedBit s b := by
  have hb : (outgoing r ^^ outgoing s ^^ (a ^^ b)) = (outgoing r ^^ a ^^ (outgoing s ^^ b)) := by
    simp only [Bool.xor_assoc, Bool.xor_left_comm]
  rw [feedBit_eq, feedBit_eq, feedBit_eq, outgoing_xor, UInt32.shiftLeft_xor, hb, feedback_xor]
  ac_rfl

theorem toNat_shiftLeft_one (r : UInt32) : (r <<< 1).toNat = r.toNat * 2 % 2 ^ 32 := by
  simp [Nat.shiftLeft_eq]

/-- A bit that leaves the register comes back in the lowest place, so that none is lost. -/
theorem eq_zero_of_feedBit {r : UInt32} (h : feedBit r false = 0) : r = 0 := by
  have hr := r.toNat_lt
  have hs := toNat_shiftLeft_one r
  rw [feedBit_eq, UInt32.xor_eq_zero_iff, outgoing_eq] at h
  rw [h] at hs
  rw [← UInt32.toNat_inj]
  by_cases top : r.toNat / 0x80000000 = 1
  · -- The polynomial is odd, and a register that has moved up is even.
    have odd : r.toNat * 2 % 2 ^ 32 = 0x04C11DB7 := by
      simpa [feedback, polynomial, top] using hs.symm
    omega
  · have even : r.toNat * 2 % 2 ^ 32 = 0 := by simpa [feedback, top] using hs.symm
    change r.toNat = 0
    omega

/-! ### Many bits -/

/-- The register after `n` bits that are all zero. -/
def feedZeros (r : UInt32) (n : Nat) : UInt32 := (List.replicate n false).foldl feedBit r

theorem feedZeros_succ (r : UInt32) (n : Nat) :
    feedZeros r (n + 1) = feedZeros (feedBit r false) n := rfl

theorem foldl_feedBit_xor (r s : UInt32) (x : List Bool) :
    x.foldl feedBit (r ^^^ s) = x.foldl feedBit r ^^^ feedZeros s x.length := by
  induction x generalizing r s with
  | nil => rfl
  | cons b x ih =>
      have hb : feedBit (r ^^^ s) b = feedBit r b ^^^ feedBit s false := by
        have h := feedBit_xor r s b false
        rwa [Bool.xor_false] at h
      rw [List.foldl_cons, List.foldl_cons, List.length_cons, feedZeros_succ, hb, ih]

theorem feedZeros_xor (r s : UInt32) (n : Nat) :
    feedZeros (r ^^^ s) n = feedZeros r n ^^^ feedZeros s n := by
  have h := foldl_feedBit_xor r s (List.replicate n false)
  rwa [List.length_replicate] at h

theorem eq_zero_of_feedZeros {r : UInt32} {n : Nat} (h : feedZeros r n = 0) : r = 0 := by
  induction n generalizing r with
  | zero => exact h
  | succ n ih =>
      rw [feedZeros_succ] at h
      exact eq_zero_of_feedBit (ih h)

/-- Registers that take the same bits stay apart. -/
theorem foldl_feedBit_injective {r s : UInt32} (x : List Bool)
    (h : x.foldl feedBit r = x.foldl feedBit s) : r = s := by
  have hrs : r ^^^ (r ^^^ s) = s := by
    rw [← UInt32.xor_assoc, UInt32.xor_self, UInt32.zero_xor]
  -- The runs differ by the run of the difference, so this one is empty in the end.
  have hs : x.foldl feedBit r ^^^ feedZeros (r ^^^ s) x.length = x.foldl feedBit r ^^^ 0 := by
    rw [← foldl_feedBit_xor, hrs, ← h, UInt32.xor_zero]
  have hz : feedZeros (r ^^^ s) x.length = 0 := (UInt32.xor_right_inj _).mp hs
  exact UInt32.xor_eq_zero_iff.mp (eq_zero_of_feedZeros hz)

/-! ### Places of the register, from the upper end -/

theorem getMsbD_shiftLeft (r : UInt32) {n : UInt32} (hn : n.toNat < 32) (i : Nat) :
    (r <<< n).toBitVec.getMsbD i = r.toBitVec.getMsbD (i + n.toNat) := by
  rw [UInt32.toBitVec_shiftLeft, BitVec.shiftLeft_eq', BitVec.getMsbD_shiftLeft]
  simp [Nat.mod_eq_of_lt hn]

theorem getMsbD_shiftRight (r : UInt32) {n : UInt32} (hn : n.toNat < 32) {i : Nat} (hi : i < 32) :
    (r >>> n).toBitVec.getMsbD i =
      (!decide (i < n.toNat) && r.toBitVec.getMsbD (i - n.toNat)) := by
  rw [UInt32.toBitVec_shiftRight, BitVec.ushiftRight_eq', BitVec.getMsbD_ushiftRight]
  simp [Nat.mod_eq_of_lt hn, hi]

theorem eq_of_getMsbD_eq {r s : UInt32}
    (h : ∀ i < 32, r.toBitVec.getMsbD i = s.toBitVec.getMsbD i) : r = s := by
  apply UInt32.eq_of_toBitVec_eq
  apply BitVec.eq_of_getMsbD_eq
  intro i hi
  exact h i hi

/-- The register with one bit, in its uppermost place. -/
def topBit (b : Bool) : UInt32 := if b then 0x80000000 else 0

theorem getMsbD_topBit (b : Bool) (i : Nat) :
    (topBit b).toBitVec.getMsbD i = (b && decide (i = 0)) := by
  cases b with
  | false => simp [topBit]
  | true =>
      have h : (topBit true).toBitVec = BitVec.intMin 32 := rfl
      rw [h, BitVec.getMsbD_intMin]
      simp

/-- Bits at the upper end of an empty register, the first one uppermost. Those beyond the
thirty-second find no place. -/
def aligned : List Bool → UInt32
  | [] => 0
  | b :: x => topBit b ^^^ (aligned x >>> 1)

theorem getMsbD_aligned (x : List Bool) {i : Nat} (hi : i < 32) :
    (aligned x).toBitVec.getMsbD i = x.getD i false := by
  induction x generalizing i with
  | nil => simp [aligned]
  | cons b x ih =>
      rw [aligned, UInt32.toBitVec_xor, BitVec.getMsbD_xor, getMsbD_topBit,
        getMsbD_shiftRight _ (by decide) hi]
      cases i with
      | zero => simp
      | succ i =>
          have h := ih (i := i) (by omega)
          simp [h]

theorem aligned_injective {x y : List Bool} (hl : x.length = y.length) (hx : x.length ≤ 32)
    (h : aligned x = aligned y) : x = y := by
  refine List.ext_getElem hl fun i h1 h2 => ?_
  have hx := getMsbD_aligned x (i := i) (by omega)
  have hy := getMsbD_aligned y (i := i) (by omega)
  rw [h, hy] at hx
  simpa [h1, h2] using hx.symm

/-- Fewer than 32 bits leave the lowest place empty, so that they can move down and up again. -/
theorem aligned_shift {x : List Bool} (hx : x.length < 32) :
    (aligned x >>> 1) <<< 1 = aligned x := by
  apply eq_of_getMsbD_eq
  intro i hi
  rw [getMsbD_shiftLeft _ (by decide)]
  change (aligned x >>> 1).toBitVec.getMsbD (i + 1) = _
  by_cases last : i = 31
  · have hd : x.getD i false = false := by simp [show x.length ≤ i by omega]
    rw [getMsbD_aligned x hi, hd]
    exact BitVec.getMsbD_of_ge _ _ (by omega)
  · rw [getMsbD_shiftRight _ (by decide) (by omega)]
    simp

/-! ### Bits added in advance -/

/-- Bits can be added to the register before they are fed. -/
theorem foldl_feedBit_eq (r : UInt32) {x : List Bool} (hx : x.length ≤ 32) :
    x.foldl feedBit r = feedZeros (r ^^^ aligned x) x.length := by
  induction x generalizing r with
  | nil =>
      rw [aligned, UInt32.xor_zero]
      rfl
  | cons b x ih =>
      rw [List.length_cons] at hx
      -- The first bit is fed by the place it leaves, and those behind it move up to their own.
      have up : (r ^^^ aligned (b :: x)) <<< 1 = (r <<< 1) ^^^ aligned x := by
        have top : topBit b <<< 1 = 0 := by cases b <;> rfl
        rw [aligned, UInt32.shiftLeft_xor, UInt32.shiftLeft_xor, aligned_shift (by omega), top,
          UInt32.zero_xor]
      have out : outgoing (r ^^^ aligned (b :: x)) = (outgoing r ^^ b) := by
        have h := getMsbD_aligned (b :: x) (i := 0) (by omega)
        rw [outgoing_xor]
        exact congrArg (outgoing r ^^ ·) h
      have one : feedBit (r ^^^ aligned (b :: x)) false = feedBit r b ^^^ aligned x := by
        rw [feedBit_eq, feedBit_eq, up, out, Bool.xor_false]
        ac_rfl
      rw [List.foldl_cons, List.length_cons, feedZeros_succ, one, ih _ (by omega)]

/-- Up to 32 bits are known by what they make of a register. -/
theorem eq_of_foldl_feedBit_eq {r : UInt32} {x y : List Bool} (hl : x.length = y.length)
    (hx : x.length ≤ 32) (h : x.foldl feedBit r = y.foldl feedBit r) : x = y := by
  rw [foldl_feedBit_eq r hx, foldl_feedBit_eq r (hl ▸ hx), ← hl] at h
  have ha : r ^^^ aligned x = r ^^^ aligned y := foldl_feedBit_injective _ h
  exact aligned_injective hl hx ((UInt32.xor_right_inj r).mp ha)

theorem take_congr {x y : List Bool} {n : Nat} (h : ∀ i < n, x[i]? = y[i]?) :
    x.take n = y.take n := by
  apply List.ext_getElem?
  intro i
  rw [List.getElem?_take, List.getElem?_take]
  split_ifs with hi
  · exact h i hi
  · rfl

/-- Bits that differ within 32 places only are known by what they make of a register. -/
theorem eq_of_burst (start : Nat) {r : UInt32} {x y : List Bool} (hl : x.length = y.length)
    (hb : ∀ i, x[i]? ≠ y[i]? → start ≤ i ∧ i < start + 32)
    (h : x.foldl feedBit r = y.foldl feedBit r) : x = y := by
  have front : x.take start = y.take start := by
    apply take_congr
    intro i hi
    by_contra hne
    have := hb i hne
    omega
  have back : (x.drop start).drop 32 = (y.drop start).drop 32 := by
    apply List.ext_getElem?
    intro i
    rw [List.drop_drop, List.drop_drop, List.getElem?_drop, List.getElem?_drop]
    by_contra hne
    have := hb _ hne
    omega
  have split (z : List Bool) :
      z = z.take start ++ ((z.drop start).take 32 ++ (z.drop start).drop 32) := by
    rw [List.take_append_drop, List.take_append_drop]
  rw [split x, split y, front, back] at h ⊢
  simp only [List.foldl_append] at h
  -- What comes behind the burst takes nothing back.
  have middle : (x.drop start).take 32 = (y.drop start).take 32 := by
    apply eq_of_foldl_feedBit_eq ?_ ?_ (foldl_feedBit_injective _ h)
    · rw [List.length_take, List.length_take, List.length_drop, List.length_drop, hl]
    · rw [List.length_take]
      omega
  rw [middle]

/-! ### One byte -/

theorem length_bitsOf (b : UInt8) : (bitsOf b).length = 8 := rfl

theorem getD_bitsOf (b : UInt8) (i : Nat) : (bitsOf b).getD i false = b.toBitVec.getMsbD i := by
  rw [BitVec.getMsbD_eq_getLsbD, List.getD_eq_getElem?_getD]
  by_cases hi : i < 8
  · rw [bitsOf, List.getElem?_map, List.getElem?_range hi, decide_eq_true hi]
    rfl
  · have hl := length_bitsOf b
    rw [List.getElem?_eq_none (by omega), decide_eq_false hi]
    rfl

theorem bitsOf_injective {b c : UInt8} (h : bitsOf b = bitsOf c) : b = c := by
  apply UInt8.eq_of_toBitVec_eq
  apply BitVec.eq_of_getMsbD_eq
  intro i hi
  rw [← getD_bitsOf, ← getD_bitsOf, h]

theorem aligned_bitsOf (b : UInt8) : aligned (bitsOf b) = b.toUInt32 <<< 24 := by
  apply eq_of_getMsbD_eq
  intro i hi
  rw [getMsbD_aligned _ hi, getD_bitsOf, getMsbD_shiftLeft _ (by decide)]
  change _ = (b.toBitVec.setWidth 32).getMsbD (i + 24)
  rw [BitVec.getMsbD_setWidth]
  simp

/-- The three lower bytes of a register, and the uppermost one. -/
theorem lower_xor_upper (r : UInt32) : ((r <<< 8) >>> 8) ^^^ ((r >>> 24) <<< 24) = r := by
  apply eq_of_getMsbD_eq
  intro i hi
  rw [UInt32.toBitVec_xor, BitVec.getMsbD_xor, getMsbD_shiftRight _ (by decide) hi,
    getMsbD_shiftLeft _ (by decide), getMsbD_shiftLeft _ (by decide)]
  change ((!decide (i < 8) && r.toBitVec.getMsbD (i - 8 + 8)) ^^
    (r >>> 24).toBitVec.getMsbD (i + 24)) = _
  by_cases h : i < 8
  · rw [getMsbD_shiftRight _ (by decide) (by omega)]
    simp [h]
  · have gone : (r >>> 24).toBitVec.getMsbD (i + 24) = false :=
      BitVec.getMsbD_of_ge _ _ (by omega)
    have back : i - 8 + 8 = i := by omega
    rw [gone, back, decide_eq_false h, Bool.xor_false]
    rfl

/-- A register whose upper places are empty moves up, and nothing is added. -/
theorem toNat_feedZeros {r : UInt32} {n : Nat} (h : r.toNat * 2 ^ n < 2 ^ 32) :
    (feedZeros r n).toNat = r.toNat * 2 ^ n := by
  induction n generalizing r with
  | zero => simp [feedZeros]
  | succ n ih =>
      have hp : r.toNat * 2 ^ (n + 1) = r.toNat * 2 * 2 ^ n := by ring
      have hn : r.toNat * 2 * 1 ≤ r.toNat * 2 * 2 ^ n := Nat.mul_le_mul_left _ Nat.one_le_two_pow
      have hr : ¬ r.toNat / 0x80000000 = 1 := by omega
      have hb : (feedBit r false).toNat = r.toNat * 2 := by
        have hs := toNat_shiftLeft_one r
        rw [feedBit_eq, outgoing_eq, decide_eq_false hr]
        change (r <<< 1 ^^^ 0).toNat = _
        rw [UInt32.xor_zero, hs]
        omega
      rw [feedZeros_succ, ih (by rw [hb]; omega), hb, hp]

theorem feedZeros_lower (r : UInt32) : feedZeros ((r <<< 8) >>> 8) 8 = r <<< 8 := by
  have hr := r.toNat_lt
  have up : (r <<< 8).toNat = r.toNat * 256 % 2 ^ 32 := by simp [Nat.shiftLeft_eq]
  have down : ((r <<< 8) >>> 8).toNat = (r <<< 8).toNat / 256 := by
    simp [Nat.shiftRight_eq_div_pow]
  rw [← UInt32.toNat_inj, toNat_feedZeros (by omega)]
  omega

theorem getD_table {i : UInt32} (h : i.toNat < 256) :
    table.getD i.toNat 0 = feedZeros (i <<< 24) 8 := by
  simp [table, h, feedZeros]

/-- The table knows what the eight bits that leave the register set off together with those of the
byte. -/
theorem step_eq_feedByte (r : UInt32) (b : UInt8) : step r b = feedByte r b := by
  have hr := r.toNat_lt
  have hb := b.toNat_lt
  have index : ((r >>> 24) ^^^ b.toUInt32).toNat < 256 := by
    rw [UInt32.toNat_xor]
    refine Nat.xor_lt_two_pow (n := 8) ?_ ?_
    · simp [Nat.shiftRight_eq_div_pow]
      omega
    · simpa using hb
  have parts : r ^^^ (b.toUInt32 <<< 24) =
      ((r <<< 8) >>> 8) ^^^ (((r >>> 24) ^^^ b.toUInt32) <<< 24) := by
    rw [UInt32.shiftLeft_xor, ← UInt32.xor_assoc, lower_xor_upper]
  have byte : feedByte r b = feedZeros (r ^^^ (b.toUInt32 <<< 24)) 8 := by
    rw [← aligned_bitsOf]
    exact foldl_feedBit_eq r (length_bitsOf b ▸ by decide)
  rw [step, byte, parts, feedZeros_xor, feedZeros_lower, getD_table index]

/-! ### Many bytes -/

/-- The bits of a byte sequence in the order in which they are fed. -/
def bits (bytes : List UInt8) : List Bool := bytes.flatMap bitsOf

theorem bits_cons (b : UInt8) (bytes : List UInt8) : bits (b :: bytes) = bitsOf b ++ bits bytes :=
  rfl

theorem bits_append (x y : List UInt8) : bits (x ++ y) = bits x ++ bits y := List.flatMap_append

theorem length_bits (bytes : List UInt8) : (bits bytes).length = 8 * bytes.length := by
  induction bytes with
  | nil => rfl
  | cons b bytes ih =>
      rw [bits_cons, List.length_append, length_bitsOf, ih, List.length_cons]
      omega

theorem bits_take (bytes : List UInt8) (n : Nat) :
    bits (bytes.take n) = (bits bytes).take (8 * n) := by
  induction bytes generalizing n with
  | nil => simp [bits]
  | cons b bytes ih =>
      cases n with
      | zero => simp [bits]
      | succ n =>
          have front : (bitsOf b).take (8 * (n + 1)) = bitsOf b :=
            List.take_of_length_le (by rw [length_bitsOf]; omega)
          have back : 8 * (n + 1) - (bitsOf b).length = 8 * n := by rw [length_bitsOf]; omega
          rw [List.take_succ_cons, bits_cons, bits_cons, List.take_append, front, back, ih]

theorem bits_injective {x y : List UInt8} (h : bits x = bits y) : x = y := by
  induction x generalizing y with
  | nil =>
      have hy := length_bits y
      rw [← h] at hy
      have : y.length = 0 := by simpa [bits] using hy.symm
      exact (List.length_eq_zero_iff.mp this).symm
  | cons b x ih =>
      cases y with
      | nil => simp [bits, bitsOf] at h
      | cons c y =>
          rw [bits_cons, bits_cons] at h
          obtain ⟨hb, hx⟩ := List.append_inj h rfl
          rw [bitsOf_injective hb, ih hx]

/-- Bytes agree at the front if their bits do. -/
theorem take_eq_iff_bits {x y : List UInt8} {n : Nat} :
    x.take n = y.take n ↔ ∀ i < 8 * n, (bits x)[i]? = (bits y)[i]? := by
  constructor
  · intro h i hi
    have hb := congrArg (fun bytes => (bits bytes)[i]?) h
    rw [bits_take, bits_take, List.getElem?_take_of_lt hi, List.getElem?_take_of_lt hi] at hb
    exact hb
  · intro h
    apply bits_injective
    rw [bits_take, bits_take]
    exact take_congr h

theorem foldl_step_eq (r : UInt32) (bytes : List UInt8) :
    bytes.foldl step r = (bits bytes).foldl feedBit r := by
  have hs : step = fun r b => (bitsOf b).foldl feedBit r := by
    funext r b
    exact step_eq_feedByte r b
  rw [bits, List.foldl_flatMap, hs]

/-- The checksum is what a register of ones becomes when it takes all bits of the data. -/
theorem crc_eq_foldl_feedBit (bytes : List UInt8) :
    crc bytes = (bits bytes).foldl feedBit initial :=
  foldl_step_eq initial bytes

/-- The digits 1 to 9, of which catalogues of checksums give the value. -/
example : crc [0x31, 0x32, 0x33, 0x34, 0x35, 0x36, 0x37, 0x38, 0x39] = 0x0376E6E7 := by
  decide +kernel

end Multiplex.Section.Checksum
