import Mathlib.Data.List.Induction
import Multiplex.Text.Numeral

/-!
# Reading decimal numbers

Reading takes more texts than writing makes: there may be a plus sign and any number of zeros in
front of the digits. `Numeral` is what is left of that freedom, and `readUnsigned?_eq_some_iff` says
that reading takes these texts and no others.
-/

namespace Multiplex.Text

/-- A text of a number: perhaps a plus sign, then zeros, then its digits. -/
def Numeral (n : Nat) (text : List Char) : Prop :=
  ∃ sign zeros, (sign = [] ∨ sign = ['+']) ∧ (∀ c ∈ zeros, c = '0') ∧
    text = sign ++ zeros ++ Nat.toDigits 10 n

variable {n bound : Nat} {c : Char} {digits text : List Char}

theorem isDigit_iff_toNat : c.isDigit = true ↔ 48 ≤ c.toNat ∧ c.toNat ≤ 57 := by
  rw [Char.isDigit, Bool.and_eq_true, decide_eq_true_eq, decide_eq_true_eq]
  rfl

theorem digitValue?_ten (c : Char) :
    digitValue? 10 c = if c.isDigit then some (c.toNat - '0'.toNat) else none := by
  unfold digitValue?
  dsimp only
  by_cases h : 48 ≤ c.toNat ∧ c.toNat ≤ 57
  · rw [if_pos h, if_pos (by omega), if_pos (isDigit_iff_toNat.mpr h)]
    rfl
  · rw [if_neg h, if_neg (by split_ifs <;> omega), if_neg (mt isDigit_iff_toNat.mp h)]

theorem foldlM_digitValue?_ten (digits : List Char) (n : Nat) :
    digits.foldlM (fun n c => (digitValue? 10 c).map (n * 10 + ·)) n =
      if digits.all (·.isDigit) then some (Nat.ofDigitChars 10 digits n) else none := by
  induction digits generalizing n with
  | nil => simp
  | cons c digits ih =>
      rw [List.foldlM_cons, digitValue?_ten, List.all_cons]
      by_cases hc : c.isDigit
      · rw [if_pos hc, Option.map_some, Option.bind_eq_bind, Option.bind_some, ih, hc,
          Bool.true_and, Nat.ofDigitChars_cons, Nat.mul_comm n]
      · rw [if_neg hc, Bool.eq_false_iff.mpr hc]
        rfl

theorem readDigits?_ten_eq_some_iff : readDigits? 10 digits = some n ↔
    digits ≠ [] ∧ (∀ c ∈ digits, c.isDigit) ∧ Nat.ofDigitChars 10 digits 0 = n := by
  cases digits with
  | nil => simp [readDigits?]
  | cons c digits =>
      rw [readDigits?, foldlM_digitValue?_ten, Option.ite_none_right_eq_some, Option.some_inj,
        List.all_eq_true]
      · simp only [ne_eq, reduceCtorEq, not_false_eq_true, true_and]
      · simp

theorem sub_lt_of_isDigit (hc : c.isDigit) : c.toNat - '0'.toNat < 10 := by
  obtain ⟨low, high⟩ := isDigit_iff_toNat.mp hc
  change c.toNat - 48 < 10
  omega

theorem toDigits_of_isDigit (hc : c.isDigit) : Nat.toDigits 10 (c.toNat - '0'.toNat) = [c] := by
  obtain ⟨low, high⟩ := isDigit_iff_toNat.mp hc
  rw [Nat.toDigits_of_lt_base (sub_lt_of_isDigit hc), List.singleton_inj, ← Char.toNat_inj,
    Nat.toNat_digitChar_of_lt_ten (sub_lt_of_isDigit hc)]
  change 48 + (c.toNat - 48) = c.toNat
  omega

/-- Digits are some zeros and then the digits of their number. -/
theorem exists_zeros_of_isDigit (hne : digits ≠ []) (hd : ∀ c ∈ digits, c.isDigit) :
    ∃ zeros, (∀ c ∈ zeros, c = '0') ∧
      digits = zeros ++ Nat.toDigits 10 (Nat.ofDigitChars 10 digits 0) := by
  induction digits using List.reverseRecOn with
  | nil => exact absurd rfl hne
  | append_singleton digits c ih =>
      have last : c.isDigit := hd c (by simp)
      rw [Nat.ofDigitChars_append, Nat.ofDigitChars_cons, Nat.ofDigitChars_nil]
      by_cases first : digits = []
      · subst first
        refine ⟨[], by simp, ?_⟩
        rw [Nat.ofDigitChars_nil, Nat.mul_zero, Nat.zero_add, toDigits_of_isDigit last]
      obtain ⟨zeros, hz, he⟩ := ih first fun c hc => hd c (by simp [hc])
      generalize Nat.ofDigitChars 10 digits 0 = m at he ⊢
      subst he
      rcases Nat.eq_zero_or_pos m with rfl | pos
      -- all digits before the last are zeros
      · refine ⟨zeros ++ ['0'], by simpa [or_imp, forall_and] using hz, ?_⟩
        rw [Nat.mul_zero, Nat.zero_add, toDigits_of_isDigit last, Nat.toDigits_zero]
      · refine ⟨zeros, hz, ?_⟩
        rw [← Nat.toDigits_append_toDigits (by omega) pos (sub_lt_of_isDigit last),
          toDigits_of_isDigit last, List.append_assoc]

theorem isDigit_of_mem_zeros_append {zeros : List Char} (hz : ∀ c ∈ zeros, c = '0')
    (hc : c ∈ zeros ++ Nat.toDigits 10 n) : c.isDigit := by
  rcases List.mem_append.mp hc with hc | hc
  · rw [hz c hc]
    rfl
  · exact Nat.isDigit_of_mem_toDigits (by omega) (Nat.le_refl 10) hc

theorem readDigits?_ten_iff_zeros : readDigits? 10 digits = some n ↔
    ∃ zeros, (∀ c ∈ zeros, c = '0') ∧ digits = zeros ++ Nat.toDigits 10 n := by
  rw [readDigits?_ten_eq_some_iff]
  constructor
  · rintro ⟨hne, hd, rfl⟩
    exact exists_zeros_of_isDigit hne hd
  · rintro ⟨zeros, hz, rfl⟩
    refine ⟨by simp [Nat.toDigits_ne_nil], fun c => isDigit_of_mem_zeros_append hz, ?_⟩
    rw [Nat.ofDigitChars_append, List.eq_replicate_of_mem hz, Nat.ofDigitChars_replicate_zero,
      Nat.mul_zero, Nat.ofDigitChars_toDigits (by omega) (Nat.le_refl 10)]

/-- What is read as a number below a bound is the numerals of that number. -/
theorem readUnsigned?_ten_eq_some_iff :
    readUnsigned? 10 bound text = some n ↔ Numeral n text ∧ n < bound := by
  unfold readUnsigned?
  rw [Option.filter_eq_some_iff, decide_eq_true_eq]
  refine and_congr_left fun _ => ?_
  split
  · next rest =>
      rw [readDigits?_ten_iff_zeros]
      constructor
      · rintro ⟨zeros, hz, rfl⟩
        exact ⟨['+'], zeros, .inr rfl, hz, rfl⟩
      · rintro ⟨sign, zeros, rfl | rfl, hz, he⟩
        · have := isDigit_of_mem_zeros_append hz (he ▸ List.mem_cons_self : '+' ∈ _)
          cases this
        · exact ⟨zeros, hz, List.cons.inj he |>.2⟩
  · next unsigned =>
      rw [readDigits?_ten_iff_zeros]
      constructor
      · rintro ⟨zeros, hz, rfl⟩
        exact ⟨[], zeros, .inl rfl, hz, rfl⟩
      · rintro ⟨sign, zeros, rfl | rfl, hz, rfl⟩
        · exact ⟨zeros, hz, rfl⟩
        · exact absurd rfl (unsigned _)

end Multiplex.Text
