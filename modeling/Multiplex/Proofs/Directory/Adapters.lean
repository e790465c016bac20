import Mathlib.Data.List.Sort
import Multiplex.Directory.Adapter
import Multiplex.Proofs.Directory.Search
import Multiplex.Proofs.Text.Numerals

/-!
# The adapters below a directory

The directories of adapters are found by their names, and a name is taken for an adapter's whenever
a number can be read behind `adapter`. More names can be read than `adapterPath` writes: `Spells`
is what they are, and `adapters_of_entries` what follows for the adapters that are listed.
-/

namespace Multiplex.Directory

open Multiplex.Text

variable {numbers rest kept : List UInt32} {a n : UInt32} {name base : String} {t : Tree}

/-! ### Numbers in ascending order -/

theorem mem_eraseReps_loop :
    n ∈ List.eraseRepsBy.loop (· == ·) a rest kept ↔ n ∈ kept ∨ n = a ∨ n ∈ rest := by
  induction rest generalizing a kept with
  | nil => simp [List.eraseRepsBy.loop, or_comm]
  | cons b rest ih =>
      rw [List.eraseRepsBy.loop]
      split
      · next same =>
          obtain rfl := beq_iff_eq.mp same
          simp [ih]
      · rw [ih, List.mem_cons, List.mem_cons]
        tauto

/-- What is kept ascends, as long as what is kept so far does. -/
theorem pairwise_eraseReps_loop (sorted : (a :: rest).Pairwise (· ≤ ·))
    (ascends : (kept.reverse ++ [a]).Pairwise (· < ·)) :
    (List.eraseRepsBy.loop (· == ·) a rest kept).Pairwise (· < ·) := by
  induction rest generalizing a kept with
  | nil => simpa [List.eraseRepsBy.loop] using ascends
  | cons b rest ih =>
      have tail := (List.pairwise_cons.mp sorted).2
      rw [List.eraseRepsBy.loop]
      split
      · next same =>
          obtain rfl := beq_iff_eq.mp same
          exact ih tail ascends
      · next differ =>
          have above : a < b := by
            have le := (List.pairwise_cons.mp sorted).1 b (by simp)
            have ne : a ≠ b := by simpa using differ
            exact UInt32.lt_of_le_of_ne le ne
          refine ih tail ?_
          rw [List.reverse_cons, List.pairwise_append]
          refine ⟨ascends, List.pairwise_singleton _ b, fun c hc d hd => ?_⟩
          obtain rfl := List.mem_singleton.mp hd
          rcases List.mem_append.mp hc with hc | hc
          · exact UInt32.lt_trans ((List.pairwise_append.mp ascends).2.2 c hc a (by simp)) above
          · rwa [List.mem_singleton.mp hc]

theorem mem_eraseReps : n ∈ numbers.eraseReps ↔ n ∈ numbers := by
  cases numbers with
  | nil => rfl
  | cons a rest => simp [List.eraseReps, List.eraseRepsBy, mem_eraseReps_loop]

theorem pairwise_eraseReps (sorted : numbers.Pairwise (· ≤ ·)) :
    numbers.eraseReps.Pairwise (· < ·) := by
  cases numbers with
  | nil => exact .nil
  | cons a rest => exact pairwise_eraseReps_loop sorted (List.pairwise_singleton _ a)

theorem mem_ascending : n ∈ ascending numbers ↔ n ∈ numbers := by
  rw [ascending, mem_eraseReps, List.mem_mergeSort]

theorem pairwise_ascending (numbers : List UInt32) : (ascending numbers).Pairwise (· < ·) := by
  refine pairwise_eraseReps ((List.pairwise_mergeSort ?_ ?_ numbers).imp of_decide_eq_true)
  · exact fun a b c hab hbc =>
      decide_eq_true (UInt32.le_trans (of_decide_eq_true hab) (of_decide_eq_true hbc))
  · exact fun a b => by simpa using UInt32.le_total a b

/-! ### Names of adapters -/

/-- A name that is taken for an adapter's: a number can be read behind `adapter`. -/
def Spells (name : String) (n : UInt32) : Prop :=
  ∃ text, Numeral n.toNat text ∧ name = adapterStem ++ String.ofList text

theorem adapterNumber?_eq_some_iff : adapterNumber? name = some n ↔ Spells name n := by
  have split (text : List Char) : name = adapterStem ++ String.ofList text ↔
      name.toList = adapterStem.toList ++ text := by
    rw [← String.toList_inj, String.toList_append, String.toList_ofList]
  have read (text : List Char) :
      (readUnsigned? 10 UInt32.size text).map UInt32.ofNat = some n ↔ Numeral n.toNat text := by
    rw [Option.map_eq_some_iff]
    constructor
    · rintro ⟨m, hm, rfl⟩
      obtain ⟨numeral, small⟩ := readUnsigned?_ten_eq_some_iff.mp hm
      rwa [UInt32.toNat_ofNat_of_lt' small]
    · exact fun h =>
        ⟨n.toNat, readUnsigned?_ten_eq_some_iff.mpr ⟨h, n.toNat_lt⟩, UInt32.ofNat_toNat⟩
  unfold adapterNumber? Spells
  simp only [split]
  split_ifs with h
  · obtain ⟨text, ht⟩ := List.isPrefixOf_iff_prefix.mp h
    rw [← ht, ← String.length_toList, List.drop_left, read]
    simp
  · rw [List.isPrefixOf_iff_prefix] at h
    simp only [false_iff, not_exists, not_and]
    exact fun text _ he => h (he ▸ List.prefix_append _ text)

theorem spells_written (n : UInt32) : Spells (adapterStem ++ toString n.toNat) n :=
  ⟨_, ⟨[], [], .inl rfl, by simp, rfl⟩, by rw [Nat.toString_eq_ofList_toDigits]; rfl⟩

theorem Spells.isPart (h : Spells name n) : IsPart name := by
  obtain ⟨_, ⟨sign, zeros, hs, hz, rfl⟩, rfl⟩ := h
  have stem : '/' ∉ adapterStem.toList := by decide
  have digits : '/' ∉ zeros ++ Nat.toDigits 10 n.toNat := fun hm => by
    cases isDigit_of_mem_zeros_append hz hm
  simp only [IsPart, String.toList_append, String.toList_ofList, List.append_assoc,
    List.mem_append, stem]
  rcases hs with rfl | rfl
  · simpa using digits
  · simpa using digits

theorem Spells.starts (h : Spells name n) : adapterStem.toList <+: name.toList := by
  obtain ⟨text, -, rfl⟩ := h
  rw [String.toList_append]
  exact List.prefix_append _ _

/-! ### What is listed -/

/-- The adapters that are listed are in strictly ascending order. They are the ones that some entry
spells, and the ones whose own path exists are among them. There are no others as long as every
entry is spelled as paths are. -/
theorem adapters_of_entries (finds : t.FindsEntries base adapterStem) :
    ∃ numbers, t.adapters base = .ok numbers ∧ numbers.Pairwise (· < ·) ∧
      (∀ n, n ∈ numbers ↔ ∃ name, Spells name n ∧ t.pathExists (join base name)) ∧
      (∀ n, t.pathExists (adapterPath base n) → n ∈ numbers) ∧
      ((∀ name n, Spells name n → t.pathExists (join base name) →
        name = adapterStem ++ toString n.toNat) →
          ∀ n, n ∈ numbers ↔ t.pathExists (adapterPath base n)) := by
  obtain ⟨paths, found, entries⟩ := finds
  have listed (n : UInt32) :
      n ∈ ascending (paths.filterMap fun path => (nameOf? path).bind adapterNumber?) ↔
        ∃ name, Spells name n ∧ t.pathExists (join base name) := by
    simp only [mem_ascending, List.mem_filterMap, Option.bind_eq_some_iff]
    constructor
    · rintro ⟨path, hp, name, hn, hs⟩
      exact ⟨name, adapterNumber?_eq_some_iff.mp hs, ((entries name).mp ⟨path, hp, hn⟩).2.2⟩
    · rintro ⟨name, spells, there⟩
      obtain ⟨path, hp, hn⟩ := (entries name).mpr ⟨spells.starts, spells.isPart, there⟩
      exact ⟨path, hp, name, hn, adapterNumber?_eq_some_iff.mpr spells⟩
  have own (n : UInt32) (h : t.pathExists (adapterPath base n)) :=
    (listed n).mpr ⟨_, spells_written n, h⟩
  refine ⟨_, by rw [Tree.adapters, found], pairwise_ascending _, listed, own, fun plain n => ?_⟩
  refine ⟨fun h => ?_, own n⟩
  obtain ⟨name, spells, there⟩ := (listed n).mp h
  rw [adapterPath, ← plain name n spells there]
  exact there

/-- Adapters 5 and 7 are listed, and neither of them has a path. -/
theorem adapters_of_entries_unwritten :
    let t : Tree := ⟨[], [["dvb", "adapter+5"], ["dvb", "adapter007"], ["dvb", "adapter12"]], []⟩
    t.FindsEntries "dvb" adapterStem ∧ ∃ numbers, t.adapters "dvb" = .ok numbers ∧
      numbers.Pairwise (· < ·) ∧ 5 ∈ numbers ∧ 7 ∈ numbers ∧ 12 ∈ numbers ∧
      ¬t.pathExists (adapterPath "dvb" 5) ∧ ¬t.pathExists (adapterPath "dvb" 7) ∧
      t.pathExists (adapterPath "dvb" 12) := by
  intro t
  have regular : t.Regular := ⟨by decide +kernel, by decide +kernel, by decide +kernel⟩
  have finds : t.FindsEntries "dvb" adapterStem :=
    regular.findsEntries (by decide +kernel) (by decide +kernel) (by decide +kernel)
      (by decide +kernel) (by decide +kernel) (by decide +kernel) (by decide +kernel)
  obtain ⟨numbers, found, ascends, listed, own, -⟩ := adapters_of_entries finds
  have spelled {name : String} {n : UInt32} (h : adapterNumber? name = some n)
      (there : t.pathExists (join "dvb" name)) : n ∈ numbers :=
    (listed n).mpr ⟨name, adapterNumber?_eq_some_iff.mp h, there⟩
  refine ⟨finds, numbers, found, ascends, ?_, ?_, own 12 ?_, ?_⟩
  · exact @spelled "adapter+5" 5 (by decide +kernel) (by decide +kernel)
  · exact @spelled "adapter007" 7 (by decide +kernel) (by decide +kernel)
  · decide +kernel
  · decide +kernel

end Multiplex.Directory
