import Multiplex.Proofs.Scan.Refusal

/-!
# The entries of a channel

Entries are set one after the other, under keys in any case. A channel keeps its keys in upper
case, each where it was set first, and under each the value that was set last. Setting compares
keys in upper case, asking compares them whatever their case; `SameKey` says without either when
two keys are the same, so that both can be held against it.

Main statements:

* `upperKey_eq_iff`: keys with one upper case are the same but for the case of their letters;
* `Channel.mem_insert_iff`, `Channel.keys_insert`: what one more entry changes;
* `kept_holds_last`: the keys, the values and the answers after any number of entries.
-/

namespace Multiplex.Scan

open Multiplex.Text

/-! ### Keys -/

/-- The same character, or the same letter from A to Z in the other case. -/
def SameLetter (c d : Char) : Prop :=
  c = d ∨ (65 ≤ c.toNat ∧ c.toNat ≤ 90 ∧ d.toNat = c.toNat + 32) ∨
    (65 ≤ d.toNat ∧ d.toNat ≤ 90 ∧ c.toNat = d.toNat + 32)

/-- The same key but for the case of the letters from A to Z. -/
def SameKey (key other : String) : Prop := List.Forall₂ SameLetter key.toList other.toList

theorem toNat_upperAscii (c : Char) : (upperAscii c).toNat =
    if 97 ≤ c.toNat ∧ c.toNat ≤ 122 then c.toNat - 32 else c.toNat := by
  unfold upperAscii
  split_ifs with h
  · have valid : (c.toNat - 32).isValidChar := .inl (by omega)
    rw [Char.ofNat, dif_pos valid]
    rfl
  · rfl

theorem upperAscii_eq_iff {c d : Char} : upperAscii c = upperAscii d ↔ SameLetter c d := by
  rw [SameLetter, ← Char.toNat_inj, ← Char.toNat_inj, toNat_upperAscii, toNat_upperAscii]
  split_ifs <;> omega

theorem upperAscii_upperAscii (c : Char) : upperAscii (upperAscii c) = upperAscii c := by
  rw [← Char.toNat_inj, toNat_upperAscii (upperAscii c), toNat_upperAscii]
  split_ifs <;> omega

theorem map_upperAscii_eq_iff {key other : List Char} :
    key.map upperAscii = other.map upperAscii ↔ List.Forall₂ SameLetter key other := by
  rw [← List.forall₂_eq_eq_eq, List.forall₂_map_left_iff, List.forall₂_map_right_iff]
  simp only [upperAscii_eq_iff]

variable {key other value new : String}

theorem upperKey_eq_iff : upperKey key = upperKey other ↔ SameKey key other := by
  rw [upperKey, upperKey, String.ofList_inj, map_upperAscii_eq_iff]
  rfl

theorem sameIgnoringCase_iff :
    sameIgnoringCase key.toList other.toList = true ↔ SameKey key other := by
  rw [sameIgnoringCase, beq_iff_eq, map_upperAscii_eq_iff]
  rfl

theorem upperKey_upperKey (key : String) : upperKey (upperKey key) = upperKey key := by
  rw [upperKey, upperKey, String.toList_ofList, List.map_map]
  congr 1
  exact List.map_congr_left fun c _ => upperAscii_upperAscii c

/-! ### One more entry -/

/-- The keys of a channel. -/
def Channel.keys (c : Channel) : List String := c.entries.map (·.1)

/-- A channel whose keys are in upper case, none of them twice. -/
structure Channel.Tidy (c : Channel) : Prop where
  upper : ∀ key ∈ c.keys, upperKey key = key
  nodup : c.keys.Nodup

variable {c : Channel} {entries : List (String × String)}

theorem map_setEntry (key value : String) (entries : List (String × String)) :
    (setEntry key value entries).map (·.1) =
      if key ∈ entries.map (·.1) then entries.map (·.1) else entries.map (·.1) ++ [key] := by
  by_cases h : key ∈ entries.map (·.1)
  · rw [if_pos h]
    induction entries with
    | nil => simp at h
    | cons e entries ih =>
        by_cases he : e.1 = key
        · simp [setEntry, he]
        · have rest : key ∈ entries.map (·.1) :=
            (List.mem_cons.mp h).resolve_left (Ne.symm he)
          simp [setEntry, he, ih rest]
  · rw [if_neg h, setEntry_of_not_mem h]
    simp

theorem mem_setEntry_iff (once : (entries.map (·.1)).Nodup) :
    (other, value) ∈ setEntry key new entries ↔
      other = key ∧ value = new ∨ other ≠ key ∧ (other, value) ∈ entries := by
  induction entries with
  | nil => simp [setEntry]
  | cons e entries ih =>
      obtain ⟨k, v⟩ := e
      rw [List.map_cons, List.nodup_cons] at once
      have gone : ∀ v', (k, v') ∉ entries := fun v' h => once.1 (List.mem_map.mpr ⟨_, h, rfl⟩)
      by_cases he : k = key
      · subst he
        by_cases ho : other = k
        · subst ho
          simp [setEntry, gone]
        · simp [setEntry, ho]
      · by_cases ho : other = k
        · subst ho
          simp [setEntry, he, gone, ih once.2]
        · simp [setEntry, he, ho, ih once.2]

namespace Channel

/-- A new key goes behind the others, and a known one stays where it is. -/
theorem keys_insert (c : Channel) (key value : String) :
    (c.insert key value).keys =
      if upperKey key ∈ c.keys then c.keys else c.keys ++ [upperKey key] :=
  map_setEntry ..

theorem Tidy.insert (h : c.Tidy) (key value : String) : (c.insert key value).Tidy := by
  by_cases hk : upperKey key ∈ c.keys
  · have same : (c.insert key value).keys = c.keys := by rw [keys_insert, if_pos hk]
    exact ⟨same ▸ h.upper, same ▸ h.nodup⟩
  · have longer : (c.insert key value).keys = c.keys ++ [upperKey key] := by
      rw [keys_insert, if_neg hk]
    constructor
    · intro k hm
      rw [longer, List.mem_append, List.mem_singleton] at hm
      obtain hm | rfl := hm
      · exact h.upper k hm
      · exact upperKey_upperKey key
    · rw [longer, List.nodup_append]
      refine ⟨h.nodup, List.nodup_singleton _, ?_⟩
      rintro k hm _ hs rfl
      exact hk (List.mem_singleton.mp hs ▸ hm)

/-- Only what stands under the key changes. -/
theorem mem_insert_iff (h : c.Tidy) : (other, value) ∈ (c.insert key new).entries ↔
    other = upperKey key ∧ value = new ∨ other ≠ upperKey key ∧ (other, value) ∈ c.entries :=
  mem_setEntry_iff h.nodup

theorem Tidy.eq_upperKey (h : c.Tidy) {e : String × String} (he : e ∈ c.entries)
    (same : SameKey e.1 key) : e.1 = upperKey key := by
  rw [← upperKey_eq_iff, h.upper e.1 (List.mem_map_of_mem he)] at same
  exact same

theorem get?_eq (c : Channel) (key : String) : c.get? key =
    (c.entries.find? fun e => sameIgnoringCase e.1.toList key.toList).map (·.2) := rfl

/-- What is found for a key is what stands under it in upper case. -/
theorem Tidy.get?_eq_some_iff (h : c.Tidy) :
    c.get? key = some value ↔ (upperKey key, value) ∈ c.entries := by
  have found : ∀ {e}, (c.entries.find? fun e => sameIgnoringCase e.1.toList key.toList) = some e →
      e ∈ c.entries ∧ e.1 = upperKey key := by
    intro e hf
    have he := List.mem_of_find?_eq_some hf
    have hs := List.find?_some hf
    exact ⟨he, h.eq_upperKey he (sameIgnoringCase_iff.mp hs)⟩
  rw [get?_eq, Option.map_eq_some_iff]
  constructor
  · rintro ⟨e, hf, rfl⟩
    obtain ⟨he, hk⟩ := found hf
    rw [← hk]
    exact he
  · intro hm
    have same : SameKey (upperKey key) key := upperKey_eq_iff.mp (upperKey_upperKey key)
    have some : (c.entries.find? fun e => sameIgnoringCase e.1.toList key.toList).isSome := by
      rw [List.find?_isSome]
      exact ⟨_, hm, sameIgnoringCase_iff.mpr same⟩
    obtain ⟨e, hf⟩ := Option.isSome_iff_exists.mp some
    obtain ⟨he, hk⟩ := found hf
    have only : e = (upperKey key, value) := List.inj_on_of_nodup_map h.nodup he hm hk
    exact ⟨e, hf, by rw [only]⟩

theorem Tidy.get?_eq_none_iff (h : c.Tidy) : c.get? key = none ↔ upperKey key ∉ c.keys := by
  rw [keys, List.mem_map, Option.eq_none_iff_forall_ne_some]
  simp only [ne_eq, h.get?_eq_some_iff]
  constructor
  · rintro hn ⟨⟨k, v⟩, he, rfl⟩
    exact hn v he
  · intro hn value hm
    exact hn ⟨_, hm, rfl⟩

end Channel

/-! ### Entries one after the other -/

/-- The last of some entries under a key, in whatever case, has this value. -/
def LastSet (entries : List (String × String)) (key value : String) : Prop :=
  ∃ before written later, entries = before ++ (written, value) :: later ∧ SameKey written key ∧
    ∀ e ∈ later, ¬SameKey e.1 key

theorem not_lastSet_nil : ¬LastSet [] key value := by
  rintro ⟨before, written, later, h, -⟩
  simp at h

theorem lastSet_append_iff : LastSet (entries ++ [(other, new)]) key value ↔
    SameKey other key ∧ value = new ∨ ¬SameKey other key ∧ LastSet entries key value := by
  constructor
  · rintro ⟨before, written, later, h, same, none⟩
    rcases List.eq_nil_or_concat later with rfl | ⟨later, e, rfl⟩
    · obtain ⟨-, he⟩ := List.append_inj' h rfl
      obtain ⟨rfl, rfl⟩ : other = written ∧ new = value := by simpa using he
      exact .inl ⟨same, rfl⟩
    · rw [List.concat_eq_append] at h none
      rw [← List.cons_append, ← List.append_assoc] at h
      obtain ⟨rfl, he⟩ := List.append_inj' h rfl
      obtain rfl : (other, new) = e := by simpa using he
      refine .inr ⟨none (other, new) (by simp), before, written, later, rfl, same, ?_⟩
      intro e he
      exact none e (List.mem_append_left _ he)
  · rintro (⟨same, rfl⟩ | ⟨differs, before, written, later, rfl, same, none⟩)
    · exact ⟨entries, other, [], rfl, same, by simp⟩
    · refine ⟨before, written, later ++ [(other, new)], by simp, same, ?_⟩
      intro e he
      rcases List.mem_append.mp he with he | he
      · exact none e he
      · rw [List.mem_singleton.mp he]
        exact differs

theorem lastSet_congr (h : upperKey key = upperKey other) :
    LastSet entries key value ↔ LastSet entries other value := by
  simp only [LastSet, ← upperKey_eq_iff, h]

namespace Channel

theorem kept_concat (name : String) (entries : List (String × String)) (key value : String) :
    kept ⟨name, entries ++ [(key, value)]⟩ = (kept ⟨name, entries⟩).insert key value :=
  kept_append ⟨name, entries⟩ key value

theorem tidy_kept (name : String) (entries : List (String × String)) :
    (kept ⟨name, entries⟩).Tidy := by
  induction entries using List.reverseRecOn with
  | nil => exact ⟨by simp [kept, keys], by simp [kept, keys]⟩
  | append_singleton entries e ih =>
      rw [kept_concat]
      exact ih.insert e.1 e.2

/-- Keys stand in the order in which they were set first. -/
theorem keys_kept (name : String) (entries : List (String × String)) :
    (kept ⟨name, entries⟩).keys = (entries.map (upperKey ·.1)).eraseDups := by
  induction entries using List.reverseRecOn with
  | nil => rfl
  | append_singleton entries e ih =>
      rw [kept_concat, keys_insert, ih, List.map_append, List.eraseDups_append]
      by_cases h : upperKey e.1 ∈ entries.map (upperKey ·.1)
      · rw [if_pos (List.mem_eraseDups.mpr h)]
        simp [List.removeAll, h]
      · rw [if_neg (mt List.mem_eraseDups.mp h)]
        simp [List.removeAll, List.eraseDups_cons, h]

theorem mem_kept_iff (name : String) (entries : List (String × String)) :
    (key, value) ∈ (kept ⟨name, entries⟩).entries ↔
      upperKey key = key ∧ LastSet entries key value := by
  induction entries using List.reverseRecOn with
  | nil => simp [kept, not_lastSet_nil]
  | append_singleton entries e ih =>
      rw [kept_concat, mem_insert_iff (tidy_kept name entries), ih, lastSet_append_iff,
        ← upperKey_eq_iff]
      constructor
      · rintro (⟨rfl, rfl⟩ | ⟨differs, upper, last⟩)
        · exact ⟨upperKey_upperKey _, .inl ⟨(upperKey_upperKey _).symm, rfl⟩⟩
        · refine ⟨upper, .inr ⟨?_, last⟩⟩
          rw [upper]
          exact Ne.symm differs
      · rintro ⟨upper, h⟩
        rw [upper] at h
        obtain ⟨same, rfl⟩ | ⟨differs, last⟩ := h
        · exact .inl ⟨same.symm, rfl⟩
        · exact .inr ⟨Ne.symm differs, upper, last⟩

end Channel

/-- Whatever entries are set, the keys that are kept are theirs in upper case, each once and in the
order in which they were set first. What is kept under a key, and what is found for a key in any
case, is the value that was set last under the same key; nothing is found for a key that was not
set. -/
theorem kept_holds_last (name : String) (entries : List (String × String)) :
    let c := Channel.kept ⟨name, entries⟩
    c.keys = (entries.map (upperKey ·.1)).eraseDups ∧ c.keys.Nodup ∧
    (∀ key value, (key, value) ∈ c.entries ↔ key ∈ c.keys ∧ LastSet entries key value) ∧
    ∀ key, (∀ value, c.get? key = some value ↔ LastSet entries key value) ∧
      (c.get? key = none ↔ ∀ e ∈ entries, ¬SameKey e.1 key) := by
  intro c
  have tidy : c.Tidy := Channel.tidy_kept name entries
  have keys : c.keys = _ := Channel.keys_kept name entries
  have held : ∀ {key value}, (key, value) ∈ c.entries ↔ _ := Channel.mem_kept_iff name entries
  refine ⟨keys, tidy.nodup, ?_, ?_⟩
  · intro key value
    constructor
    · intro hm
      exact ⟨List.mem_map_of_mem hm, (held.mp hm).2⟩
    · rintro ⟨hk, last⟩
      exact held.mpr ⟨tidy.upper key hk, last⟩
  · intro key
    constructor
    · intro value
      rw [tidy.get?_eq_some_iff, held, lastSet_congr (upperKey_upperKey key)]
      simp [upperKey_upperKey]
    · rw [tidy.get?_eq_none_iff, keys, List.mem_eraseDups, List.mem_map]
      simp only [upperKey_eq_iff, not_exists, not_and]

/-- A key set twice stays where it is, and one with a letter beyond Z is another in the other
case. -/
example : (Channel.kept ⟨"", [("Freq", "1"), ("ß", ""), ("é", "2"), ("FREQ", "3"), ("É", "4")]⟩) =
    ⟨"", [("FREQ", "3"), ("ß", ""), ("é", "2"), ("É", "4")]⟩ := by decide

end Multiplex.Scan
