import Multiplex.Proofs.Demux.Registry

/-!
# A handle is given once

The slots of a registry are used again, but their handles are not: the handles of a slot carry the
generations 0, 1, 2 and so on, in the order in which they were given. Generations are 32-bit words,
so that this keeps handles apart as long as no slot is released 2³² times.

Main statements:

* `Registry.get?_insert`, `Registry.get?_remove`: an operation changes what its own handle leads to,
  and no other;
* `Registry.Numbered.insert`, `Registry.Numbered.remove`, `Registry.Numbered.drain`: each operation
  keeps count of the handles given;
* `Registry.Numbered.nodup`: handles that were not given too often are all different.
-/

namespace Multiplex.Demux

variable {α : Type}

/-! ### What a handle leads to -/

namespace Registry

/-- A slot that holds a value is not among those that are used next. -/
theorem get?_insert_of_get? {r : Registry α} (hr : r.Valid) (a : α) {id : FilterId} {b : α}
    (h : r.get? id = some b) : (r.insert a).2.get? id = some b := by
  rw [get?_eq_some_iff] at h ⊢
  cases hf : r.free with
  | nil =>
      rw [insert_of_free_nil hf]
      have hi := (List.getElem?_eq_some_iff.mp h).1
      rw [← h]
      exact List.getElem?_append_left hi
  | cons i free =>
      obtain ⟨s, hs, hv⟩ := (hr.vacant i).mp (hf ▸ List.mem_cons_self)
      have hne : i ≠ id.index := by
        rintro rfl
        rw [h, Option.some.injEq] at hs
        rw [← hs] at hv
        cases hv
      rw [insert_of_free_cons hf hs, ← h]
      exact List.getElem?_set_ne hne

theorem get?_insert {r : Registry α} (hr : r.Valid) (a : α) (id : FilterId) :
    (r.insert a).2.get? id = if id = (r.insert a).1 then some a else r.get? id := by
  by_cases he : id = (r.insert a).1
  · rw [if_pos he, he]
    exact (insert_spec hr a).2
  · rw [if_neg he]
    cases h : r.get? id with
    | some b => exact get?_insert_of_get? hr a h
    | none =>
        cases h' : (r.insert a).2.get? id with
        | none => rfl
        | some b =>
            rcases get?_of_insert hr h' with hb | hb
            · rw [h] at hb
              cases hb
            · exact absurd hb.1 he

theorem mem_occupied_iff_get? {r : Registry α} {index : Nat} :
    index ∈ r.occupied ↔ ∃ generation a, r.get? ⟨index, generation⟩ = some a := by
  rw [mem_occupied_iff]
  simp only [get?_eq_some_iff]
  constructor
  · rintro ⟨⟨generation, value?⟩, hs, hv⟩
    obtain ⟨a, rfl⟩ := Option.isSome_iff_exists.mp hv
    exact ⟨generation, a, hs⟩
  · rintro ⟨generation, a, hs⟩
    exact ⟨_, hs, rfl⟩

/-- A value is added in a slot that holds none. -/
theorem index_insert_not_mem {r : Registry α} (hr : r.Valid) (a : α) :
    (r.insert a).1.index ∉ r.occupied := by
  rw [mem_occupied_iff]
  rintro ⟨s, hs, hv⟩
  cases hf : r.free with
  | nil =>
      rw [insert_of_free_nil hf] at hs
      simp at hs
  | cons i free =>
      obtain ⟨t, ht, hn⟩ := (hr.vacant i).mp (hf ▸ List.mem_cons_self)
      rw [insert_of_free_cons hf ht, ht, Option.some.injEq] at hs
      rw [← hs, hn] at hv
      cases hv

theorem get?_insert_id {r : Registry α} (hr : r.Valid) (a : α) : r.get? (r.insert a).1 = none := by
  cases h : r.get? (r.insert a).1 with
  | none => rfl
  | some b => exact absurd (mem_occupied_iff_get?.mpr ⟨_, b, h⟩) (index_insert_not_mem hr a)

theorem get?_remove {r r' : Registry α} {id : FilterId} {a : α} (h : r.remove id = some (a, r'))
    (id' : FilterId) : r'.get? id' = if id' = id then none else r.get? id' := by
  obtain ⟨ha, rfl⟩ := remove_eq_some_iff.mp h
  rw [get?_eq_some_iff] at ha
  have hi := (List.getElem?_eq_some_iff.mp ha).1
  -- A value is there afterwards just if it is in another slot.
  have key : ∀ b, get? ⟨r.slots.set id.index ⟨id.generation + 1, none⟩, id.index :: r.free,
      r.size - 1⟩ id' = some b ↔ id' ≠ id ∧ r.get? id' = some b := by
    intro b
    rw [get?_eq_some_iff, get?_eq_some_iff]
    by_cases he : id.index = id'.index
    · rw [← he, List.getElem?_set_self hi, ha]
      constructor
      · intro hb
        simp at hb
      · rintro ⟨hne, hb⟩
        rw [Option.some.injEq, Slot.mk.injEq] at hb
        refine absurd ?_ hne
        obtain ⟨index, generation⟩ := id
        obtain ⟨index', generation'⟩ := id'
        rw [FilterId.mk.injEq]
        exact ⟨he.symm, hb.1.symm⟩
    · rw [List.getElem?_set_ne he]
      constructor
      · intro hb
        refine ⟨?_, hb⟩
        rintro rfl
        exact he rfl
      · exact And.right
  refine Option.ext fun b => ?_
  rw [key]
  split_ifs with he
  · simp [he]
  · simp [he]

end Registry

/-! ### Counting handles -/

/-- The generations of the handles of a slot, in the order in which these were given. -/
def generationsAt (index : Nat) (given : List FilterId) : List UInt32 :=
  (given.filter (·.index = index)).map (·.generation)

theorem generationsAt_append (index : Nat) (given more : List FilterId) :
    generationsAt index (given ++ more) =
      generationsAt index given ++ generationsAt index more := by
  unfold generationsAt
  rw [List.filter_append, List.map_append]

theorem generationsAt_singleton (index : Nat) (id : FilterId) :
    generationsAt index [id] = if id.index = index then [id.generation] else [] := by
  unfold generationsAt
  by_cases h : id.index = index
  · simp [h]
  · simp [h]

namespace Registry

/-- What becomes of a slot to which so many handles were given. Its generation counts the values
that left it: all, or all but the one that is there. -/
inductive Used : Option (Slot α) → Nat → Prop
  | never : Used none 0
  | vacant (k : Nat) : Used (some ⟨.ofNat k, none⟩) k
  | occupied (k : Nat) (a : α) : Used (some ⟨.ofNat k, some a⟩) (k + 1)

theorem Used.vacated {s : Slot α} {k : Nat} (h : Used (some s) k) (hv : s.value?.isSome) :
    Used (some s.vacated) k := by
  cases h with
  | vacant => cases hv
  | occupied k a =>
      have e : UInt32.ofNat k + 1 = UInt32.ofNat (k + 1) := (UInt32.ofNat_add k 1).symm
      unfold Slot.vacated
      rw [e]
      exact .vacant (k + 1)

/-- The handles that were given for each slot carry the generations from zero on, in order. -/
def Numbered (r : Registry α) (given : List FilterId) : Prop :=
  ∀ index, ∃ k, Used r.slots[index]? k ∧ generationsAt index given = (List.range k).map .ofNat

theorem numbered_empty : (empty : Registry α).Numbered [] :=
  fun _ => ⟨0, .never, rfl⟩

namespace Numbered

variable {r r' : Registry α} {given : List FilterId}

/-- The slots in which a registry changes are vacated. -/
theorem vacate (h : r.Numbered given)
    (hs : ∀ index : Nat, r'.slots[index]? = r.slots[index]? ∨
      ∃ s : Slot α, r.slots[index]? = some s ∧ s.value?.isSome ∧
        r'.slots[index]? = some s.vacated) :
    r'.Numbered given := by
  intro index
  obtain ⟨k, hu, hg⟩ := h index
  refine ⟨k, ?_, hg⟩
  rcases hs index with he | ⟨s, he, hv, he'⟩
  · rw [he]
    exact hu
  · rw [he']
    rw [he] at hu
    exact hu.vacated hv

theorem remove (h : r.Numbered given) {id : FilterId} {a : α} (hr : r.remove id = some (a, r')) :
    r'.Numbered given := by
  obtain ⟨ha, rfl⟩ := remove_eq_some_iff.mp hr
  rw [get?_eq_some_iff] at ha
  refine h.vacate fun index => ?_
  by_cases he : id.index = index
  · subst he
    refine .inr ⟨_, ha, rfl, ?_⟩
    exact List.getElem?_set_self (List.getElem?_eq_some_iff.mp ha).1
  · exact .inl (List.getElem?_set_ne he)

theorem drain (h : r.Numbered given) : r.drain.2.Numbered given := by
  refine h.vacate fun index => ?_
  change (r.slots.map _)[index]? = _ ∨ ∃ s : Slot α, _ ∧ _ ∧ (r.slots.map _)[index]? = _
  rw [List.getElem?_map]
  cases hs : r.slots[index]? with
  | none => exact .inl rfl
  | some s =>
      cases hv : s.value?.isSome with
      | false => simp [hv]
      | true => exact .inr ⟨s, rfl, hv, by simp [hv]⟩

/-- A new handle carries the number of those that were given for its slot before. -/
theorem insert (h : r.Numbered given) (hr : r.Valid) (a : α) :
    (r.insert a).2.Numbered (given ++ [(r.insert a).1]) := by
  intro index
  rw [generationsAt_append, generationsAt_singleton]
  obtain ⟨k, hu, hg⟩ := h index
  cases hf : r.free with
  | nil =>
      rw [insert_of_free_nil hf]
      dsimp only
      by_cases he : r.slots.length = index
      · subst he
        rw [List.getElem?_eq_none (le_refl _)] at hu
        cases hu
        refine ⟨1, ?_, ?_⟩
        · rw [List.getElem?_concat_length]
          exact .occupied 0 a
        · rw [hg, if_pos rfl]
          rfl
      · refine ⟨k, ?_, ?_⟩
        · rcases getElem?_concat_cases r.slots ⟨0, some a⟩ index with hi | ⟨hi, -⟩
          · rw [hi]
            exact hu
          · exact absurd hi.symm he
        · rw [hg, if_neg he, List.append_nil]
  | cons i free =>
      obtain ⟨s, hs, hv⟩ := (hr.vacant i).mp (hf ▸ List.mem_cons_self)
      rw [insert_of_free_cons hf hs]
      dsimp only
      by_cases he : i = index
      · subst he
        rw [hs] at hu
        cases hu with
        | occupied => cases hv
        | vacant =>
            refine ⟨k + 1, ?_, ?_⟩
            · rw [List.getElem?_set_self (List.getElem?_eq_some_iff.mp hs).1]
              exact .occupied k a
            · rw [hg, if_pos rfl, List.range_succ, List.map_append]
              rfl
      · refine ⟨k, ?_, ?_⟩
        · rw [List.getElem?_set_ne he]
          exact hu
        · rw [hg, if_neg he, List.append_nil]

/-- Handles are all different, unless a slot was used more often than generations can tell. -/
theorem nodup (h : r.Numbered given)
    (few : ∀ index, (generationsAt index given).length ≤ 2 ^ 32) : given.Nodup := by
  refine List.nodup_iff_count_le_one.mpr fun id => ?_
  obtain ⟨k, -, hg⟩ := h id.index
  have hk : k ≤ 2 ^ 32 := by
    have hl := few id.index
    rwa [hg, List.length_map, List.length_range] at hl
  have hn : (generationsAt id.index given).Nodup := by
    rw [hg]
    refine List.nodup_range.map_on fun i hi j hj he => ?_
    rw [List.mem_range] at hi hj
    have := congrArg UInt32.toNat he
    rw [UInt32.toNat_ofNat_of_lt' (by simpa using hi.trans_le hk),
      UInt32.toNat_ofNat_of_lt' (by simpa using hj.trans_le hk)] at this
    exact this
  have h1 : given.count id = (given.filter (·.index = id.index)).count id :=
    (List.count_filter (by simp)).symm
  rw [h1]
  exact (List.count_le_count_map).trans (List.nodup_iff_count_le_one.mp hn id.generation)

end Numbered

end Registry

end Multiplex.Demux
