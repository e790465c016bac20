import Multiplex.Demux.Registry
import Mathlib.Tactic

/-!
# Registries keep what they hold

A registry is `Valid` when its free list names each vacant slot once and its size counts its values.
Every operation keeps that, and changes the values by just the one that it adds or takes out.

Main statements:

* `Registry.insert_spec`: a value is added, under a handle that leads to it;
* `Registry.perm_of_remove`: the value under a handle is taken out, and no other;
* `Registry.get?_unique`: a value that is held once is under one handle only.
-/

namespace Multiplex.Demux

variable {α β : Type}

/-! ### Lists with a place changed -/

theorem perm_cons_eraseIdx {l : List α} {i : Nat} {x : α} (h : l[i]? = some x) :
    l.Perm (x :: l.eraseIdx i) := by
  obtain ⟨hi, rfl⟩ := List.getElem?_eq_some_iff.mp h
  exact (List.getElem_cons_eraseIdx_perm hi).symm

theorem set_perm_cons_eraseIdx {l : List α} {i : Nat} (h : i < l.length) (y : α) :
    (l.set i y).Perm (y :: l.eraseIdx i) := by
  have := perm_cons_eraseIdx (l := l.set i y) (i := i) (x := y) (by simp [h])
  rwa [List.eraseIdx_set_eq] at this

theorem getElem?_concat_cases (l : List α) (x : α) (i : Nat) :
    (l ++ [x])[i]? = l[i]? ∨ i = l.length ∧ (l ++ [x])[i]? = some x := by
  rcases Nat.lt_trichotomy i l.length with hi | rfl | hi
  · exact .inl (List.getElem?_append_left hi)
  · exact .inr ⟨rfl, List.getElem?_concat_length⟩
  · refine .inl ?_
    rw [List.getElem?_eq_none hi.le, List.getElem?_eq_none]
    rw [List.length_append, List.length_singleton]
    omega

/-- What two places give is there twice. -/
theorem two_le_count_flatMap [DecidableEq β] {l : List α} {i j : Nat} {x y : α}
    (hx : l[i]? = some x) (hy : l[j]? = some y) (hne : i ≠ j) (g : α → List β) {b : β}
    (hbx : b ∈ g x) (hby : b ∈ g y) : 2 ≤ (l.flatMap g).count b := by
  have hm : y ∈ l.eraseIdx i := List.mem_eraseIdx_iff_getElem?.mpr ⟨j, hne.symm, hy⟩
  have h1 := List.count_pos_iff.mpr hbx
  have h2 := List.count_pos_iff.mpr (List.mem_flatMap.mpr ⟨y, hm, hby⟩)
  rw [((perm_cons_eraseIdx hx).flatMap_right g).count_eq, List.flatMap_cons, List.count_append]
  omega

namespace Registry

theorem values_eq_flatMap (r : Registry α) : r.values = r.slots.flatMap (·.value?.toList) := by
  rw [values, List.filterMap_eq_flatMap_toList]

/-- The free list names each vacant slot once, and the size counts the values. -/
structure Valid (r : Registry α) : Prop where
  size : r.size = r.values.length
  vacant : ∀ i, i ∈ r.free ↔ ∃ s, r.slots[i]? = some s ∧ s.value? = none
  nodup : r.free.Nodup

theorem valid_empty : (empty : Registry α).Valid where
  size := rfl
  vacant := by simp [empty]
  nodup := List.nodup_nil

theorem get?_eq_some_iff {r : Registry α} {id : FilterId} {a : α} :
    r.get? id = some a ↔ r.slots[id.index]? = some ⟨id.generation, some a⟩ := by
  unfold get? slot?
  cases h : r.slots[id.index]? with
  | none => simp
  | some s =>
      obtain ⟨generation, value?⟩ := s
      by_cases hg : generation = id.generation
      · simp [Option.filter, hg]
      · simp [Option.filter, hg]

theorem mem_values_iff {r : Registry α} {a : α} : a ∈ r.values ↔ ∃ id, r.get? id = some a := by
  unfold values
  rw [List.mem_filterMap]
  constructor
  · rintro ⟨⟨generation, value?⟩, hs, rfl⟩
    obtain ⟨i, hi⟩ := List.mem_iff_getElem?.mp hs
    exact ⟨⟨i, generation⟩, get?_eq_some_iff.mpr hi⟩
  · rintro ⟨id, h⟩
    exact ⟨_, List.mem_of_getElem? (get?_eq_some_iff.mp h), rfl⟩

/-- A value that is held once is under one handle only. -/
theorem get?_unique [DecidableEq α] {r : Registry α} {id id' : FilterId} {a : α}
    (h : r.get? id = some a) (h' : r.get? id' = some a) (once : r.values.count a ≤ 1) :
    id = id' := by
  rw [get?_eq_some_iff] at h h'
  by_cases hi : id.index = id'.index
  · rw [hi, h', Option.some.injEq, Slot.mk.injEq] at h
    obtain ⟨index, generation⟩ := id
    obtain ⟨index', generation'⟩ := id'
    rw [FilterId.mk.injEq]
    exact ⟨hi, h.1.symm⟩
  · have := two_le_count_flatMap h h' hi (·.value?.toList) (b := a) (by simp) (by simp)
    rw [values_eq_flatMap] at once
    omega

/-! ### Taking out -/

theorem remove_eq_some_iff {r r' : Registry α} {id : FilterId} {a : α} :
    r.remove id = some (a, r') ↔ r.get? id = some a ∧
      r' = ⟨r.slots.set id.index ⟨id.generation + 1, none⟩, id.index :: r.free, r.size - 1⟩ := by
  unfold remove get?
  cases h : r.slot? id with
  | none => simp
  | some s =>
      have hg : s.generation = id.generation := by
        have := (Option.filter_eq_some_iff.mp h).2
        simpa using this
      obtain ⟨generation, value?⟩ := s
      obtain rfl : generation = id.generation := hg
      cases value? with
      | none => simp
      | some b => simp [Slot.vacated, eq_comm]

theorem remove_eq_none_iff {r : Registry α} {id : FilterId} :
    r.remove id = none ↔ r.get? id = none := by
  unfold remove get?
  cases r.slot? id with
  | none => simp
  | some s => simp

/-- What is there after a value was taken out was there before. -/
theorem get?_of_remove {r r' : Registry α} {id id' : FilterId} {a b : α}
    (h : r.remove id = some (a, r')) (hb : r'.get? id' = some b) : r.get? id' = some b := by
  obtain ⟨ha, rfl⟩ := remove_eq_some_iff.mp h
  rw [get?_eq_some_iff] at ha hb ⊢
  by_cases hi : id.index = id'.index
  · rw [← hi, List.getElem?_set_self (List.getElem?_eq_some_iff.mp ha).1] at hb
    simp at hb
  · rwa [List.getElem?_set_ne hi] at hb

theorem perm_of_remove {r r' : Registry α} {id : FilterId} {a : α}
    (h : r.remove id = some (a, r')) : r.values.Perm (a :: r'.values) := by
  obtain ⟨ha, rfl⟩ := remove_eq_some_iff.mp h
  rw [get?_eq_some_iff] at ha
  have h1 := (perm_cons_eraseIdx ha).filterMap (·.value?)
  have h2 := (set_perm_cons_eraseIdx (List.getElem?_eq_some_iff.mp ha).1
    ⟨id.generation + 1, none⟩).filterMap (·.value?)
  exact h1.trans (h2.symm.cons a)

theorem Valid.remove {r r' : Registry α} (hr : r.Valid) {id : FilterId} {a : α}
    (h : r.remove id = some (a, r')) : r'.Valid := by
  obtain ⟨ha, he⟩ := remove_eq_some_iff.mp h
  subst he
  rw [get?_eq_some_iff] at ha
  have hi := (List.getElem?_eq_some_iff.mp ha).1
  have hfree : id.index ∉ r.free := by
    intro hm
    obtain ⟨s, hs, hv⟩ := (hr.vacant _).mp hm
    rw [ha, Option.some.injEq] at hs
    rw [← hs] at hv
    cases hv
  refine ⟨?_, fun i => ?_, List.nodup_cons.mpr ⟨hfree, hr.nodup⟩⟩
  · have hp := (perm_of_remove h).length_eq
    rw [List.length_cons, ← hr.size] at hp
    exact Nat.sub_eq_of_eq_add hp
  · rw [List.mem_cons, hr.vacant]
    by_cases he : i = id.index
    · simp [he, hi]
    · simp [he, List.getElem?_set_ne (Ne.symm he)]

theorem values_drain (r : Registry α) : r.drain.2.values = [] := by
  unfold values drain
  rw [List.filterMap_eq_nil_iff]
  intro s hs
  obtain ⟨t, -, rfl⟩ := List.mem_map.mp hs
  split_ifs with h
  · rfl
  · simpa using h

theorem get?_drain (r : Registry α) (id : FilterId) : r.drain.2.get? id = none := by
  cases h : r.drain.2.get? id with
  | none => rfl
  | some a =>
      have := mem_values_iff.mpr ⟨id, h⟩
      rw [values_drain] at this
      cases this

theorem mem_occupied_iff {r : Registry α} {i : Nat} :
    i ∈ r.occupied ↔ ∃ s, r.slots[i]? = some s ∧ s.value?.isSome := by
  unfold occupied
  simp only [List.mem_map, List.mem_filter, Prod.exists, List.mem_zipIdx_iff_getElem?]
  constructor
  · rintro ⟨s, _, ⟨hs, hv⟩, rfl⟩
    exact ⟨s, hs, hv⟩
  · rintro ⟨s, hs, hv⟩
    exact ⟨s, i, ⟨hs, hv⟩, rfl⟩

theorem nodup_occupied (r : Registry α) : r.occupied.Nodup := by
  have h : (r.slots.zipIdx.map Prod.snd).Nodup := by
    rw [List.zipIdx_map_snd]
    exact List.nodup_range'
  exact h.sublist (List.filter_sublist.map _)

theorem Valid.drain {r : Registry α} (hr : r.Valid) : r.drain.2.Valid where
  size := by
    rw [values_drain]
    rfl
  vacant i := by
    change i ∈ r.occupied.reverse ++ r.free ↔ ∃ s, (r.slots.map _)[i]? = some s ∧ _
    rw [List.mem_append, List.mem_reverse, mem_occupied_iff, hr.vacant, List.getElem?_map]
    cases r.slots[i]? with
    | none => simp
    | some s =>
        obtain ⟨generation, value?⟩ := s
        cases value? <;> simp [Slot.vacated]
  nodup := by
    change (r.occupied.reverse ++ r.free).Nodup
    refine List.nodup_append'.mpr ⟨List.nodup_reverse.mpr r.nodup_occupied, hr.nodup, ?_⟩
    intro i hi hf
    obtain ⟨s, hs, hv⟩ := mem_occupied_iff.mp (List.mem_reverse.mp hi)
    obtain ⟨t, ht, hn⟩ := (hr.vacant i).mp hf
    rw [hs, Option.some.injEq] at ht
    rw [ht, hn] at hv
    cases hv

theorem Valid.drain_eq_self {r : Registry α} (hr : r.Valid) (h : r.values = []) :
    r.drain.2 = r := by
  have hs : ∀ s ∈ r.slots, s.value? = none := List.filterMap_eq_nil_iff.mp h
  have ho : r.occupied = [] := by
    rw [List.eq_nil_iff_forall_not_mem]
    intro i hi
    obtain ⟨s, he, hv⟩ := mem_occupied_iff.mp hi
    rw [hs s (List.mem_of_getElem? he)] at hv
    cases hv
  have hm : r.slots.map (fun s => if s.value?.isSome then s.vacated else s) = r.slots := by
    refine (List.map_congr_left fun s he => ?_).trans (List.map_id _)
    rw [hs s he]
    rfl
  have hz : r.size = 0 := by rw [hr.size, h, List.length_nil]
  obtain ⟨slots, free, size⟩ := r
  dsimp only at hm hz
  change (⟨List.map _ slots, (occupied _).reverse ++ free, 0⟩ : Registry α) = _
  rw [ho, hm, hz]
  rfl

/-! ### Adding -/

theorem insert_of_free_nil {r : Registry α} (h : r.free = []) (a : α) :
    r.insert a = (⟨r.slots.length, 0⟩, ⟨r.slots ++ [⟨0, some a⟩], [], r.size + 1⟩) := by
  unfold insert
  rw [h]

theorem insert_of_free_cons {r : Registry α} {i : Nat} {free : List Nat} {s : Slot α}
    (h : r.free = i :: free) (hs : r.slots[i]? = some s) (a : α) :
    r.insert a =
      (⟨i, s.generation⟩, ⟨r.slots.set i ⟨s.generation, some a⟩, free, r.size + 1⟩) := by
  unfold insert
  rw [h]
  simp [hs]

theorem perm_insert {r : Registry α} (hr : r.Valid) (a : α) :
    (r.insert a).2.values.Perm (a :: r.values) := by
  cases hf : r.free with
  | nil =>
      rw [insert_of_free_nil hf]
      change (List.filterMap _ (_ ++ _)).Perm _
      rw [List.filterMap_append]
      exact List.perm_append_comm
  | cons i free =>
      obtain ⟨⟨generation, value?⟩, hs, rfl : value? = none⟩ :=
        (hr.vacant i).mp (hf ▸ List.mem_cons_self)
      rw [insert_of_free_cons hf hs]
      have h1 := (perm_cons_eraseIdx hs).filterMap (·.value?)
      have h2 := (set_perm_cons_eraseIdx (List.getElem?_eq_some_iff.mp hs).1
        ⟨generation, some a⟩).filterMap (·.value?)
      exact h2.trans (h1.symm.cons a)

/-- A value is added, under a handle that leads to it. -/
theorem insert_spec {r : Registry α} (hr : r.Valid) (a : α) :
    (r.insert a).2.Valid ∧ (r.insert a).2.get? (r.insert a).1 = some a := by
  have hp := (perm_insert hr a).length_eq
  rw [List.length_cons, ← hr.size] at hp
  cases hf : r.free with
  | nil =>
      rw [insert_of_free_nil hf] at hp ⊢
      refine ⟨⟨hp.symm, fun i => ?_, List.nodup_nil⟩, by simp [get?_eq_some_iff]⟩
      have hv := hr.vacant i
      rw [hf] at hv
      simp only [List.not_mem_nil, false_iff, not_exists, not_and] at hv ⊢
      intro s hs
      rcases getElem?_concat_cases r.slots ⟨0, some a⟩ i with hi | ⟨-, hi⟩
      · exact hv s (hi ▸ hs)
      · rw [hi, Option.some.injEq] at hs
        simp [← hs]
  | cons i free =>
      obtain ⟨⟨generation, value?⟩, hs, rfl : value? = none⟩ :=
        (hr.vacant i).mp (hf ▸ List.mem_cons_self)
      have hi := (List.getElem?_eq_some_iff.mp hs).1
      have hn : (i :: free).Nodup := hf ▸ hr.nodup
      rw [insert_of_free_cons hf hs] at hp ⊢
      refine ⟨⟨hp.symm, fun j => ?_, (List.nodup_cons.mp hn).2⟩, by simp [get?_eq_some_iff, hi]⟩
      by_cases hj : j = i
      · simp [hj, hi, (List.nodup_cons.mp hn).1]
      · rw [List.getElem?_set_ne (Ne.symm hj), ← hr.vacant, hf]
        simp [hj]

/-- What is there after a value was added was there before, or is that value. -/
theorem get?_of_insert {r : Registry α} (hr : r.Valid) {a b : α} {id : FilterId}
    (hb : (r.insert a).2.get? id = some b) :
    r.get? id = some b ∨ id = (r.insert a).1 ∧ b = a := by
  rw [get?_eq_some_iff] at hb ⊢
  obtain ⟨index, generation⟩ := id
  cases hf : r.free with
  | nil =>
      rw [insert_of_free_nil hf] at hb ⊢
      rcases getElem?_concat_cases r.slots ⟨0, some a⟩ index with hi | ⟨rfl, hi⟩
      · exact .inl (hi ▸ hb)
      · rw [hi, Option.some.injEq, Slot.mk.injEq, Option.some.injEq] at hb
        exact .inr ⟨congrArg (FilterId.mk _) hb.1.symm, hb.2.symm⟩
  | cons i free =>
      obtain ⟨⟨generation, value?⟩, hs, rfl : value? = none⟩ :=
        (hr.vacant i).mp (hf ▸ List.mem_cons_self)
      have hi := (List.getElem?_eq_some_iff.mp hs).1
      rw [insert_of_free_cons hf hs] at hb ⊢
      dsimp only at hb ⊢
      by_cases hj : i = index
      · rw [← hj, List.getElem?_set_self hi, Option.some.injEq, Slot.mk.injEq,
          Option.some.injEq] at hb
        exact .inr ⟨congrArg₂ FilterId.mk hj.symm hb.1.symm, hb.2.symm⟩
      · rw [List.getElem?_set_ne hj] at hb
        exact .inl hb

end Registry

end Multiplex.Demux
