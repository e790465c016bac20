import Multiplex.Proofs.Demux.Handles

/-!
# Registries are maps with fresh keys

A `FreshMap` says what a registry is for without slots and generations: a finite map that remembers
every key it has given, and never gives one again. Each request to a registry is answered as by such
a map, and a whole sequence of requests is, as long as no slot is released 2³² times.

Main statements:

* `FreshMap.Run.get?_eq_none`: what a key led to does not come back;
* `Registry.Mirrors.step`: one request is answered as by the map;
* `Registry.answers_refine`: every sequence of requests is.
-/

namespace Multiplex.Demux

variable {α : Type}

/-- What a registry is asked for. -/
inductive Request (α : Type)
  | insert (value : α)
  | get (id : FilterId)
  | remove (id : FilterId)
  | drain

/-- What it answers. -/
inductive Answer (α : Type)
  | handle (id : FilterId)
  | value (value? : Option α)
  | values (values : List α)

/-- The handles among some answers. -/
def handles : List (Answer α) → List FilterId :=
  List.filterMap fun
    | .handle id => some id
    | _ => none

/-! ### Maps with fresh keys -/

/-- A finite map, with all keys that it has ever given. -/
structure FreshMap (α : Type) where
  entries : List (FilterId × α) := []
  used : List FilterId := []

namespace FreshMap

/-- The value under a key. -/
def get? (m : FreshMap α) (id : FilterId) : Option α :=
  (m.entries.find? (·.1 = id)).map (·.2)

/-- The map without the value under a key. -/
def erase (m : FreshMap α) (id : FilterId) : FreshMap α :=
  { m with entries := m.entries.filter (·.1 ≠ id) }

/-- What a map may answer to a request, and what it is afterwards. A value is added under a key that
was never given before, and all values are given back in any order. -/
inductive Gives (m : FreshMap α) : Request α → Answer α → FreshMap α → Prop
  | insert (a : α) {id : FilterId} (fresh : id ∉ m.used) :
      Gives m (.insert a) (.handle id) ⟨(id, a) :: m.entries, m.used ++ [id]⟩
  | get (id : FilterId) : Gives m (.get id) (.value (m.get? id)) m
  | remove (id : FilterId) : Gives m (.remove id) (.value (m.get? id)) (m.erase id)
  | drain {values : List α} (all : values.Perm (m.entries.map (·.2))) :
      Gives m .drain (.values values) { m with entries := [] }

/-- A sequence of requests with its answers. -/
inductive Run : FreshMap α → List (Request α) → List (Answer α) → FreshMap α → Prop
  | nil (m : FreshMap α) : Run m [] [] m
  | cons {m m' m'' : FreshMap α} {q : Request α} {a : Answer α} {qs : List (Request α)}
      {as : List (Answer α)} (first : m.Gives q a m') (rest : Run m' qs as m'') :
      Run m (q :: qs) (a :: as) m''

theorem get?_cons (m : FreshMap α) (id id' : FilterId) (a : α) (used : List FilterId) :
    (⟨(id, a) :: m.entries, used⟩ : FreshMap α).get? id' =
      if id' = id then some a else m.get? id' := by
  unfold get?
  rw [List.find?_cons]
  by_cases h : id' = id
  · simp [h]
  · simp [h, Ne.symm h]

theorem get?_erase (m : FreshMap α) (id id' : FilterId) :
    (m.erase id).get? id' = if id' = id then none else m.get? id' := by
  unfold get? erase
  dsimp only
  rw [List.find?_filter]
  split_ifs with h
  · subst h
    simp
  · congr 2
    funext e
    by_cases he : e.1 = id'
    · simp [he, h]
    · simp [he]

theorem erase_eq_self {m : FreshMap α} {id : FilterId} (h : m.get? id = none) : m.erase id = m := by
  rw [get?, Option.map_eq_none_iff, List.find?_eq_none] at h
  have he : m.entries.filter (·.1 ≠ id) = m.entries := by
    rw [List.filter_eq_self]
    intro e hm
    simpa using h e hm
  unfold erase
  rw [he]

/-- What a key led to does not come back. -/
theorem Run.get?_eq_none {m m' : FreshMap α} {qs : List (Request α)} {as : List (Answer α)}
    (h : m.Run qs as m') {id : FilterId} (given : id ∈ m.used) (gone : m.get? id = none) :
    m'.get? id = none := by
  induction h with
  | nil => exact gone
  | @cons m m₁ m₂ q a qs as first _ ih =>
      cases first with
      | insert a fresh =>
          refine ih (List.mem_append_left _ given) ?_
          rw [get?_cons]
          split_ifs with he
          · exact absurd (he ▸ given) fresh
          · exact gone
      | get => exact ih given gone
      | remove id' =>
          refine ih given ?_
          rw [get?_erase]
          split_ifs
          · rfl
          · exact gone
      | drain => exact ih given rfl

theorem Gives.used_eq {m m' : FreshMap α} {q : Request α} {a : Answer α} (h : m.Gives q a m') :
    m'.used = m.used ++ handles [a] := by
  cases h with
  | insert => rfl
  | get => exact (List.append_nil _).symm
  | remove => exact (List.append_nil _).symm
  | drain => exact (List.append_nil _).symm

theorem Run.used_eq {m m' : FreshMap α} {qs : List (Request α)} {as : List (Answer α)}
    (h : m.Run qs as m') : m'.used = m.used ++ handles as := by
  induction h with
  | nil m => exact (List.append_nil _).symm
  | @cons m m₁ m₂ q a qs as first _ ih =>
      rw [ih, first.used_eq, List.append_assoc]
      exact congrArg _ List.filterMap_append.symm

/-- No key is given twice. -/
theorem Run.nodup {m m' : FreshMap α} {qs : List (Request α)} {as : List (Answer α)}
    (h : m.Run qs as m') (hm : m.used.Nodup) : m'.used.Nodup := by
  induction h with
  | nil => exact hm
  | cons first _ ih =>
      refine ih ?_
      cases first with
      | insert a fresh => exact List.nodup_append_comm.mp (List.nodup_cons.mpr ⟨fresh, hm⟩)
      | get => exact hm
      | remove => exact hm
      | drain => exact hm

end FreshMap

/-! ### Requests to a registry -/

namespace Registry

/-- Answers a request. -/
def answer (r : Registry α) : Request α → Answer α × Registry α
  | .insert a =>
    let (id, r') := r.insert a
    (.handle id, r')
  | .get id => (.value (r.get? id), r)
  | .remove id =>
    match r.remove id with
    | none => (.value none, r)
    | some (a, r') => (.value (some a), r')
  | .drain =>
    let (values, r') := r.drain
    (.values values, r')

/-- Answers requests one after the other. -/
def answers : List (Request α) → Registry α → List (Answer α) × Registry α
  | [], r => ([], r)
  | q :: qs, r =>
    let (a, r') := r.answer q
    let (as, r'') := answers qs r'
    (a :: as, r'')

/-- How often requests release a slot: it held a value before one of them, and none after it. -/
def releases (index : Nat) : List (Request α) → Registry α → Nat
  | [], _ => 0
  | q :: qs, r =>
    let r' := (r.answer q).2
    (if index ∈ r.occupied ∧ index ∉ r'.occupied then 1 else 0) + releases index qs r'

theorem answer_insert (r : Registry α) (a : α) :
    r.answer (.insert a) = (.handle (r.insert a).1, (r.insert a).2) :=
  rfl

theorem answer_remove_of_none {r : Registry α} {id : FilterId} (h : r.remove id = none) :
    r.answer (.remove id) = (.value none, r) := by
  simp only [answer, h]

theorem answer_remove_of_some {r r' : Registry α} {id : FilterId} {a : α}
    (h : r.remove id = some (a, r')) : r.answer (.remove id) = (.value (some a), r') := by
  simp only [answer, h]

theorem answers_cons (q : Request α) (qs : List (Request α)) (r : Registry α) :
    answers (q :: qs) r =
      ((r.answer q).1 :: (answers qs (r.answer q).2).1, (answers qs (r.answer q).2).2) :=
  rfl

theorem answers_append (before after : List (Request α)) (r : Registry α) :
    answers (before ++ after) r =
      ((answers before r).1 ++ (answers after (answers before r).2).1,
        (answers after (answers before r).2).2) := by
  induction before generalizing r with
  | nil => rfl
  | cons q qs ih =>
      rw [List.cons_append, answers_cons, answers_cons, ih]
      rfl

theorem releases_append (index : Nat) (before after : List (Request α)) (r : Registry α) :
    releases index (before ++ after) r =
      releases index before r + releases index after (answers before r).2 := by
  induction before generalizing r with
  | nil => exact (Nat.zero_add _).symm
  | cons q qs ih =>
      rw [List.cons_append, releases, releases, ih, Nat.add_assoc]
      rfl

theorem releases_le_length (index : Nat) (qs : List (Request α)) (r : Registry α) :
    releases index qs r ≤ qs.length := by
  induction qs generalizing r with
  | nil => exact le_refl 0
  | cons q qs ih =>
      have := ih (r.answer q).2
      rw [releases, List.length_cons]
      split_ifs <;> omega

/-! ### Which slots are occupied -/

theorem mem_occupied_insert {r : Registry α} (hr : r.Valid) (a : α) {index : Nat} :
    index ∈ (r.insert a).2.occupied ↔ index ∈ r.occupied ∨ (r.insert a).1.index = index := by
  simp only [mem_occupied_iff_get?, get?_insert hr]
  constructor
  · rintro ⟨generation, b, h⟩
    split_ifs at h with he
    · exact .inr (congrArg FilterId.index he).symm
    · exact .inl ⟨generation, b, h⟩
  · rintro (⟨generation, b, h⟩ | rfl)
    · refine ⟨generation, b, ?_⟩
      rw [if_neg]
      · exact h
      · intro he
        rw [he, get?_insert_id hr] at h
        cases h
    · exact ⟨_, a, if_pos rfl⟩

theorem occupied_remove_subset {r r' : Registry α} {id : FilterId} {a : α}
    (h : r.remove id = some (a, r')) {index : Nat} (hi : index ∈ r'.occupied) :
    index ∈ r.occupied := by
  rw [mem_occupied_iff_get?] at hi ⊢
  obtain ⟨generation, b, hb⟩ := hi
  exact ⟨generation, b, get?_of_remove h hb⟩

theorem not_mem_occupied_drain (r : Registry α) (index : Nat) : index ∉ r.drain.2.occupied := by
  rw [mem_occupied_iff_get?]
  rintro ⟨generation, a, h⟩
  rw [get?_drain] at h
  cases h

/-! ### Answers as by a map -/

/-- A registry holds what a map holds, and has given the handles that the map has given. -/
structure Mirrors (r : Registry α) (m : FreshMap α) : Prop where
  valid : r.Valid
  numbered : r.Numbered m.used
  get? : ∀ id, r.get? id = m.get? id
  values : r.values.Perm (m.entries.map (·.2))
  keys : (m.entries.map (·.1)).Nodup

theorem mirrors_empty : (empty : Registry α).Mirrors {} :=
  ⟨valid_empty, numbered_empty, fun _ => rfl, .refl _, List.nodup_nil⟩

namespace Mirrors

variable {r r' : Registry α} {m : FreshMap α}

theorem size (h : r.Mirrors m) : r.size = m.entries.length := by
  rw [h.valid.size, h.values.length_eq, List.length_map]

theorem insert (h : r.Mirrors m) (a : α) :
    (r.insert a).2.Mirrors ⟨((r.insert a).1, a) :: m.entries, m.used ++ [(r.insert a).1]⟩ := by
  have hv := insert_spec h.valid a
  refine ⟨hv.1, h.numbered.insert h.valid a, fun id => ?_, ?_, ?_⟩
  · rw [get?_insert h.valid, FreshMap.get?_cons, h.get?]
  · exact (perm_insert h.valid a).trans (h.values.cons a)
  · rw [List.map_cons, List.nodup_cons]
    refine ⟨fun hm => ?_, h.keys⟩
    have hn := h.get? (r.insert a).1
    rw [get?_insert_id h.valid, eq_comm, FreshMap.get?, Option.map_eq_none_iff,
      List.find?_eq_none] at hn
    obtain ⟨e, he, hk⟩ := List.mem_map.mp hm
    exact hn e he (by simpa using hk)

theorem remove (h : r.Mirrors m) {id : FilterId} {a : α} (hr : r.remove id = some (a, r')) :
    r'.Mirrors (m.erase id) := by
  refine ⟨h.valid.remove hr, h.numbered.remove hr, fun id' => ?_, ?_, ?_⟩
  · rw [get?_remove hr, FreshMap.get?_erase, h.get?]
  · -- The value under the key is the only one that is left out.
    have ha : r.get? id = some a := (remove_eq_some_iff.mp hr).1
    rw [h.get?, FreshMap.get?, Option.map_eq_some_iff] at ha
    obtain ⟨e, he, rfl⟩ := ha
    have hk : e.1 = id := by simpa using List.find?_some he
    have hm := List.mem_of_find?_eq_some he
    have hone : (m.entries.filter (·.1 = id)).Perm [e] := by
      refine (List.perm_ext_iff_of_nodup (h.keys.of_map.filter _) (List.nodup_singleton e)).mpr ?_
      intro f
      rw [List.mem_filter, List.mem_singleton, decide_eq_true_iff]
      constructor
      · rintro ⟨hf, hfk⟩
        exact List.inj_on_of_nodup_map h.keys hf hm (hfk.trans hk.symm)
      · rintro rfl
        exact ⟨hm, hk⟩
    have hall := (List.filter_append_perm (fun e : FilterId × α => e.1 = id) m.entries).symm
    have hp := (hall.trans (hone.append_right _)).map (·.2)
    have hc := (perm_of_remove hr).symm.trans (h.values.trans hp)
    refine hc.cons_inv.trans ?_
    simp [FreshMap.erase]
  · exact h.keys.sublist (List.filter_sublist.map _)

theorem drain (h : r.Mirrors m) : r.drain.2.Mirrors { m with entries := [] } := by
  refine ⟨h.valid.drain, h.numbered.drain, fun id => ?_, ?_, List.nodup_nil⟩
  · rw [get?_drain]
    rfl
  · rw [values_drain]
    exact .refl _

/-- No handle is given twice as long as no slot is used too often. -/
theorem insert_not_mem_used (h : r.Mirrors m)
    (few : ∀ index, (generationsAt index m.used).length <
      2 ^ 32 + if index ∈ r.occupied then 1 else 0)
    (a : α) : (r.insert a).1 ∉ m.used := by
  have hn : (m.used ++ [(r.insert a).1]).Nodup := by
    refine (h.insert a).numbered.nodup fun index => ?_
    have hf := few index
    rw [generationsAt_append, generationsAt_singleton, List.length_append]
    by_cases he : (r.insert a).1.index = index
    · rw [if_neg (he ▸ index_insert_not_mem h.valid a)] at hf
      rw [if_pos he, List.length_singleton]
      omega
    · rw [if_neg he, List.length_nil]
      split_ifs at hf <;> omega
  have hd := (List.nodup_append'.mp hn).2.2
  intro hm
  exact hd hm (List.mem_singleton_self _)

/-- The slot of a handle that is given is used once more, and holds one value more. -/
theorem length_generationsAt_given (h : r.Mirrors m) (a : α) (index : Nat) :
    (generationsAt index (m.used ++ [(r.insert a).1])).length +
        (if index ∈ r.occupied then 1 else 0) =
      (generationsAt index m.used).length +
        (if index ∈ (r.insert a).2.occupied then 1 else 0) +
          if index ∈ r.occupied ∧ index ∉ (r.insert a).2.occupied then 1 else 0 := by
  have hv := index_insert_not_mem h.valid a
  have hm : index ∈ (r.insert a).2.occupied ↔ _ := mem_occupied_insert h.valid a
  rw [generationsAt_append, generationsAt_singleton, List.length_append]
  by_cases he : (r.insert a).1.index = index
  · rw [he] at hv
    rw [if_pos he, if_neg hv, if_pos (hm.mpr (.inr he)), if_neg fun hc => hv hc.1]
    rfl
  · rw [if_neg he]
    by_cases ho : index ∈ r.occupied
    · rw [if_pos ho, if_pos (hm.mpr (.inl ho)), if_neg fun hc => hc.2 (hm.mpr (.inl ho))]
      rfl
    · rw [if_neg ho, if_neg fun hc => (hm.mp hc).elim ho he, if_neg fun hc => ho hc.1]
      rfl

/-- A registry answers a request as the map does. A slot is used once more only if it holds one
value more, or if it was released. -/
theorem step (h : r.Mirrors m)
    (few : ∀ index, (generationsAt index m.used).length <
      2 ^ 32 + if index ∈ r.occupied then 1 else 0)
    (q : Request α) :
    ∃ m', m.Gives q (r.answer q).1 m' ∧ (r.answer q).2.Mirrors m' ∧
      ∀ index, (generationsAt index m'.used).length + (if index ∈ r.occupied then 1 else 0) =
        (generationsAt index m.used).length +
          (if index ∈ (r.answer q).2.occupied then 1 else 0) +
            if index ∈ r.occupied ∧ index ∉ (r.answer q).2.occupied then 1 else 0 := by
  -- Where no handle is given, a slot can only lose its value.
  have less : ∀ r' : Registry α, (∀ index, index ∈ r'.occupied → index ∈ r.occupied) →
      ∀ index, (generationsAt index m.used).length + (if index ∈ r.occupied then 1 else 0) =
        (generationsAt index m.used).length + (if index ∈ r'.occupied then 1 else 0) +
          if index ∈ r.occupied ∧ index ∉ r'.occupied then 1 else 0 := by
    intro r' hs index
    have := hs index
    by_cases h1 : index ∈ r.occupied <;> by_cases h2 : index ∈ r'.occupied <;> simp_all
  cases q with
  | insert a =>
      rw [answer_insert]
      exact ⟨_, .insert a (h.insert_not_mem_used few a), h.insert a,
        h.length_generationsAt_given a⟩
  | get id =>
      refine ⟨m, ?_, h, less r fun _ hm => hm⟩
      change m.Gives _ (.value (r.get? id)) m
      rw [h.get?]
      exact .get id
  | remove id =>
      have hg := FreshMap.Gives.remove (m := m) id
      cases hr : r.remove id with
      | none =>
          have hn : m.get? id = none := (h.get? id).symm.trans (remove_eq_none_iff.mp hr)
          rw [hn, FreshMap.erase_eq_self hn] at hg
          rw [answer_remove_of_none hr]
          exact ⟨m, hg, h, less r fun _ hm => hm⟩
      | some p =>
          obtain ⟨a, r'⟩ := p
          have ha : m.get? id = some a := (h.get? id).symm.trans (remove_eq_some_iff.mp hr).1
          rw [ha] at hg
          rw [answer_remove_of_some hr]
          exact ⟨_, hg, h.remove hr, less r' fun _ => occupied_remove_subset hr⟩
  | drain =>
      refine ⟨_, .drain h.values, h.drain, less _ fun index hi => ?_⟩
      exact absurd hi (not_mem_occupied_drain r index)

/-- A registry answers requests as the map does, and releases account for the handles given. -/
theorem run (h : r.Mirrors m) (qs : List (Request α))
    (few : ∀ index, (generationsAt index m.used).length + releases index qs r <
      2 ^ 32 + if index ∈ r.occupied then 1 else 0) :
    ∃ m', m.Run qs (answers qs r).1 m' ∧ (answers qs r).2.Mirrors m' ∧
      ∀ index, (generationsAt index m'.used).length + (if index ∈ r.occupied then 1 else 0) =
        (generationsAt index m.used).length +
          (if index ∈ (answers qs r).2.occupied then 1 else 0) + releases index qs r := by
  induction qs generalizing r m with
  | nil => exact ⟨m, .nil m, h, fun _ => rfl⟩
  | cons q qs ih =>
      obtain ⟨m₁, hg, h₁, count₁⟩ := h.step
        (fun index => lt_of_le_of_lt (Nat.le_add_right _ _) (few index)) q
      obtain ⟨m₂, hrun, h₂, count₂⟩ := ih h₁ fun index => by
        have hf := few index
        have hc := count₁ index
        rw [releases] at hf
        omega
      refine ⟨m₂, .cons hg hrun, h₂, fun index => ?_⟩
      have hc₁ := count₁ index
      have hc₂ := count₂ index
      rw [releases, answers_cons]
      dsimp only
      omega

end Mirrors

/-- A registry answers as a finite map that never gives a key twice, as long as no slot is released
2³² times: it finds under each handle what the map has under that key, and its size is the number of
keys. The handles that it gives are all different, and one that leads nowhere never leads anywhere
again. -/
theorem answers_refine (qs : List (Request α)) (few : ∀ index, releases index qs empty < 2 ^ 32) :
    (∃ m, FreshMap.Run {} qs (answers qs empty).1 m ∧
      (∀ id, (answers qs empty).2.get? id = m.get? id) ∧
      (m.entries.map (·.1)).Nodup ∧ (answers qs empty).2.size = m.entries.length) ∧
    (handles (answers qs empty).1).Nodup ∧
    ∀ before after, before ++ after = qs → ∀ id ∈ handles (answers before empty).1,
      (answers before empty).2.get? id = none → (answers qs empty).2.get? id = none := by
  have enough : ∀ index, (generationsAt index ({} : FreshMap α).used).length +
      releases index qs empty < 2 ^ 32 + if index ∈ (empty : Registry α).occupied then 1 else 0 :=
    fun index => by
      have := few index
      change 0 + _ < _
      omega
  obtain ⟨m, hrun, hm, -⟩ := mirrors_empty.run qs enough
  refine ⟨⟨m, hrun, hm.get?, hm.keys, hm.size⟩, ?_, ?_⟩
  · have hn := hrun.nodup List.nodup_nil
    rwa [hrun.used_eq] at hn
  · rintro before after rfl id hid hnone
    -- The requests that follow are answered as from the map that the first ones led to.
    obtain ⟨m₁, hrun₁, hm₁, count₁⟩ := mirrors_empty.run before fun index => by
      have := enough index
      rw [releases_append] at this
      omega
    obtain ⟨m₂, hrun₂, hm₂, -⟩ := hm₁.run after fun index => by
      have hc := count₁ index
      have he := enough index
      rw [releases_append] at he
      omega
    have hused : id ∈ m₁.used := by
      rw [hrun₁.used_eq]
      exact hid
    rw [answers_append, hm₂.get?]
    rw [hm₁.get?] at hnone
    exact hrun₂.get?_eq_none hused hnone

/-- Two values, of which the first leaves its slot to a third; all are drained, and a fourth
comes. -/
def recycled : List (Request Nat) :=
  [.insert 10, .insert 20, .remove ⟨0, 0⟩, .insert 30, .get ⟨0, 0⟩, .get ⟨0, 1⟩, .drain, .insert 40]

theorem answers_refine_recycled :
    (handles (answers recycled empty).1 = [⟨0, 0⟩, ⟨1, 0⟩, ⟨0, 1⟩, ⟨1, 1⟩] ∧
      ∀ index, releases index recycled empty < 2 ^ 32) ∧
    (handles (answers recycled empty).1).Nodup ∧
      (answers recycled empty).2.get? ⟨0, 0⟩ = none := by
  have few : ∀ index, releases index recycled empty < 2 ^ 32 := fun index =>
    lt_of_le_of_lt (releases_le_length index recycled empty) (by decide)
  have h := answers_refine recycled few
  refine ⟨⟨by decide, few⟩, h.2.1, ?_⟩
  exact h.2.2 (recycled.take 3) (recycled.drop 3) rfl ⟨0, 0⟩ (by decide) (by decide)

end Registry

end Multiplex.Demux
