import Multiplex.Proofs.Demux.Handles
import Multiplex.Proofs.Session.Holdings

/-!
# What can become of managers and filters

Filters are registered at open managers and taken out again, and managers come and are closed; there
are no other steps. So a manager that is closed stays closed, and has no filters. A handle that a
user was given leads to the nodes of its filter until that is closed, and to nothing from then on,
also when its slot has been used again, as long as no slot is released so often that its generations
begin anew.

Main statements:

* `Holdings.Sound.step`: every step keeps count of the handles given, and closed managers empty;
* `Holdings.Steps.closedAt`: a manager that is closed stays closed;
* `Holdings.Steps.nodes?`: a handle leads nowhere that it did not lead to before.
-/

namespace Multiplex.Session.Holdings

open Multiplex.Device Multiplex.Demux

/-- One step: something is closed, a filter is registered at an open manager, or a manager comes. -/
inductive Step (h : Holdings) : Holdings → Prop
  | withdraw (f : Filter) : Step h (h.withdraw f)
  | dissolve (place : Nat) : Step h (h.dissolve place)
  | shut (place : Nat) : Step h (h.shut place)
  | enroll {f : Filter} {m : Manager} (n : FilterNodes) (hm : h.managers[f.manager]? = some m)
      (ho : m.frontend?.isSome = true) (hi : f.id = (m.filters.insert n).1) :
      Step h (h.enroll f m n)
  | addManager {m : Manager} (hm : m.filters = .empty) :
      Step h { h with managers := h.managers ++ [m] }

/-- Any number of steps. -/
abbrev Steps : Holdings → Holdings → Prop := Relation.ReflTransGen Step

/-- The handles that a manager gave. -/
def given (h : Holdings) (place : Nat) : List FilterId :=
  (h.filters.filter (·.manager = place)).map (·.id)

/-- How many filters were registered in a slot of a manager's registry. -/
def uses (h : Holdings) (place index : Nat) : Nat :=
  h.filters.countP fun f => f.manager = place ∧ f.id.index = index

/-- How often a slot of a manager's registry was released: all filters that were registered there
have left it, but for the one that is there. -/
def releases (h : Holdings) (place index : Nat) : Nat :=
  h.uses place index -
    (h.managers[place]?).elim 0 fun m => if index ∈ m.filters.occupied then 1 else 0

/-- Registries are as they should be, and the handles that they gave are counted. A closed manager
has no filters. -/
structure Sound (h : Holdings) : Prop where
  valid : ∀ m ∈ h.managers, m.filters.Valid
  numbered : ∀ (place : Nat) (m : Manager), h.managers[place]? = some m →
    m.filters.Numbered (h.given place)
  placed : ∀ f ∈ h.filters, f.manager < h.managers.length
  drained : ∀ m ∈ h.managers, m.frontend? = none → m.filters.values = []

variable {h h' : Holdings}

theorem length_generationsAt (h : Holdings) (place index : Nat) :
    (generationsAt index (h.given place)).length = h.uses place index := by
  unfold generationsAt given uses
  rw [List.length_map, List.filter_map, List.length_map, List.filter_filter,
    ← List.countP_eq_length_filter]
  exact List.countP_congr fun f _ => by simp [and_comm]

/-- A slot that is released less often than there are generations is not used more often. -/
theorem uses_le (few : ∀ place index, h.releases place index < 2 ^ 32) (place index : Nat) :
    h.uses place index ≤ 2 ^ 32 := by
  have hf := few place index
  unfold releases at hf
  cases hm : h.managers[place]? with
  | none =>
      rw [hm] at hf
      exact hf.le
  | some m =>
      rw [hm, Option.elim_some] at hf
      split_ifs at hf <;> omega

theorem releases_le (h : Holdings) (place index : Nat) :
    h.releases place index ≤ h.filters.length :=
  (Nat.sub_le _ _).trans List.countP_le_length

/-! ### Each step keeps the registries sound -/

namespace Sound

theorem setManager (hs : h.Sound) {place : Nat} {m m' : Manager}
    (hm : h.managers[place]? = some m) (valid : m'.filters.Valid)
    (numbered : m'.filters.Numbered (h.given place))
    (drained : m'.frontend? = none → m'.filters.values = []) : (h.setManager place m').Sound := by
  refine ⟨fun k hk => ?_, fun p k hk => ?_, fun f hf => ?_, fun k hk => ?_⟩
  · rcases List.mem_or_eq_of_mem_set hk with hk | rfl
    · exact hs.valid k hk
    · exact valid
  · change (h.managers.set place m')[p]? = some k at hk
    by_cases hp : p = place
    · subst hp
      rw [List.getElem?_set_self (List.getElem?_eq_some_iff.mp hm).1, Option.some.injEq] at hk
      exact hk ▸ numbered
    · rw [List.getElem?_set_ne (Ne.symm hp)] at hk
      exact hs.numbered p k hk
  · exact (hs.placed f hf).trans_eq List.length_set.symm
  · rcases List.mem_or_eq_of_mem_set hk with hk | rfl
    · exact hs.drained k hk
    · exact drained

theorem withdraw (hs : h.Sound) (f : Filter) : (h.withdraw f).Sound := by
  cases hf : h.nodes? f with
  | none =>
      rw [withdraw_eq_self hf]
      exact hs
  | some n =>
      obtain ⟨m, r, hm, hr⟩ := nodes?_eq_some_iff.mp hf
      have hmem := List.mem_of_getElem? hm
      rw [withdraw_eq hm hr]
      refine hs.setManager hm ((hs.valid m hmem).remove hr) ((hs.numbered _ m hm).remove hr) ?_
      intro hc
      have hp := Registry.perm_of_remove hr
      rw [hs.drained m hmem hc] at hp
      cases hp.nil_eq

theorem dissolve (hs : h.Sound) (place : Nat) : (h.dissolve place).Sound := by
  cases hm : h.managers[place]? with
  | none =>
      rw [dissolve_eq_self hm]
      exact hs
  | some m =>
      rw [dissolve_eq hm]
      exact hs.setManager hm (hs.valid m (List.mem_of_getElem? hm)).drain
        (hs.numbered _ m hm).drain fun _ => Registry.values_drain _

theorem shut (hs : h.Sound) (place : Nat) : (h.shut place).Sound := by
  have hf : (h.shut place).filters = h.filters := (frame_shut place).filters
  have hg : ∀ p, (h.shut place).given p = h.given p := by
    intro p
    unfold given
    rw [hf]
  refine ⟨?_, ?_, ?_, ?_⟩
  · rw [managers_shut]
    exact hs.valid
  · simp only [managers_shut, hg]
    exact hs.numbered
  · rw [managers_shut, hf]
    exact hs.placed
  · rw [managers_shut]
    exact hs.drained

theorem enroll (hs : h.Sound) {f : Filter} {m : Manager} (n : FilterNodes)
    (hm : h.managers[f.manager]? = some m) (ho : m.frontend?.isSome = true)
    (hi : f.id = (m.filters.insert n).1) : (h.enroll f m n).Sound := by
  have hv := hs.valid m (List.mem_of_getElem? hm)
  have hg : ∀ p, (h.enroll f m n).given p =
      if f.manager = p then h.given p ++ [f.id] else h.given p := by
    intro p
    change ((h.filters ++ [f]).filter (·.manager = p)).map (·.id) = _
    rw [List.filter_append, List.map_append]
    unfold given
    split_ifs with hp <;> simp [hp]
  refine ⟨fun k hk => ?_, fun p k hk => ?_, fun g hg => ?_, fun k hk => ?_⟩
  · rcases List.mem_or_eq_of_mem_set hk with hk | rfl
    · exact hs.valid k hk
    · exact (Registry.insert_spec hv n).1
  · change (h.managers.set f.manager _)[p]? = some k at hk
    rw [hg]
    split_ifs with hp
    · subst hp
      rw [List.getElem?_set_self (List.getElem?_eq_some_iff.mp hm).1, Option.some.injEq] at hk
      rw [← hk, hi]
      exact (hs.numbered _ m hm).insert hv n
    · rw [List.getElem?_set_ne hp] at hk
      exact hs.numbered p k hk
  · change g.manager < (h.managers.set _ _).length
    rw [List.length_set]
    rcases List.mem_append.mp hg with hg | hg
    · exact hs.placed g hg
    · rw [List.mem_singleton.mp hg]
      exact (List.getElem?_eq_some_iff.mp hm).1
  · rcases List.mem_or_eq_of_mem_set hk with hk | rfl
    · exact hs.drained k hk
    · intro hc
      dsimp only at hc
      rw [hc] at ho
      cases ho

theorem addManager (hs : h.Sound) {m : Manager} (hm : m.filters = .empty) :
    Sound { h with managers := h.managers ++ [m] } := by
  refine ⟨fun k hk => ?_, fun p k hk => ?_, fun f hf => ?_, fun k hk => ?_⟩
  · rcases List.mem_append.mp hk with hk | hk
    · exact hs.valid k hk
    · rw [List.mem_singleton.mp hk, hm]
      exact Registry.valid_empty
  · change (h.managers ++ [m])[p]? = some k at hk
    change k.filters.Numbered (h.given p)
    rcases getElem?_concat_cases h.managers m p with he | ⟨rfl, he⟩
    · exact hs.numbered p k (he.symm.trans hk)
    · -- No filter can have been registered at a manager that was not there.
      have hnone : h.given h.managers.length = [] := by
        unfold given
        rw [List.map_eq_nil_iff, List.filter_eq_nil_iff]
        intro f hf
        have := hs.placed f hf
        simp
        omega
      rw [he, Option.some.injEq] at hk
      rw [hnone, ← hk, hm]
      exact Registry.numbered_empty
  · have := hs.placed f hf
    change f.manager < (h.managers ++ [m]).length
    rw [List.length_append]
    omega
  · rcases List.mem_append.mp hk with hk | hk
    · exact hs.drained k hk
    · rw [List.mem_singleton.mp hk, hm]
      exact fun _ => rfl

/-- Every step keeps the registries sound. -/
theorem step (hs : h.Sound) (st : Step h h') : h'.Sound := by
  cases st with
  | withdraw f => exact hs.withdraw f
  | dissolve place => exact hs.dissolve place
  | shut place => exact hs.shut place
  | enroll n hm ho hi => exact hs.enroll n hm ho hi
  | addManager hm => exact hs.addManager hm

theorem steps (hs : h.Sound) (st : Steps h h') : h'.Sound := by
  induction st with
  | refl => exact hs
  | tail _ st ih => exact ih.step st

end Sound

/-! ### Managers -/

/-- The manager at a place is closed. -/
def ClosedAt (h : Holdings) (place : Nat) : Prop :=
  ∃ m, h.managers[place]? = some m ∧ m.frontend? = none

/-- A manager stays at its place and keeps its demux, and a closed one stays closed. -/
def Continues (h h' : Holdings) : Prop :=
  ∀ (place : Nat) (m : Manager), h.managers[place]? = some m →
    ∃ m', h'.managers[place]? = some m' ∧ m'.adapter = m.adapter ∧ m'.demux = m.demux ∧
      (m.frontend? = none → m'.frontend? = none)

theorem Continues.refl (h : Holdings) : Continues h h := fun _ m hm => ⟨m, hm, rfl, rfl, id⟩

theorem Continues.trans {h₁ h₂ h₃ : Holdings} (hc : Continues h₁ h₂) (hc' : Continues h₂ h₃) :
    Continues h₁ h₃ := by
  intro place m hm
  obtain ⟨m', hm', ha, hd, hn⟩ := hc place m hm
  obtain ⟨m'', hm'', ha', hd', hn'⟩ := hc' place m' hm'
  exact ⟨m'', hm'', ha'.trans ha, hd'.trans hd, hn' ∘ hn⟩

theorem continues_setManager {place : Nat} {m m' : Manager} (hm : h.managers[place]? = some m)
    (ha : m'.adapter = m.adapter) (hd : m'.demux = m.demux)
    (hn : m.frontend? = none → m'.frontend? = none) : Continues h (h.setManager place m') := by
  intro p k hk
  by_cases hp : p = place
  · subst hp
    rw [hm, Option.some.injEq] at hk
    subst hk
    exact ⟨m', List.getElem?_set_self (List.getElem?_eq_some_iff.mp hm).1, ha, hd, hn⟩
  · exact ⟨k, (List.getElem?_set_ne (Ne.symm hp)).trans hk, rfl, rfl, id⟩

theorem Step.continues (st : Step h h') : Continues h h' := by
  cases st with
  | withdraw f =>
      cases hf : h.nodes? f with
      | none =>
          rw [withdraw_eq_self hf]
          exact .refl h
      | some n =>
          obtain ⟨m, r, hm, hr⟩ := nodes?_eq_some_iff.mp hf
          rw [withdraw_eq hm hr]
          exact continues_setManager hm rfl rfl id
  | dissolve place =>
      cases hm : h.managers[place]? with
      | none =>
          rw [dissolve_eq_self hm]
          exact .refl h
      | some m =>
          rw [dissolve_eq hm]
          exact continues_setManager hm rfl rfl fun _ => rfl
  | shut place =>
      intro p m hm
      rw [managers_shut]
      exact ⟨m, hm, rfl, rfl, id⟩
  | enroll n hm ho hi => exact continues_setManager hm rfl rfl id
  | addManager hm =>
      intro p m hp
      exact ⟨m, (List.getElem?_append_left (List.getElem?_eq_some_iff.mp hp).1).trans hp, rfl, rfl,
        id⟩

theorem Steps.continues (st : Steps h h') : Continues h h' := by
  induction st with
  | refl => exact .refl h
  | tail _ st ih => exact ih.trans st.continues

/-- A manager that is closed stays closed. -/
theorem Steps.closedAt (st : Steps h h') {place : Nat} (hc : h.ClosedAt place) :
    h'.ClosedAt place := by
  obtain ⟨m, hm, hn⟩ := hc
  obtain ⟨m', hm', -, -, hn'⟩ := st.continues place m hm
  exact ⟨m', hm', hn' hn⟩

/-- A closed manager has no filters. -/
theorem Sound.nodes?_of_closedAt (hs : h.Sound) {f : Filter} (hc : h.ClosedAt f.manager) :
    h.nodes? f = none := by
  obtain ⟨m, hm, hn⟩ := hc
  have hv := hs.drained m (List.mem_of_getElem? hm) hn
  unfold Holdings.nodes?
  rw [hm, Option.bind_some]
  cases hg : m.filters.get? f.id with
  | none => rfl
  | some n =>
      have := Registry.mem_values_iff.mpr ⟨f.id, hg⟩
      rw [hv] at this
      cases this

/-! ### Handles -/

theorem Step.filters (st : Step h h') : h.filters <+: h'.filters := by
  cases st with
  | withdraw f => rw [(frame_withdraw f).filters]
  | dissolve place => rw [(frame_dissolve place).filters]
  | shut place => rw [(frame_shut place).filters]
  | enroll n hm ho hi => exact List.prefix_append _ _
  | addManager hm => exact List.prefix_rfl

theorem Steps.filters (st : Steps h h') : h.filters <+: h'.filters := by
  induction st with
  | refl => exact List.prefix_rfl
  | tail _ st ih => exact ih.trans st.filters

theorem uses_mono (hp : h.filters <+: h'.filters) (place index : Nat) :
    h.uses place index ≤ h'.uses place index :=
  hp.sublist.countP_le

/-- A handle leads nowhere that it did not lead to before one step. -/
theorem Step.nodes? (st : Step h h') (hs : h.Sound) {f : Filter} (hf : f ∈ h.filters)
    (few : ∀ place index, h'.uses place index ≤ 2 ^ 32) {n : FilterNodes}
    (hn : h'.nodes? f = some n) : h.nodes? f = some n := by
  have hs' := hs.step st
  cases st with
  | withdraw g => exact nodes?_of_withdraw hn
  | dissolve place => exact nodes?_of_dissolve hn
  | shut place => exact nodes?_of_shut hn
  | @enroll g m v hm ho hi =>
      refine (nodes?_of_enroll hm (hs.valid m (List.mem_of_getElem? hm)) hi hn).resolve_right ?_
      rintro ⟨he, -⟩
      -- The handle would have been given twice.
      have hp : f.manager = g.manager := by rw [← he]
      have hid : f.id = g.id := by rw [← he]
      have hd := ((hs'.numbered g.manager _ (List.getElem?_set_self
        (List.getElem?_eq_some_iff.mp hm).1)).nodup fun index =>
          (length_generationsAt _ _ _).trans_le (few _ index))
      unfold given at hd
      change (((h.filters ++ [g]).filter (·.manager = g.manager)).map (·.id)).Nodup at hd
      rw [List.filter_append, List.map_append, List.nodup_append'] at hd
      refine hd.2.2 (List.mem_map_of_mem (List.mem_filter.mpr ⟨hf, by simpa⟩)) ?_
      rw [hid]
      simp
  | addManager hm =>
      unfold Holdings.nodes? at hn ⊢
      rwa [List.getElem?_append_left (hs.placed f hf)] at hn

/-- A handle leads nowhere that it did not lead to before. -/
theorem Steps.nodes? (st : Steps h h') (hs : h.Sound) {f : Filter} (hf : f ∈ h.filters)
    (few : ∀ place index, h'.uses place index ≤ 2 ^ 32) {n : FilterNodes}
    (hn : h'.nodes? f = some n) : h.nodes? f = some n := by
  induction st with
  | refl => exact hn
  | tail st last ih =>
      refine ih (fun place index => (uses_mono last.filters place index).trans (few place index)) ?_
      exact last.nodes? (hs.steps st) ((Steps.filters st).subset hf) few hn

/-- A handle that leads nowhere never leads anywhere again. -/
theorem Steps.nodes?_eq_none (st : Steps h h') (hs : h.Sound) {f : Filter} (hf : f ∈ h.filters)
    (few : ∀ place index, h'.uses place index ≤ 2 ^ 32) (hn : h.nodes? f = none) :
    h'.nodes? f = none := by
  rw [Option.eq_none_iff_forall_ne_some] at hn ⊢
  exact fun n hn' => hn n (st.nodes? hs hf few hn')

/-! ### Closings -/

theorem steps_close (c : Closing) : Steps h (h.close c) :=
  close_cases (motive := Steps h) .refl (fun f => .single (.withdraw f))
    (fun place => .single (.dissolve place)) (fun place => .single (.shut place)) c

theorem steps_foldl_close (cs : List Closing) : Steps h (cs.foldl close h) := by
  induction cs generalizing h with
  | nil => exact .refl
  | cons c cs ih => exact (steps_close c).trans ih

theorem frame_foldl_close (cs : List Closing) : Frame h (cs.foldl close h) := by
  induction cs generalizing h with
  | nil => exact .refl h
  | cons c cs ih => exact (frame_close c).trans ih

theorem nodes?_withdraw_self (f : Filter) : (h.withdraw f).nodes? f = none := by
  rw [nodes?_withdraw, if_pos ⟨rfl, rfl⟩]

theorem nodes?_foldl_close {f : Filter} (hf : h.nodes? f = none) (cs : List Closing) :
    (cs.foldl close h).nodes? f = none := by
  induction cs generalizing h with
  | nil => exact hf
  | cons c cs ih =>
      have hc : (h.close c).nodes? f = none := by
        rw [Option.eq_none_iff_forall_ne_some] at hf ⊢
        intro n hn
        exact hf n (nodes?_of_close hn)
      exact ih hc

/-- A filter among what is closed is closed. -/
theorem nodes?_foldl_close_self {f : Filter} {place : Nat} (hf : h.filters[place]? = some f)
    {cs : List Closing} (hc : .filter place ∈ cs) : (cs.foldl close h).nodes? f = none := by
  obtain ⟨before, after, rfl⟩ := List.append_of_mem hc
  rw [List.foldl_append, List.foldl_cons]
  refine nodes?_foldl_close ?_ after
  change ((((before.foldl close h).filters[place]?).elim _ _ : Holdings).nodes? f) = none
  rw [(frame_foldl_close before).filters, hf]
  exact nodes?_withdraw_self f

theorem closedAt_dissolve {place : Nat} {m : Manager} (hm : h.managers[place]? = some m) :
    (h.dissolve place).ClosedAt place := by
  rw [dissolve_eq hm]
  exact ⟨_, List.getElem?_set_self (List.getElem?_eq_some_iff.mp hm).1, rfl⟩

/-- A manager among what is closed is closed. -/
theorem closedAt_foldl_close {place : Nat} {m : Manager} (hm : h.managers[place]? = some m)
    {cs : List Closing} (hc : .manager place ∈ cs) : (cs.foldl close h).ClosedAt place := by
  obtain ⟨before, after, rfl⟩ := List.append_of_mem hc
  rw [List.foldl_append, List.foldl_cons]
  obtain ⟨m', hm', -⟩ := (steps_foldl_close before).continues place m hm
  exact (steps_foldl_close after).closedAt (closedAt_dissolve hm')

end Multiplex.Session.Holdings
