import Multiplex.Proofs.Session.Ledger

/-!
# Accounts in the middle of a call

`Accounts` says of a state what the ledger says of its trace, while some nodes are in the hands of
a call that is under way: each open node is one of those, or the node of an open frontend or of a
registered filter that is not in use. Here is what becomes of the accounts when a node is opened or
released, when something is closed, and when something comes into use.

Main statements:

* `Accounts.opened`, `Accounts.released`: a node comes into hand and goes;
* `Accounts.withdraw`, `Accounts.dissolve`, `Accounts.shut`: what is closed comes into hand;
* `Accounts.occupy`, `Accounts.vacate`: the nodes of a filter are in hand while it is in use.
-/

namespace Multiplex.Session

open Multiplex.Device Multiplex.Demux

variable {σ : Type}

/-- The accounts of a state in which `hand` holds the nodes of calls that are under way. -/
structure Accounts (w : World σ) (hand : List Node) : Prop where
  nodes : NodesAccounted w.trace w.nodeCount (w.holdings.idleNodes ++ hand)
  filters : FiltersAccounted w.trace w.holdings

/-! ### Steps -/

namespace Accounts

variable {w w' : World σ} {hand : List Node}

theorem congr (ha : Accounts w hand) (ht : w'.trace = w.trace) (hc : w'.nodeCount = w.nodeCount)
    (hh : w'.holdings = w.holdings) : Accounts w' hand := by
  obtain ⟨hn, hf⟩ := ha
  constructor
  · rw [ht, hc, hh]
    exact hn
  · rw [ht, hh]
    exact hf

theorem perm {hand' : List Node} (ha : Accounts w hand) (hp : hand.Perm hand') :
    Accounts w hand' :=
  ⟨ha.nodes.perm (hp.append_left _), ha.filters⟩

/-- An event that is no matter of nodes or filters. -/
theorem quiet (ha : Accounts w hand) {e : Event} (hn : e.isOfNode = false)
    (hf : e.isOfFilter = false) (ht : w'.trace = w.trace ++ [e])
    (hc : w'.nodeCount = w.nodeCount) (hh : w'.holdings = w.holdings) : Accounts w' hand := by
  constructor
  · rw [ht, hc, hh]
    exact ha.nodes.append (List.forall_mem_singleton.mpr hn)
  · rw [ht, hh]
    exact ha.filters.append (List.forall_mem_singleton.mpr hf) rfl rfl ha.filters.held

theorem opened (ha : Accounts w hand) {n : Node} (hn : n.number = w.nodeCount + 1)
    (ht : w'.trace = w.trace ++ [.opened n]) (hc : w'.nodeCount = n.number)
    (hh : w'.holdings = w.holdings) : Accounts w' (n :: hand) := by
  constructor
  · rw [ht, hc, hh]
    exact (ha.nodes.opened hn).perm List.perm_middle.symm
  · rw [ht, hh]
    exact ha.filters.append (List.forall_mem_singleton.mpr rfl) rfl rfl ha.filters.held

theorem released {n : Node} (ha : Accounts w (n :: hand)) {e : Event}
    (he : e = .closed n ∨ e = .dropped n) (ht : w'.trace = w.trace ++ [e])
    (hc : w'.nodeCount = w.nodeCount) (hh : w'.holdings = w.holdings) : Accounts w' hand := by
  constructor
  · rw [ht, hc, hh]
    exact (ha.nodes.perm List.perm_middle).released he
  · rw [ht, hh]
    refine ha.filters.append (List.forall_mem_singleton.mpr ?_) rfl rfl ha.filters.held
    rcases he with rfl | rfl <;> rfl

/-- The nodes of a filter that is closed come into hand, unless it is in use. -/
theorem withdraw (ha : Accounts w hand) {f : Filter} {n : FilterNodes}
    (hn : w.holdings.nodes? f = some n) (ht : w'.trace = w.trace ++ [.withdrawn f.manager n])
    (hc : w'.nodeCount = w.nodeCount) (hh : w'.holdings = w.holdings.withdraw f) :
    Accounts w' (n.idle w.busy? ++ hand) := by
  constructor
  · rw [ht, hc, hh]
    refine (ha.nodes.append (List.forall_mem_singleton.mpr rfl)).perm ?_
    rw [← List.append_assoc]
    exact ((Holdings.idleNodes_withdraw_perm hn).trans List.perm_append_comm).append_right hand
  · obtain ⟨m, r, hm, hr⟩ := Holdings.nodes?_eq_some_iff.mp hn
    have hd := Holdings.frame_withdraw f (h := w.holdings)
    rw [ht]
    refine ha.filters.setManager { m with filters := r } hm ?_ ?_ ?_ ?_ ?_ ?_ ?_ ?_
    · rw [hh, Holdings.withdraw_eq hm hr]
      rfl
    · rw [hh, hd.held, hd.frontends]
      exact ha.filters.held
    · exact (ha.filters.valid m (List.mem_of_getElem? hm)).remove hr
    · rw [hh, hd.filters]
      exact (List.append_nil _).symm
    · simpa [registeredAt, withdrawnAt] using Registry.perm_of_remove hr
    · intro p hp
      simp [registeredAt, withdrawnAt, hp.symm]
    · simp
    · intro g v hv
      rw [hh] at hv
      exact .inl (Holdings.nodes?_of_withdraw hv)

/-- The nodes of all filters of a manager come into hand, but those of a filter in use. -/
theorem dissolve (ha : Accounts w hand) {place : Nat} {m : Manager}
    (hm : w.holdings.managers[place]? = some m)
    (ht : w'.trace = w.trace ++ m.filters.values.map (.withdrawn place))
    (hc : w'.nodeCount = w.nodeCount) (hh : w'.holdings = w.holdings.dissolve place) :
    Accounts w' (m.filters.values.flatMap (FilterNodes.idle w.busy?) ++ hand) := by
  constructor
  · rw [ht, hc, hh]
    refine (ha.nodes.append (by simp [Event.isOfNode])).perm ?_
    rw [← List.append_assoc]
    exact ((Holdings.idleNodes_dissolve_perm hm).trans List.perm_append_comm).append_right hand
  · have hd := Holdings.frame_dissolve place (h := w.holdings)
    rw [ht]
    refine ha.filters.setManager { m with filters := m.filters.drain.2, frontend? := none } hm
      ?_ ?_ ?_ ?_ ?_ ?_ ?_ ?_
    · rw [hh, Holdings.dissolve_eq hm]
      rfl
    · rw [hh, hd.held, hd.frontends]
      exact ha.filters.held
    · exact (ha.filters.valid m (List.mem_of_getElem? hm)).drain
    · rw [hh, hd.filters]
      simp [registered, List.filterMap_map]
    · rw [Registry.values_drain]
      simp [registeredAt, withdrawnAt, List.filterMap_map]
    · intro p hp
      simp [registeredAt, withdrawnAt, hp.symm]
    · simp
    · intro g v hv
      rw [hh] at hv
      exact .inl (Holdings.nodes?_of_dissolve hv)

theorem shut (ha : Accounts w hand) {place : Nat} {f : Frontend}
    (hf : w.holdings.frontends[place]? = some f) (ho : f.isOpen = true)
    (ht : w'.trace = w.trace) (hc : w'.nodeCount = w.nodeCount)
    (hh : w'.holdings = w.holdings.shut place) : Accounts w' (f.node :: hand) := by
  constructor
  · rw [ht, hc, hh]
    refine ha.nodes.perm ?_
    exact ((Holdings.idleNodes_shut_perm hf ho).append_right hand).trans List.perm_middle.symm
  · have hd := Holdings.frame_shut place (h := w.holdings)
    rw [ht, hh, ← List.append_nil w.trace]
    refine ha.filters.append (by simp) (Holdings.managers_shut place) hd.filters ?_
    rw [hd.held, hd.frontends]
    exact ha.filters.held

/-- A filter comes into use, and its nodes leave the hand. -/
theorem register {n : FilterNodes} (ha : Accounts w (n.list ++ hand)) (hb : w.busy? = none)
    {f : Filter} {m : Manager} (hm : w.holdings.managers[f.manager]? = some m)
    (hi : f.id = (m.filters.insert n).1) (fits : n.Fits f.kind)
    (ht : w'.trace = w.trace ++ [.registered f n]) (hc : w'.nodeCount = w.nodeCount)
    (hh : w'.holdings = w.holdings.enroll f m n) : Accounts w' hand := by
  have hv := ha.filters.valid m (List.mem_of_getElem? hm)
  constructor
  · rw [ht, hc, hh]
    refine (ha.nodes.append (List.forall_mem_singleton.mpr rfl)).perm ?_
    have hp := (Holdings.idleNodes_enroll_perm (n := n) hm hv hb).append_right hand
    rw [← List.append_assoc]
    exact (List.perm_append_comm.append_right hand).trans hp.symm
  · rw [ht, hh]
    refine ha.filters.setManager { m with filters := (m.filters.insert n).2 } hm rfl ?_
      (Registry.insert_spec hv n).1 ?_ ?_ ?_ ?_ ?_
    · exact ha.filters.held
    · rfl
    · simpa [registeredAt, withdrawnAt] using (Registry.perm_insert hv n).symm
    · intro p hp
      simp [registeredAt, withdrawnAt, hp.symm]
    · intro g v hg
      rw [List.mem_singleton, Event.registered.injEq] at hg
      rw [hg.1, hg.2]
      exact fits
    · intro g v hg
      refine (Holdings.nodes?_of_enroll hm hv hi hg).imp_right ?_
      rintro ⟨he, rfl⟩
      exact ⟨f.kind, by rw [he]; exact List.mem_singleton_self _⟩

/-- A manager comes into use, without filters. -/
theorem addManager (ha : Accounts w hand) {m : Manager} (hm : m.filters = .empty)
    (ht : w'.trace = w.trace) (hc : w'.nodeCount = w.nodeCount)
    (hh : w'.holdings = { w.holdings with managers := w.managers ++ [m] }) : Accounts w' hand := by
  constructor
  · rw [ht, hc, hh]
    refine ha.nodes.perm ?_
    unfold Holdings.idleNodes Holdings.values
    rw [List.flatMap_append, List.flatMap_singleton, hm, show Registry.empty.values = [] from rfl,
      List.append_nil]
    rfl
  · rw [ht, hh]
    exact ha.filters.addManager hm rfl rfl ha.filters.held

/-! ### A filter in use -/

/-- While no filter is in use, each is registered once, and known by the number of its demux. -/
theorem registered_once (ha : Accounts w hand) (hb : w.busy? = none) :
    w.holdings.values.Nodup ∧ ∀ u ∈ w.holdings.values, ∀ v ∈ w.holdings.values,
      u.demux.number = v.demux.number → u = v := by
  have hd := (List.nodup_append'.mp ha.nodes.nodup).2.1
  have hd := (List.nodup_append'.mp (List.nodup_append'.mp hd).1).2.1
  rw [show w.holdings.busy? = none from hb] at hd
  have hp := (List.nodup_flatMap.mp hd).2
  have hsymm : Std.Symm (Function.onFun List.Disjoint (FilterNodes.idle none)) :=
    ⟨fun _ _ => List.Disjoint.symm⟩
  have hn : ∀ u ∈ w.holdings.values, ∀ v ∈ w.holdings.values,
      u.demux.number = v.demux.number → u = v := by
    intro u hu v hv he
    have hm : ∀ x ∈ w.holdings.values, x.demux ∈ w.holdings.idleNodes ++ hand := by
      intro x hx
      refine List.mem_append_left _ (List.mem_append_right _ (List.mem_flatMap.mpr ⟨x, hx, ?_⟩))
      rw [show w.holdings.busy? = none from hb]
      exact List.mem_cons_self
    have hde := ha.nodes.eq_of_number (hm u hu) (hm v hv) he
    by_contra hne
    have := hp.forall hu hv hne
    exact this (a := u.demux) List.mem_cons_self (hde ▸ List.mem_cons_self)
  refine ⟨hp.imp ?_, hn⟩
  rintro u v huv rfl
  exact huv List.mem_cons_self List.mem_cons_self

/-- When a filter is in use no more, its nodes are registered again, or in hand if it was closed in
the meantime. -/
theorem vacate (ha : Accounts w hand) (hb : w.busy? = none) {f : Filter} {n : FilterNodes}
    (hn : w.holdings.nodes? f = some n)
    (hs : w'.holdings.values.Subperm w.holdings.values)
    (hk : ∀ g v, w'.holdings.nodes? g = some v → w.holdings.nodes? g = some v)
    (ha' : Accounts w' (n.list ++ hand)) (hb' : w'.busy? = some n.demux.number) :
    Accounts { w' with busy? := none }
      (if (w'.holdings.nodes? f).isSome then hand else n.list ++ hand) := by
  obtain ⟨nodup, once⟩ := ha.registered_once hb
  have hm := Holdings.mem_values_iff.mpr ⟨f, hn⟩
  have nodup' : w'.holdings.values.Nodup := by
    refine List.nodup_iff_count_le_one.mpr fun v => ?_
    exact (hs.count_le v).trans (List.nodup_iff_count_le_one.mp nodup v)
  have hlive : n ∈ w'.holdings.values ↔ (w'.holdings.nodes? f).isSome := by
    constructor
    · intro hv
      obtain ⟨g, hg⟩ := Holdings.mem_values_iff.mp hv
      obtain ⟨he, hi⟩ := Holdings.handle_unique hn (hk g n hg) nodup
      have hfg : w'.holdings.nodes? f = w'.holdings.nodes? g := by
        unfold Holdings.nodes?
        rw [he, hi]
      rw [hfg, hg]
      rfl
    · intro hi
      obtain ⟨v, hv⟩ := Option.isSome_iff_exists.mp hi
      have := hk f v hv
      rw [hn, Option.some.injEq] at this
      rw [this]
      exact Holdings.mem_values_iff.mpr ⟨f, hv⟩
  have hp := Holdings.flatMap_list_perm nodup' fun v hv he => once v (hs.subset hv) n hm he
  simp only [hlive] at hp
  refine ⟨ha'.nodes.perm ?_, ?_⟩
  · unfold Holdings.idleNodes
    rw [show w'.holdings.busy? = some n.demux.number from hb', List.append_assoc,
      List.append_assoc]
    refine List.Perm.append_left _ (List.Perm.trans ?_ (hp.append_right _).symm)
    rw [List.append_assoc]
    split_ifs
    · exact List.perm_append_comm_assoc ..
    · exact .refl _
  · rw [show ({ w' with busy? := none } : World σ).trace = w'.trace ++ [] by simp]
    exact ha'.filters.append (by simp) rfl rfl ha'.filters.held

end Accounts

end Multiplex.Session
