import Multiplex.Proofs.Session.Holdings

/-!
# What a trace tells about nodes and filters

A trace is a ledger: it tells which nodes were opened and released, and which filters were
registered and withdrawn. `NodesAccounted` says that what was opened was released or is open, and
`FiltersAccounted` that what was registered was withdrawn or is held. Each event adds to one of the
two and leaves the other as it is.

Main statements:

* `NodesAccounted.opened`, `NodesAccounted.released`: what the events of a node change;
* `NodesAccounted.nodup`: no node is released twice, and none that is released is still open;
* `FiltersAccounted.setManager`: what the events of a filter change.
-/

namespace Multiplex.Session

open Multiplex.Device Multiplex.Demux

/-! ### The pages of the ledger -/

/-- The nodes that were opened. -/
def openedNodes : List Event → List Node :=
  List.filterMap fun
    | .opened node => some node
    | _ => none

/-- The nodes that were closed or let go of. -/
def releasedNodes : List Event → List Node :=
  List.filterMap fun
    | .closed node | .dropped node => some node
    | _ => none

/-- The nodes of the filters that a manager registered. -/
def registeredAt (place : Nat) : List Event → List FilterNodes :=
  List.filterMap fun
    | .registered f nodes => if f.manager = place then some nodes else none
    | _ => none

/-- The nodes of the filters that were taken out of a manager's registry. -/
def withdrawnAt (place : Nat) : List Event → List FilterNodes :=
  List.filterMap fun
    | .withdrawn manager nodes => if manager = place then some nodes else none
    | _ => none

/-- The filters that were registered, as their users hold them. -/
def registered : List Event → List Filter :=
  List.filterMap fun
    | .registered f _ => some f
    | _ => none

/-- The closings that others asked for. -/
def askedFor : List Event → List Closing :=
  List.filterMap fun
    | .asked closing => some closing
    | _ => none

/-- Whether an event opens or releases a node. -/
def Event.isOfNode : Event → Bool
  | .opened _ | .closed _ | .dropped _ => true
  | _ => false

/-- Whether an event registers or withdraws a filter. -/
def Event.isOfFilter : Event → Bool
  | .registered .. | .withdrawn .. => true
  | _ => false

section

variable (es fs : List Event)

theorem openAfter_append (nodes : List Node) :
    openAfter nodes (es ++ fs) = openAfter (openAfter nodes es) fs := by
  induction es generalizing nodes with
  | nil => rfl
  | cons e es ih => cases e <;> exact ih _

theorem openedNodes_append : openedNodes (es ++ fs) = openedNodes es ++ openedNodes fs :=
  List.filterMap_append

theorem releasedNodes_append : releasedNodes (es ++ fs) = releasedNodes es ++ releasedNodes fs :=
  List.filterMap_append

theorem registeredAt_append (place : Nat) :
    registeredAt place (es ++ fs) = registeredAt place es ++ registeredAt place fs :=
  List.filterMap_append

theorem withdrawnAt_append (place : Nat) :
    withdrawnAt place (es ++ fs) = withdrawnAt place es ++ withdrawnAt place fs :=
  List.filterMap_append

theorem registered_append : registered (es ++ fs) = registered es ++ registered fs :=
  List.filterMap_append

theorem askedFor_append : askedFor (es ++ fs) = askedFor es ++ askedFor fs :=
  List.filterMap_append

end

/-- Events that are no matter of nodes leave that page as it is. -/
theorem nodes_of_quiet {es : List Event} (hq : ∀ e ∈ es, e.isOfNode = false) :
    openedNodes es = [] ∧ releasedNodes es = [] ∧ ∀ nodes, openAfter nodes es = nodes := by
  refine ⟨?_, ?_, ?_⟩
  · refine List.filterMap_eq_nil_iff.mpr fun e he => ?_
    have := hq e he
    cases e <;> first | rfl | cases this
  · refine List.filterMap_eq_nil_iff.mpr fun e he => ?_
    have := hq e he
    cases e <;> first | rfl | cases this
  · induction es with
    | nil => exact fun _ => rfl
    | cons e es ih =>
        rw [List.forall_mem_cons] at hq
        intro nodes
        cases e <;> first | exact ih hq.2 nodes | cases hq.1

/-- Events that are no matter of filters leave that page as it is. -/
theorem filters_of_quiet {es : List Event} (hq : ∀ e ∈ es, e.isOfFilter = false) (place : Nat) :
    registeredAt place es = [] ∧ withdrawnAt place es = [] ∧ registered es = [] := by
  refine ⟨?_, ?_, ?_⟩ <;> refine List.filterMap_eq_nil_iff.mpr fun e he => ?_
  all_goals
    have := hq e he
    cases e <;> first | rfl | cases this

/-! ### Nodes -/

/-- The accounts of nodes: `expected` are open, and all others that were opened were released. -/
structure NodesAccounted (trace : List Event) (nodeCount : Nat) (expected : List Node) : Prop where
  balance : (openAfter [] trace).Perm expected
  ledger : (openedNodes trace).Perm (releasedNodes trace ++ openAfter [] trace)
  distinct : ((openedNodes trace).map (·.number)).Nodup
  numbered : ∀ n ∈ openedNodes trace, n.number ≤ nodeCount

namespace NodesAccounted

variable {trace : List Event} {nodeCount : Nat} {expected expected' : List Node}

theorem perm (h : NodesAccounted trace nodeCount expected) (hp : expected.Perm expected') :
    NodesAccounted trace nodeCount expected' :=
  { h with balance := h.balance.trans hp }

/-- Events that open and release nothing. -/
theorem append (h : NodesAccounted trace nodeCount expected) {es : List Event}
    (hq : ∀ e ∈ es, e.isOfNode = false) : NodesAccounted (trace ++ es) nodeCount expected := by
  obtain ⟨ho, hr, ha⟩ := nodes_of_quiet hq
  have ho' : openedNodes (trace ++ es) = openedNodes trace := by
    rw [openedNodes_append, ho, List.append_nil]
  refine ⟨?_, ?_, ?_, ?_⟩
  · rw [openAfter_append, ha]
    exact h.balance
  · rw [ho', releasedNodes_append, hr, List.append_nil, openAfter_append, ha]
    exact h.ledger
  · rw [ho']
    exact h.distinct
  · rw [ho']
    exact h.numbered

theorem opened (h : NodesAccounted trace nodeCount expected) {n : Node}
    (hn : n.number = nodeCount + 1) :
    NodesAccounted (trace ++ [.opened n]) n.number (n :: expected) := by
  have ha : openAfter [] (trace ++ [.opened n]) = openAfter [] trace ++ [n] := openAfter_append ..
  have ho : openedNodes (trace ++ [.opened n]) = openedNodes trace ++ [n] :=
    openedNodes_append ..
  have hr : releasedNodes (trace ++ [.opened n]) = releasedNodes trace :=
    (releasedNodes_append ..).trans (List.append_nil _)
  refine ⟨?_, ?_, ?_, ?_⟩
  · rw [ha]
    exact (h.balance.append_right [n]).trans (List.perm_append_singleton n expected)
  · rw [ho, hr, ha, ← List.append_assoc]
    exact h.ledger.append_right [n]
  · rw [ho, List.map_append, List.nodup_append']
    refine ⟨h.distinct, List.nodup_singleton _, ?_⟩
    intro k hk hk'
    obtain ⟨m, hm, rfl⟩ := List.mem_map.mp hk
    have := h.numbered m hm
    rw [List.map_singleton, List.mem_singleton] at hk'
    omega
  · intro m hm
    rw [ho, List.mem_append, List.mem_singleton] at hm
    rcases hm with hm | rfl
    · have := h.numbered m hm
      omega
    · exact Nat.le_refl _

theorem released {n : Node} (h : NodesAccounted trace nodeCount (n :: expected)) {e : Event}
    (he : e = .closed n ∨ e = .dropped n) :
    NodesAccounted (trace ++ [e]) nodeCount expected := by
  have ha : openAfter [] (trace ++ [e]) = (openAfter [] trace).erase n := by
    rw [openAfter_append]
    rcases he with rfl | rfl <;> rfl
  have ho : openedNodes (trace ++ [e]) = openedNodes trace := by
    rw [openedNodes_append]
    rcases he with rfl | rfl <;> exact List.append_nil _
  have hr : releasedNodes (trace ++ [e]) = releasedNodes trace ++ [n] := by
    rw [releasedNodes_append]
    rcases he with rfl | rfl <;> rfl
  have hm : n ∈ openAfter [] trace := h.balance.mem_iff.mpr List.mem_cons_self
  refine ⟨?_, ?_, ?_, ?_⟩
  · have := h.balance.erase n
    rwa [List.erase_cons_head, ← ha] at this
  · rw [ho, hr, ha, List.append_assoc]
    exact h.ledger.trans ((List.perm_cons_erase hm).append_left _)
  · rw [ho]
    exact h.distinct
  · rw [ho]
    exact h.numbered

theorem opened_perm (h : NodesAccounted trace nodeCount expected) :
    (openedNodes trace).Perm (releasedNodes trace ++ expected) :=
  h.ledger.trans (h.balance.append_left _)

/-- No node is released twice, and none is released and still open. -/
theorem nodup (h : NodesAccounted trace nodeCount expected) :
    (releasedNodes trace ++ expected).Nodup :=
  h.opened_perm.nodup_iff.mp h.distinct.of_map

/-- A node that was opened is open, or it was released once. -/
theorem count_released (h : NodesAccounted trace nodeCount expected) {n : Node}
    (hn : n ∈ openedNodes trace) :
    (releasedNodes trace).count n = if n ∈ expected then 0 else 1 := by
  have hd := List.nodup_append'.mp h.nodup
  split_ifs with he
  · exact List.count_eq_zero.mpr fun hr => hd.2.2 hr he
  · have hm := h.opened_perm.mem_iff.mp hn
    exact List.count_eq_one_of_mem hd.1 ((List.mem_append.mp hm).resolve_right he)

/-- Nodes of one number are one node. -/
theorem eq_of_number (h : NodesAccounted trace nodeCount expected) {m n : Node}
    (hm : m ∈ expected) (hn : n ∈ expected) (he : m.number = n.number) : m = n := by
  have hm' := h.opened_perm.mem_iff.mpr (List.mem_append_right _ hm)
  have hn' := h.opened_perm.mem_iff.mpr (List.mem_append_right _ hn)
  exact List.inj_on_of_nodup_map h.distinct hm' hn' he

end NodesAccounted

/-! ### Filters -/

/-- Whether a filter delivers through a dvr. -/
def taps : FilterKind → Bool
  | .stream _ _ output _ => output = .tsTap
  | .sections .. => false

/-- The nodes are those that a filter has: a demux, and a dvr if it delivers there. -/
def FilterNodes.Fits (n : FilterNodes) (kind : FilterKind) : Prop :=
  n.demux.kind = .demux ∧ n.dvr?.map (·.kind) = if taps kind then some .dvr else none

/-- The accounts of filters: those that a manager registered are held or were withdrawn, and what
is held under a handle was registered under it. -/
structure FiltersAccounted (trace : List Event) (h : Holdings) : Prop where
  entries : ∀ place,
    (registeredAt place trace).Perm (withdrawnAt place trace ++ h.valuesAt place)
  created : registered trace = h.filters
  fitting : ∀ f nodes, .registered f nodes ∈ trace → nodes.Fits f.kind
  known : ∀ f nodes, h.nodes? f = some nodes →
    ∃ kind, .registered { f with kind } nodes ∈ trace
  valid : ∀ m ∈ h.managers, m.filters.Valid
  held : h.held = List.range h.frontends.length

namespace FiltersAccounted

variable {trace : List Event} {h h' : Holdings}

/-- A manager changed, and just that told. -/
theorem setManager (ha : FiltersAccounted trace h) {place : Nat} {m : Manager} (m' : Manager)
    (hm : h.managers[place]? = some m) (hm' : h'.managers = h.managers.set place m')
    (hd : h'.held = List.range h'.frontends.length) (valid : m'.filters.Valid) {es : List Event}
    (hf : h'.filters = h.filters ++ registered es)
    (here : (registeredAt place es ++ m.filters.values).Perm
      (withdrawnAt place es ++ m'.filters.values))
    (there : ∀ p, p ≠ place → registeredAt p es = [] ∧ withdrawnAt p es = [])
    (fits : ∀ f nodes, .registered f nodes ∈ es → nodes.Fits f.kind)
    (known : ∀ f nodes, h'.nodes? f = some nodes →
      h.nodes? f = some nodes ∨ ∃ kind, .registered { f with kind } nodes ∈ es) :
    FiltersAccounted (trace ++ es) h' := by
  have hv : ∀ p, h'.valuesAt p = if p = place then m'.filters.values else h.valuesAt p := by
    intro p
    rw [← Holdings.valuesAt_setManager hm m' p]
    unfold Holdings.valuesAt
    rw [hm']
    rfl
  refine ⟨fun p => ?_, ?_, fun f nodes hf => ?_, fun f nodes hn => ?_, fun k hk => ?_, hd⟩
  · rw [registeredAt_append, withdrawnAt_append, hv p]
    split_ifs with hp
    · subst hp
      have he := ha.entries p
      rw [show h.valuesAt p = m.filters.values by simp [Holdings.valuesAt, hm]] at he
      have h1 := he.append_right (registeredAt p es)
      rw [List.append_assoc] at h1 ⊢
      exact h1.trans ((List.perm_append_comm.trans here).append_left _)
    · obtain ⟨hr, hw⟩ := there p hp
      rw [hr, hw, List.append_nil, List.append_nil]
      exact ha.entries p
  · rw [registered_append, hf, ha.created]
  · rcases List.mem_append.mp hf with hf | hf
    · exact ha.fitting f nodes hf
    · exact fits f nodes hf
  · rcases known f nodes hn with hn | ⟨kind, he⟩
    · obtain ⟨kind, he⟩ := ha.known f nodes hn
      exact ⟨kind, List.mem_append_left _ he⟩
    · exact ⟨kind, List.mem_append_right _ he⟩
  · rw [hm'] at hk
    rcases List.mem_or_eq_of_mem_set hk with hk | rfl
    · exact ha.valid k hk
    · exact valid

/-- Events about other things, while frontends may change. -/
theorem append (ha : FiltersAccounted trace h) {es : List Event}
    (hq : ∀ e ∈ es, e.isOfFilter = false) (hm : h'.managers = h.managers)
    (hf : h'.filters = h.filters)
    (hd : h'.held = List.range h'.frontends.length) : FiltersAccounted (trace ++ es) h' := by
  have hv : ∀ p, h'.valuesAt p = h.valuesAt p := by
    intro p
    unfold Holdings.valuesAt
    rw [hm]
  refine ⟨fun p => ?_, ?_, fun f nodes hf => ?_, fun f nodes hn => ?_, hm ▸ ha.valid, hd⟩
  · obtain ⟨hr, hw, -⟩ := filters_of_quiet hq p
    rw [registeredAt_append, withdrawnAt_append, hr, hw, List.append_nil, List.append_nil, hv p]
    exact ha.entries p
  · obtain ⟨-, -, hr⟩ := filters_of_quiet hq 0
    rw [registered_append, hr, List.append_nil, hf, ha.created]
  · rcases List.mem_append.mp hf with hf | hf
    · exact ha.fitting f nodes hf
    · cases hq _ hf
  · unfold Holdings.nodes? at hn
    rw [hm] at hn
    obtain ⟨kind, he⟩ := ha.known f nodes hn
    exact ⟨kind, List.mem_append_left _ he⟩

theorem addManager (ha : FiltersAccounted trace h) {m : Manager} (hm : m.filters = .empty)
    (hm' : h'.managers = h.managers ++ [m]) (hf : h'.filters = h.filters)
    (hd : h'.held = List.range h'.frontends.length) : FiltersAccounted trace h' := by
  have hv : ∀ p, h'.valuesAt p = h.valuesAt p := by
    intro p
    unfold Holdings.valuesAt
    rw [hm']
    rcases getElem?_concat_cases h.managers m p with he | ⟨rfl, he⟩
    · rw [he]
    · rw [he, List.getElem?_length, Option.map_some, hm]
      rfl
  refine ⟨fun p => ?_, ha.created.trans hf.symm, ha.fitting, fun f nodes h => ?_, fun k hk => ?_,
    hd⟩
  · rw [hv]
    exact ha.entries p
  · rw [Holdings.nodes?_concat hm hm'] at h
    exact ha.known f nodes h
  · rw [hm', List.mem_append, List.mem_singleton] at hk
    rcases hk with hk | rfl
    · exact ha.valid k hk
    · rw [hm]
      exact Registry.valid_empty

end FiltersAccounted

end Multiplex.Session
