import Multiplex.Proofs.Demux.Handles
import Multiplex.Session.World

/-!
# What a session holds, and what closings leave of it

`Holdings` is the part of a session's state that closings change and that they find things by. What
a closing does to it is said here at once and without calls; the calls that it makes do not change
it any further. Closings only take away: a handle leads to what it led to before or to nothing, and
a closing that still has something to close leaves fewer things that could be closed.

Main statements:

* `Holdings.nodes?_of_close`: no closing gives a handle other nodes;
* `Holdings.close_eq_self_or_lt`: a closing closes something, or it changes nothing.
-/

namespace Multiplex.Session

open Multiplex.Device Multiplex.Demux

/-- The nodes of a filter. -/
def FilterNodes.list (n : FilterNodes) : List Node := n.demux :: n.dvr?.toList

/-- The nodes of a filter, if it is not in use by its number. -/
def FilterNodes.idle (busy? : Option Nat) (n : FilterNodes) : List Node :=
  if busy? = some n.demux.number then [] else n.list

/-- The node of a frontend that is open. -/
def Frontend.nodes (f : Frontend) : List Node := if f.isOpen then [f.node] else []

/-- What a session holds. -/
structure Holdings where
  frontends : List Frontend
  held : List Nat
  managers : List Manager
  filters : List Filter
  busy? : Option Nat

/-- What a session holds in a state. -/
def World.holdings (w : World σ) : Holdings :=
  ⟨w.frontends, w.held, w.managers, w.filters, w.busy?⟩

namespace Holdings

variable (h : Holdings)

/-- The nodes of a filter that is not closed. -/
def nodes? (f : Filter) : Option FilterNodes := (h.managers[f.manager]?).bind (·.filters.get? f.id)

/-- The nodes of all filters that are registered. -/
def values : List FilterNodes := h.managers.flatMap (·.filters.values)

/-- The nodes of the filters of a manager. -/
def valuesAt (place : Nat) : List FilterNodes :=
  ((h.managers[place]?).map (·.filters.values)).getD []

/-- The nodes that should be open: those of open frontends and of registered filters. -/
def ownedNodes : List Node :=
  h.frontends.flatMap Frontend.nodes ++ h.values.flatMap FilterNodes.list

/-- The nodes that should be open apart from those of the filter in use. -/
def idleNodes : List Node :=
  h.frontends.flatMap Frontend.nodes ++ h.values.flatMap (FilterNodes.idle h.busy?)

/-- How many things could still be closed. -/
def closable : Nat :=
  h.frontends.countP (·.isOpen) +
    h.managers.foldr (fun m n => m.filters.values.length + m.frontend?.toList.length + n) 0

/-- A manager changed. -/
def setManager (place : Nat) (m : Manager) : Holdings :=
  { h with managers := h.managers.set place m }

/-- A frontend changed. -/
def setFrontend (place : Nat) (f : Frontend) : Holdings :=
  { h with frontends := h.frontends.set place f }

/-- A filter taken out of its registry. -/
def withdraw (f : Filter) : Holdings :=
  match (h.managers[f.manager]?).bind fun m => (m.filters.remove f.id).map (m, ·) with
  | none => h
  | some (m, _, filters) => h.setManager f.manager { m with filters }

/-- A manager closed. -/
def dissolve (place : Nat) : Holdings :=
  match h.managers[place]? with
  | none => h
  | some m => h.setManager place { m with filters := m.filters.drain.2, frontend? := none }

/-- A frontend closed. -/
def shut (place : Nat) : Holdings :=
  match h.frontends[place]? with
  | none => h
  | some f => h.setFrontend place { f with isOpen := false }

/-- A filter registered at its manager. -/
def enroll (f : Filter) (m : Manager) (n : FilterNodes) : Holdings :=
  { h.setManager f.manager { m with filters := (m.filters.insert n).2 } with
    filters := h.filters ++ [f] }

/-- What a closing leaves. -/
def close : Closing → Holdings
  | .filter place => (h.filters[place]?).elim h h.withdraw
  | .manager place => h.dissolve place
  | .frontend place => (h.held[place]?).elim h h.shut

variable {h}

/-! ### A manager changed -/

/-- The nodes of the filters of all managers but one. -/
def elsewhere (h : Holdings) (place : Nat) : List FilterNodes :=
  (h.managers.eraseIdx place).flatMap (·.filters.values)

theorem values_perm {place : Nat} {m : Manager} (hm : h.managers[place]? = some m) :
    h.values.Perm (m.filters.values ++ h.elsewhere place) :=
  (perm_cons_eraseIdx hm).flatMap_right _

theorem values_setManager_perm {place : Nat} {m : Manager} (hm : h.managers[place]? = some m)
    (m' : Manager) :
    (h.setManager place m').values.Perm (m'.filters.values ++ h.elsewhere place) :=
  (set_perm_cons_eraseIdx (List.getElem?_eq_some_iff.mp hm).1 m').flatMap_right _

theorem nodes?_setManager {place : Nat} {m : Manager} (hm : h.managers[place]? = some m)
    (m' : Manager) (f : Filter) :
    (h.setManager place m').nodes? f =
      if f.manager = place then m'.filters.get? f.id else h.nodes? f := by
  unfold nodes? setManager
  split_ifs with he
  · rw [he, List.getElem?_set_self (List.getElem?_eq_some_iff.mp hm).1]
    rfl
  · rw [List.getElem?_set_ne (Ne.symm he)]

theorem valuesAt_setManager {place : Nat} {m : Manager} (hm : h.managers[place]? = some m)
    (m' : Manager) (p : Nat) :
    (h.setManager place m').valuesAt p = if p = place then m'.filters.values else h.valuesAt p := by
  unfold valuesAt setManager
  split_ifs with he
  · rw [he, List.getElem?_set_self (List.getElem?_eq_some_iff.mp hm).1]
    rfl
  · rw [List.getElem?_set_ne (Ne.symm he)]

theorem sum_map_set {α : Type} {l : List α} {i : Nat} {x : α} (h : l[i]? = some x) (y : α)
    (g : α → Nat) : ((l.set i y).map g).sum + g x = (l.map g).sum + g y := by
  have h1 := ((perm_cons_eraseIdx h).map g).sum_nat
  have h2 := ((set_perm_cons_eraseIdx (List.getElem?_eq_some_iff.mp h).1 y).map g).sum_nat
  rw [List.map_cons, List.sum_cons] at h1 h2
  omega

/-- How many things could still be closed by closing a manager. -/
def weight (m : Manager) : Nat := m.filters.values.length + m.frontend?.toList.length

theorem closable_eq (h : Holdings) :
    h.closable = h.frontends.countP (·.isOpen) + (h.managers.map weight).sum := by
  unfold closable
  rw [List.sum_eq_foldr, List.foldr_map]
  rfl

theorem closable_setManager {place : Nat} {m : Manager} (hm : h.managers[place]? = some m)
    (m' : Manager) : (h.setManager place m').closable + weight m = h.closable + weight m' := by
  have := sum_map_set hm m' weight
  rw [closable_eq, closable_eq]
  simp only [setManager]
  omega

/-! ### Closing a filter -/

theorem nodes?_eq_some_iff {f : Filter} {n : FilterNodes} :
    h.nodes? f = some n ↔
      ∃ m r, h.managers[f.manager]? = some m ∧ m.filters.remove f.id = some (n, r) := by
  unfold nodes?
  rw [Option.bind_eq_some_iff]
  refine exists_congr fun m => ?_
  simp only [Registry.remove_eq_some_iff]
  constructor
  · rintro ⟨hm, hn⟩
    exact ⟨_, hm, hn, rfl⟩
  · rintro ⟨_, hm, hn, -⟩
    exact ⟨hm, hn⟩

theorem withdraw_eq {f : Filter} {m : Manager} {n : FilterNodes} {r : Registry FilterNodes}
    (hm : h.managers[f.manager]? = some m) (hr : m.filters.remove f.id = some (n, r)) :
    h.withdraw f = h.setManager f.manager { m with filters := r } := by
  unfold withdraw
  simp [hm, hr]

theorem withdraw_eq_self {f : Filter} (hn : h.nodes? f = none) : h.withdraw f = h := by
  unfold withdraw
  cases hm : h.managers[f.manager]? with
  | none => rfl
  | some m =>
      have hr : m.filters.remove f.id = none := by
        rw [Registry.remove_eq_none_iff]
        simpa [nodes?, hm] using hn
      simp [hr]

theorem values_withdraw_perm {f : Filter} {n : FilterNodes} (hn : h.nodes? f = some n) :
    h.values.Perm (n :: (h.withdraw f).values) := by
  obtain ⟨m, r, hm, hr⟩ := nodes?_eq_some_iff.mp hn
  rw [withdraw_eq hm hr]
  have h1 := (values_perm hm).trans ((Registry.perm_of_remove hr).append_right _)
  exact h1.trans ((values_setManager_perm hm { m with filters := r }).symm.cons n)

/-! ### Closing a manager -/

theorem dissolve_eq {place : Nat} {m : Manager} (hm : h.managers[place]? = some m) :
    h.dissolve place =
      h.setManager place { m with filters := m.filters.drain.2, frontend? := none } := by
  unfold dissolve
  rw [hm]

theorem dissolve_eq_self {place : Nat} (hm : h.managers[place]? = none) :
    h.dissolve place = h := by
  unfold dissolve
  rw [hm]

theorem values_dissolve_perm {place : Nat} {m : Manager} (hm : h.managers[place]? = some m) :
    h.values.Perm (m.filters.values ++ (h.dissolve place).values) := by
  have h1 := values_setManager_perm hm { m with filters := m.filters.drain.2, frontend? := none }
  rw [← dissolve_eq hm] at h1
  simp only [Registry.values_drain, List.nil_append] at h1
  exact (values_perm hm).trans (h1.symm.append_left _)

/-! ### Closing a frontend -/

theorem shut_eq {place : Nat} {f : Frontend} (hf : h.frontends[place]? = some f) :
    h.shut place = h.setFrontend place { f with isOpen := false } := by
  unfold shut
  rw [hf]

theorem shut_eq_self {place : Nat} (hf : ∀ f, h.frontends[place]? = some f → f.isOpen = false) :
    h.shut place = h := by
  unfold shut
  cases he : h.frontends[place]? with
  | none => rfl
  | some f =>
      have hc : ({ f with isOpen := false } : Frontend) = f := by
        rw [← hf f he]
      obtain ⟨hi, rfl⟩ := List.getElem?_eq_some_iff.mp he
      dsimp only
      rw [hc, setFrontend, List.set_getElem_self]

theorem managers_shut (place : Nat) : (h.shut place).managers = h.managers := by
  unfold shut
  cases h.frontends[place]? <;> rfl

theorem frontends_shut {place : Nat} {f : Frontend} (hf : h.frontends[place]? = some f) (p : Nat) :
    (h.shut p).frontends[place]? = some { f with isOpen := f.isOpen && decide (p ≠ place) } := by
  have hi := (List.getElem?_eq_some_iff.mp hf).1
  by_cases hp : p = place
  · subst hp
    rw [shut_eq hf]
    simp [setFrontend, List.getElem?_set_self hi]
  · cases hg : h.frontends[p]? with
    | none =>
        rw [shut_eq_self (by simp [hg])]
        simpa [hp] using hf
    | some g =>
        rw [shut_eq hg]
        simpa [setFrontend, List.getElem?_set_ne hp, hp] using hf

/-! ### What closings take away -/

/-- A handle that is withdrawn leads nowhere, and the others lead where they led. -/
theorem nodes?_withdraw (f g : Filter) : (h.withdraw f).nodes? g =
    if g.manager = f.manager ∧ g.id = f.id then none else h.nodes? g := by
  cases hf : h.nodes? f with
  | none =>
      rw [withdraw_eq_self hf]
      split_ifs with he
      · unfold nodes? at hf ⊢
        rwa [he.1, he.2]
      · rfl
  | some n =>
      obtain ⟨m, r, hm, hr⟩ := nodes?_eq_some_iff.mp hf
      rw [withdraw_eq hm hr, nodes?_setManager hm]
      by_cases he : g.manager = f.manager
      · have hg : h.nodes? g = m.filters.get? g.id := by
          unfold nodes?
          rw [he, hm, Option.bind_some]
        simp [he, hg, Registry.get?_remove hr]
      · simp [he]

/-- No handle of a manager that is closed leads anywhere, and the others lead where they led. -/
theorem nodes?_dissolve (place : Nat) (f : Filter) : (h.dissolve place).nodes? f =
    if f.manager = place then none else h.nodes? f := by
  cases hm : h.managers[place]? with
  | none =>
      rw [dissolve_eq_self hm]
      split_ifs with he
      · unfold nodes?
        rw [he, hm, Option.bind_none]
      · rfl
  | some m =>
      rw [dissolve_eq hm, nodes?_setManager hm]
      simp only [Registry.get?_drain]

theorem nodes?_shut (place : Nat) (f : Filter) : (h.shut place).nodes? f = h.nodes? f := by
  unfold nodes?
  rw [managers_shut]

theorem nodes?_of_withdraw {f g : Filter} {n : FilterNodes}
    (hn : (h.withdraw g).nodes? f = some n) : h.nodes? f = some n := by
  rw [nodes?_withdraw] at hn
  split_ifs at hn
  exact hn

theorem nodes?_of_dissolve {f : Filter} {place : Nat} {n : FilterNodes}
    (hn : (h.dissolve place).nodes? f = some n) : h.nodes? f = some n := by
  rw [nodes?_dissolve] at hn
  split_ifs at hn
  exact hn

theorem nodes?_of_shut {f : Filter} {place : Nat} {n : FilterNodes}
    (hn : (h.shut place).nodes? f = some n) : h.nodes? f = some n := by
  rwa [nodes?_shut] at hn

/-! What is to be closed is looked for. -/

theorem close_filter {place : Nat} {f : Filter} (hf : h.filters[place]? = some f) :
    h.close (.filter place) = h.withdraw f := congrArg (Option.elim · h h.withdraw) hf

theorem close_unknown {place : Nat} (hn : h.filters[place]? = none) :
    h.close (.filter place) = h := congrArg (Option.elim · h h.withdraw) hn

theorem close_frontend {place p : Nat} (hp : h.held[place]? = some p) :
    h.close (.frontend place) = h.shut p := congrArg (Option.elim · h h.shut) hp

theorem close_absent {place : Nat} (hn : h.held[place]? = none) :
    h.close (.frontend place) = h := congrArg (Option.elim · h h.shut) hn

/-- A closing does one of three things, or nothing. -/
theorem close_cases {motive : Holdings → Prop} (self : motive h)
    (withdraw : ∀ f, motive (h.withdraw f)) (dissolve : ∀ place, motive (h.dissolve place))
    (shut : ∀ place, motive (h.shut place)) (c : Closing) : motive (h.close c) := by
  cases c with
  | filter place =>
      cases hf : h.filters[place]? with
      | none => exact (close_unknown hf).symm ▸ self
      | some f => exact (close_filter hf).symm ▸ withdraw f
  | manager place => exact dissolve place
  | frontend place =>
      cases hp : h.held[place]? with
      | none => exact (close_absent hp).symm ▸ self
      | some p => exact (close_frontend hp).symm ▸ shut p

/-- No closing gives a handle other nodes. -/
theorem nodes?_of_close {c : Closing} {f : Filter} {n : FilterNodes}
    (hn : (h.close c).nodes? f = some n) : h.nodes? f = some n := by
  revert hn
  refine close_cases (motive := fun h' => h'.nodes? f = some n → h.nodes? f = some n) ?_ ?_ ?_ ?_ c
  · exact id
  · exact fun _ => nodes?_of_withdraw
  · exact fun _ => nodes?_of_dissolve
  · exact fun _ => nodes?_of_shut

theorem closable_withdraw {f : Filter} {n : FilterNodes} (hn : h.nodes? f = some n) :
    (h.withdraw f).closable < h.closable := by
  obtain ⟨m, r, hm, hr⟩ := nodes?_eq_some_iff.mp hn
  have hl := (Registry.perm_of_remove hr).length_eq
  have hc := closable_setManager hm { m with filters := r }
  rw [withdraw_eq hm hr]
  simp only [weight, List.length_cons] at hl hc
  omega

theorem closable_dissolve {place : Nat} {m : Manager} (hm : h.managers[place]? = some m) :
    (h.dissolve place).closable + weight m = h.closable := by
  rw [dissolve_eq hm, closable_setManager hm]
  simp [weight, Registry.values_drain]

theorem closable_shut {place : Nat} {f : Frontend} (hf : h.frontends[place]? = some f)
    (ho : f.isOpen = true) : (h.shut place).closable < h.closable := by
  have h1 := (perm_cons_eraseIdx hf).countP_eq (·.isOpen)
  have h2 := (set_perm_cons_eraseIdx (List.getElem?_eq_some_iff.mp hf).1
    { f with isOpen := false }).countP_eq (·.isOpen)
  rw [shut_eq hf]
  simp only [closable, setFrontend, List.countP_cons, ho] at h1 h2 ⊢
  simp only [Bool.false_eq_true, if_true, if_false] at h1 h2
  omega

theorem dissolve_eq_self_of_weight {place : Nat} {m : Manager}
    (hm : h.managers[place]? = some m) (hv : m.filters.Valid) (hw : weight m = 0) :
    h.dissolve place = h := by
  obtain ⟨adapter, demux, frontend?, filters⟩ := m
  obtain rfl : frontend? = none := by
    cases frontend? with
    | none => rfl
    | some p =>
        simp only [weight, Option.toList_some, List.length_singleton] at hw
        omega
  have he : filters.drain.2 = filters := by
    refine hv.drain_eq_self (List.eq_nil_of_length_eq_zero ?_)
    simp only [weight] at hw ⊢
    omega
  obtain ⟨hi, hg⟩ := List.getElem?_eq_some_iff.mp hm
  rw [dissolve_eq hm]
  dsimp only
  rw [he, ← hg, setManager, List.set_getElem_self]

/-- A closing closes something that was left to close, or it changes nothing. -/
theorem close_eq_self_or_lt (valid : ∀ m ∈ h.managers, m.filters.Valid) (c : Closing) :
    h.close c = h ∨ (h.close c).closable < h.closable := by
  refine close_cases (motive := fun h' => h' = h ∨ h'.closable < h.closable) (.inl rfl) ?_ ?_ ?_ c
  · intro f
    cases hf : h.nodes? f with
    | none => exact .inl (withdraw_eq_self hf)
    | some n => exact .inr (closable_withdraw hf)
  · intro place
    cases hm : h.managers[place]? with
    | none => exact .inl (dissolve_eq_self hm)
    | some m =>
        have hv := valid m (List.mem_of_getElem? hm)
        have hl := closable_dissolve hm
        rcases Nat.eq_zero_or_pos (weight m) with hw | hw
        · exact .inl (dissolve_eq_self_of_weight hm hv hw)
        · exact .inr (by omega)
  · intro place
    by_cases hf : ∀ f, h.frontends[place]? = some f → f.isOpen = false
    · exact .inl (shut_eq_self hf)
    · simp only [not_forall] at hf
      obtain ⟨f, hf, ho⟩ := hf
      exact .inr (closable_shut hf (by simpa using ho))

/-- Where nothing could still be closed, no closing changes anything. -/
theorem close_eq_self (valid : ∀ m ∈ h.managers, m.filters.Valid) (hc : h.closable = 0)
    (c : Closing) : h.close c = h := by
  refine (close_eq_self_or_lt valid c).resolve_right ?_
  omega

/-! ### What no closing changes -/

/-- What stays as it is while something is closed. -/
structure Frame (h h' : Holdings) : Prop where
  held : h'.held = h.held
  filters : h'.filters = h.filters
  busy? : h'.busy? = h.busy?
  frontends : h'.frontends.length = h.frontends.length

theorem Frame.refl (h : Holdings) : Frame h h := ⟨rfl, rfl, rfl, rfl⟩

theorem Frame.trans {h₁ h₂ h₃ : Holdings} (h : Frame h₁ h₂) (h' : Frame h₂ h₃) : Frame h₁ h₃ :=
  ⟨h'.held.trans h.held, h'.filters.trans h.filters, h'.busy?.trans h.busy?,
    h'.frontends.trans h.frontends⟩

theorem frame_withdraw (f : Filter) : Frame h (h.withdraw f) := by
  unfold withdraw
  split <;> exact ⟨rfl, rfl, rfl, rfl⟩

theorem frame_dissolve (place : Nat) : Frame h (h.dissolve place) := by
  unfold dissolve
  split <;> exact ⟨rfl, rfl, rfl, rfl⟩

theorem frame_shut (place : Nat) : Frame h (h.shut place) := by
  unfold shut
  split
  · exact ⟨rfl, rfl, rfl, rfl⟩
  · exact ⟨rfl, rfl, rfl, List.length_set⟩

theorem frame_close (c : Closing) : Frame h (h.close c) :=
  close_cases (Frame.refl h) frame_withdraw frame_dissolve frame_shut c

theorem frontends_withdraw (f : Filter) : (h.withdraw f).frontends = h.frontends := by
  unfold withdraw
  split <;> rfl

theorem frontends_dissolve (place : Nat) : (h.dissolve place).frontends = h.frontends := by
  unfold dissolve
  split <;> rfl

/-- Closings do not look at which filter is in use. -/
theorem close_busy? (c : Closing) (busy? : Option Nat) :
    close { h with busy? } c = { h.close c with busy? } := by
  cases c with
  | filter place =>
      change (h.filters[place]?).elim _ _ = { (h.filters[place]?).elim h h.withdraw with busy? }
      cases h.filters[place]? with
      | none => rfl
      | some f =>
          simp only [Option.elim_some, withdraw]
          split <;> rfl
  | manager place =>
      simp only [close, dissolve]
      split <;> rfl
  | frontend place =>
      change (h.held[place]?).elim _ _ = { (h.held[place]?).elim h h.shut with busy? }
      cases h.held[place]? with
      | none => rfl
      | some p =>
          simp only [Option.elim_some, shut]
          split <;> rfl

theorem foldl_close_busy? (cs : List Closing) (busy? : Option Nat) :
    cs.foldl close { h with busy? } = { cs.foldl close h with busy? } := by
  induction cs generalizing h with
  | nil => rfl
  | cons c cs ih => rw [List.foldl_cons, List.foldl_cons, close_busy?, ih]

/-! ### Nodes that are given up -/

theorem idleNodes_withdraw_perm {f : Filter} {n : FilterNodes} (hn : h.nodes? f = some n) :
    h.idleNodes.Perm (n.idle h.busy? ++ (h.withdraw f).idleNodes) := by
  have hp := (values_withdraw_perm hn).flatMap_right (FilterNodes.idle h.busy?)
  unfold idleNodes
  rw [frontends_withdraw, (frame_withdraw f).busy?]
  exact (hp.append_left _).trans (List.perm_append_comm_assoc ..)

theorem idleNodes_dissolve_perm {place : Nat} {m : Manager} (hm : h.managers[place]? = some m) :
    h.idleNodes.Perm
      (m.filters.values.flatMap (FilterNodes.idle h.busy?) ++ (h.dissolve place).idleNodes) := by
  have hp := (values_dissolve_perm hm).flatMap_right (FilterNodes.idle h.busy?)
  rw [List.flatMap_append] at hp
  unfold idleNodes
  rw [frontends_dissolve, (frame_dissolve place).busy?]
  exact (hp.append_left _).trans (List.perm_append_comm_assoc ..)

theorem idleNodes_shut_perm {place : Nat} {f : Frontend} (hf : h.frontends[place]? = some f)
    (ho : f.isOpen = true) : h.idleNodes.Perm (f.node :: (h.shut place).idleNodes) := by
  have h1 := (perm_cons_eraseIdx hf).flatMap_right Frontend.nodes
  have h2 := (set_perm_cons_eraseIdx (List.getElem?_eq_some_iff.mp hf).1
    { f with isOpen := false }).flatMap_right Frontend.nodes
  have hv : (h.shut place).values = h.values := by
    unfold values
    rw [managers_shut]
  unfold idleNodes
  rw [hv, (frame_shut place).busy?, shut_eq hf]
  rw [List.flatMap_cons, show Frontend.nodes f = [f.node] by simp [Frontend.nodes, ho]] at h1
  exact (h1.append_right _).trans ((h2.symm.append_right _).cons f.node)

/-! ### Registering a filter -/

section

variable {f : Filter} {m : Manager} {n : FilterNodes}

theorem idleNodes_enroll_perm (hm : h.managers[f.manager]? = some m) (hv : m.filters.Valid)
    (hb : h.busy? = none) : (h.enroll f m n).idleNodes.Perm (n.list ++ h.idleNodes) := by
  have h1 := values_setManager_perm hm { m with filters := (m.filters.insert n).2 }
  have h2 := (Registry.perm_insert hv n).append_right (h.elsewhere f.manager)
  have hp := (h1.trans (h2.trans ((values_perm hm).symm.cons n))).flatMap_right
    (FilterNodes.idle none)
  unfold idleNodes
  rw [hb, show (h.enroll f m n).busy? = none from hb]
  exact (hp.append_left _).trans (List.perm_append_comm_assoc ..)

/-- The handle that is given leads to the nodes of the filter, and the others lead where they led. -/
theorem nodes?_enroll (hm : h.managers[f.manager]? = some m) (hv : m.filters.Valid)
    (hi : f.id = (m.filters.insert n).1) (g : Filter) : (h.enroll f m n).nodes? g =
    if g.manager = f.manager ∧ g.id = f.id then some n else h.nodes? g := by
  change (h.setManager f.manager _).nodes? g = _
  rw [nodes?_setManager hm]
  by_cases he : g.manager = f.manager
  · have hg : h.nodes? g = m.filters.get? g.id := by
      unfold nodes?
      rw [he, hm, Option.bind_some]
    simp [he, hg, hi, Registry.get?_insert hv]
  · simp [he]

/-- What is under a handle after a filter was registered was there before, or is what the new handle
leads to. -/
theorem nodes?_of_enroll (hm : h.managers[f.manager]? = some m) (hv : m.filters.Valid)
    (hi : f.id = (m.filters.insert n).1) {g : Filter} {v : FilterNodes}
    (hg : (h.enroll f m n).nodes? g = some v) :
    h.nodes? g = some v ∨ { g with kind := f.kind } = f ∧ v = n := by
  rw [nodes?_enroll hm hv hi] at hg
  split_ifs at hg with he
  · refine .inr ⟨?_, (Option.some.inj hg).symm⟩
    rw [he.1, he.2]
  · exact .inl hg

end

/-- A manager that comes without filters does not matter to handles. -/
theorem nodes?_concat {h' : Holdings} {m : Manager} (hm : m.filters = .empty)
    (hm' : h'.managers = h.managers ++ [m]) (f : Filter) : h'.nodes? f = h.nodes? f := by
  unfold nodes?
  rw [hm']
  rcases getElem?_concat_cases h.managers m f.manager with he | ⟨hp, he⟩
  · rw [he]
  · rw [he, hp, List.getElem?_length, Option.bind_some, hm]
    rfl

/-! ### Filters and their nodes -/

theorem mem_values_iff {n : FilterNodes} : n ∈ h.values ↔ ∃ f, h.nodes? f = some n := by
  unfold values nodes?
  simp only [List.mem_flatMap, Option.bind_eq_some_iff, Registry.mem_values_iff]
  constructor
  · rintro ⟨m, hm, id, hn⟩
    obtain ⟨place, hp⟩ := List.mem_iff_getElem?.mp hm
    exact ⟨⟨place, id, .sections 0 0⟩, m, hp, hn⟩
  · rintro ⟨f, m, hm, hn⟩
    exact ⟨m, List.mem_of_getElem? hm, f.id, hn⟩

/-- Nodes that are registered once are under one handle only. -/
theorem handle_unique {f g : Filter} {n : FilterNodes} (hf : h.nodes? f = some n)
    (hg : h.nodes? g = some n) (nodup : h.values.Nodup) : f.manager = g.manager ∧ f.id = g.id := by
  unfold nodes? at hf hg
  obtain ⟨m, hm, hf⟩ := Option.bind_eq_some_iff.mp hf
  obtain ⟨k, hk, hg⟩ := Option.bind_eq_some_iff.mp hg
  have once := List.nodup_iff_count_le_one.mp nodup n
  by_cases he : f.manager = g.manager
  · rw [he, hk, Option.some.injEq] at hm
    subst hm
    refine ⟨he, Registry.get?_unique hf hg ?_⟩
    have hp := (values_perm hk).count_eq n
    rw [List.count_append] at hp
    omega
  · have := two_le_count_flatMap hm hk he (·.filters.values)
      (Registry.mem_values_iff.mpr ⟨_, hf⟩) (Registry.mem_values_iff.mpr ⟨_, hg⟩)
    unfold values at once
    omega

theorem flatMap_filter_perm (l : List FilterNodes) (k : Nat) :
    (l.flatMap FilterNodes.list).Perm ((l.filter (·.demux.number = k)).flatMap FilterNodes.list ++
      l.flatMap (FilterNodes.idle (some k))) := by
  induction l with
  | nil => exact .refl _
  | cons n l ih =>
      rw [List.flatMap_cons, List.flatMap_cons]
      by_cases hn : n.demux.number = k
      · rw [List.filter_cons_of_pos (by simpa using hn), List.flatMap_cons,
          show n.idle (some k) = [] by simp [FilterNodes.idle, hn], List.nil_append,
          List.append_assoc]
        exact ih.append_left _
      · rw [List.filter_cons_of_neg (by simpa using hn),
          show n.idle (some k) = n.list by simp [FilterNodes.idle, Ne.symm hn]]
        exact (ih.append_left _).trans (List.perm_append_comm_assoc ..)

theorem filter_number_perm {l : List FilterNodes} {n : FilterNodes} (nodup : l.Nodup)
    (once : ∀ v ∈ l, v.demux.number = n.demux.number → v = n) :
    (l.filter (·.demux.number = n.demux.number)).Perm (if n ∈ l then [n] else []) := by
  refine (List.perm_ext_iff_of_nodup (nodup.filter _) ?_).mpr fun v => ?_
  · split_ifs
    · exact List.nodup_singleton n
    · exact List.nodup_nil
  · rw [List.mem_filter, decide_eq_true_iff]
    split_ifs with hn
    · rw [List.mem_singleton]
      constructor
      · rintro ⟨hv, he⟩
        exact once v hv he
      · rintro rfl
        exact ⟨hn, rfl⟩
    · constructor
      · rintro ⟨hv, he⟩
        exact absurd (once v hv he ▸ hv) hn
      · intro hv
        cases hv

/-- While the filter with some nodes is in use, these are its and the rest is idle. -/
theorem flatMap_list_perm {l : List FilterNodes} {n : FilterNodes} (nodup : l.Nodup)
    (once : ∀ v ∈ l, v.demux.number = n.demux.number → v = n) :
    (l.flatMap FilterNodes.list).Perm
      ((if n ∈ l then n.list else []) ++ l.flatMap (FilterNodes.idle (some n.demux.number))) := by
  refine (flatMap_filter_perm l _).trans (List.Perm.append_right _ ?_)
  refine ((filter_number_perm nodup once).flatMap_right _).trans ?_
  split_ifs
  · rw [List.flatMap_singleton]
  · rfl

end Holdings

end Multiplex.Session
