import Multiplex.Proofs.Session.Accounts
import Multiplex.Proofs.Session.Walks

/-!
# Closings keep the accounts

A call can be interrupted by closings at every point, and the calls that these make can be
interrupted too. `Amid` is what holds at any such moment: the accounts, with the nodes in hand, and
that all which has happened to the holdings is what the closings that others asked for leave of
them. Each part of a closing keeps that, while it passes on the nodes that it has in hand; the
number of things that can still be closed bounds how deep closings are nested, so that none is left
out.

Main statements:

* `keeps_interrupt`: what happens during a call keeps the accounts;
* `closeFilterDuring_amid`, `closeManagerDuring_amid`, `closeFrontendDuring_amid`: a closing takes
  from the holdings what it closes, and hands nothing on.
-/

namespace Multiplex.Session

open Multiplex.Device Multiplex.Demux

variable {σ α β : Type}

/-! ### In the middle of a call -/

/-- What happened since a moment is told by the trace, and only closings that others asked for
changed the holdings. -/
def Since (trace : List Event) (h : Holdings) (w : World σ) : Prop :=
  ∃ es, w.trace = trace ++ es ∧ w.holdings = (askedFor es).foldl Holdings.close h

/-- A moment of a call since which closings happened, with nodes in hand and no more than `room`
things that could be closed. -/
structure Amid (room : Nat) (trace : List Event) (h : Holdings) (hand : List Node)
    (w : World σ) : Prop where
  since : Since trace h w
  accounts : Accounts w hand
  room : w.holdings.closable ≤ room

/-- A step that keeps what holds in the middle of a call. -/
def Keeps (room : Nat) (a : Act σ α) : Prop :=
  ∀ trace h hand, Preserves (Amid room trace h hand) a

/-- Closings that take from the holdings what they close. -/
def Closes (room : Nat) (act : Closing → Act σ Unit) : Prop :=
  ∀ c hand w, Accounts w hand → w.holdings.closable ≤ room →
    Amid room w.trace (w.holdings.close c) hand ((act c).run w).2

theorem Since.refl (w : World σ) : Since w.trace w.holdings w := ⟨[], by simp, rfl⟩

theorem Since.trans {trace : List Event} {h h' : Holdings} {w w' : World σ}
    (hs : Since trace h w) (es : List Event)
    (he : h' = (askedFor es).foldl Holdings.close w.holdings)
    (hs' : Since (w.trace ++ es) h' w') : Since trace h w' := by
  obtain ⟨fs, ht, hh⟩ := hs
  obtain ⟨gs, ht', hh'⟩ := hs'
  refine ⟨fs ++ es ++ gs, ?_, ?_⟩
  · rw [ht', ht]
    simp only [List.append_assoc]
  · rw [hh', he, hh, askedFor_append, askedFor_append, List.foldl_append, List.foldl_append]

/-- A property of holdings that closings keep holds of what they leave. -/
theorem Since.induct {trace : List Event} {h : Holdings} {w : World σ} (hs : Since trace h w)
    {motive : Holdings → Prop} (start : motive h)
    (step : ∀ k c, motive k → motive (k.close c)) : motive w.holdings := by
  obtain ⟨es, -, hh⟩ := hs
  rw [hh]
  exact List.foldlRecOn _ _ start fun k hk c _ => step k c hk

theorem Since.frame {trace : List Event} {h : Holdings} {w : World σ} (hs : Since trace h w) :
    Holdings.Frame h w.holdings :=
  hs.induct (motive := Holdings.Frame h) (.refl h) fun _ c hk => hk.trans (Holdings.frame_close c)

/-- Closings do not look at which filter is in use. -/
theorem Since.unused {trace : List Event} {h : Holdings} {w : World σ} {busy? : Option Nat}
    (hs : Since trace { h with busy? } w) (hb : h.busy? = none) :
    Since trace h { w with busy? := none } := by
  obtain ⟨es, ht, hh⟩ := hs
  refine ⟨es, ht, ?_⟩
  have hself : ({ h with busy? := none } : Holdings) = h := by rw [← hb]
  rw [Holdings.foldl_close_busy?] at hh
  rw [← hself, Holdings.foldl_close_busy?]
  exact congrArg (fun k : Holdings => { k with busy? := none }) hh

namespace Amid

variable {room room' : Nat} {trace : List Event} {h : Holdings} {hand hand' : List Node}
  {w w' : World σ}

theorem mono (ha : Amid room trace h hand w) (hr : room ≤ room') : Amid room' trace h hand w :=
  { ha with room := ha.room.trans hr }

theorem perm (ha : Amid room trace h hand w) (hp : hand.Perm hand') :
    Amid room trace h hand' w :=
  { ha with accounts := ha.accounts.perm hp }

theorem busy? (ha : Amid room trace h hand w) : w.busy? = h.busy? := ha.since.frame.busy?

/-- A step after which the holdings are the same. -/
theorem step (ha : Amid room trace h hand w) (es : List Event) (ht : w'.trace = w.trace ++ es)
    (hq : askedFor es = []) (hh : w'.holdings = w.holdings) (ha' : Accounts w' hand') :
    Amid room trace h hand' w' := by
  have hs : Since (w.trace ++ es) w.holdings w' := ⟨[], by rw [ht, List.append_nil], hh⟩
  refine ⟨ha.since.trans es ?_ hs, ha', hh ▸ ha.room⟩
  rw [hq]
  rfl

theorem congr (ha : Amid room trace h hand w) (ht : w'.trace = w.trace)
    (hc : w'.nodeCount = w.nodeCount) (hh : w'.holdings = w.holdings) :
    Amid room trace h hand w' :=
  ha.step [] (by rw [ht, List.append_nil]) rfl hh (ha.accounts.congr ht hc hh)

end Amid

/-- An event that is no matter of nodes, filters or closings. -/
def Event.Quiet (e : Event) : Prop :=
  e.isOfNode = false ∧ e.isOfFilter = false ∧ askedFor [e] = []

namespace Keeps

variable {room : Nat}

/-- A step that only the device, the log and the like take notice of. -/
theorem of_eq {a : Act σ α} (h : ∀ w : World σ, (a.run w).2.trace = w.trace ∧
    (a.run w).2.nodeCount = w.nodeCount ∧ (a.run w).2.holdings = w.holdings) : Keeps room a := by
  intro trace k hand w hw
  obtain ⟨ht, hc, hh⟩ := h w
  exact hw.congr ht hc hh

theorem onDevice (call : σ → α × σ) : Keeps room (onDevice call) :=
  of_eq fun _ => ⟨rfl, rfl, rfl⟩

theorem record {e : Event} (hq : e.Quiet) : Keeps (σ := σ) room (record e) := by
  obtain ⟨hn, hf, ha⟩ := hq
  exact fun _ _ _ _ hw => hw.step [e] rfl ha rfl (hw.accounts.quiet hn hf rfl rfl rfl)

end Keeps

/-! ### Closing nodes -/

section

variable {P : Platform σ} {during : Call → Act σ (Except SystemError Unit)} {room : Nat}
  {trace : List Event} {h : Holdings} {hand : List Node}

theorem record_released {node : Node} {e : Event} (he : e = .closed node ∨ e = .dropped node) :
    Leads (Amid (σ := σ) room trace h (node :: hand)) (record e)
      fun _ => Amid room trace h hand := by
  intro w hw
  refine hw.step [e] rfl ?_ rfl (hw.accounts.released he rfl rfl rfl)
  rcases he with rfl | rfl <;> rfl

theorem closeNode_amid (hd : ∀ call, Keeps room (during call)) (node : Node) :
    Leads (Amid room trace h (node :: hand)) (closeNode P during node)
      fun _ => Amid room trace h hand :=
  closeNode_leads (record_released (.inl rfl)) (hd _ _ _ _) fun _ => Keeps.onDevice _ _ _ _

theorem release_amid (hd : ∀ call, Keeps room (during call)) (nodes : FilterNodes) :
    Leads (Amid room trace h (nodes.idle h.busy? ++ hand)) (release P during nodes)
      fun _ => Amid room trace h hand := by
  have closed : Leads (Amid room trace h (nodes.list ++ hand)) (closeNodes P during nodes)
      fun _ => Amid room trace h hand :=
    closeNodes_leads nodes hand (fun node _ _ => closeNode_amid hd node)
      fun _ _ _ _ hw => hw.perm (.swap ..)
  refine release_leads nodes (fun w hw hn => ?_) fun w hw => ?_
  · rwa [show nodes.idle h.busy? = [] from if_pos (hw.busy? ▸ hn)] at hw
  · obtain ⟨hw, hn⟩ := hw
    rw [show nodes.idle h.busy? = nodes.list from if_neg (hw.busy? ▸ hn)] at hw
    exact closed w hw

theorem releaseAll_amid (hd : ∀ call, Keeps room (during call)) (all : List FilterNodes) :
    Leads (Amid room trace h (all.flatMap (FilterNodes.idle h.busy?) ++ hand))
      (releaseAll P during all) fun _ => Amid room trace h hand := by
  refine releaseAll_leads (I := fun all =>
    Amid room trace h (all.flatMap (FilterNodes.idle h.busy?) ++ hand)) (fun nodes rest => ?_) all
  rw [List.flatMap_cons, List.append_assoc]
  exact release_amid hd nodes

/-! ### Closing filters, managers and frontends -/

variable {w : World σ}

/-- The moment after something was taken from the holdings, before its nodes are released. -/
theorem amid_of_accounts {w' : World σ} {k : Holdings} {es : List Event}
    (ht : w'.trace = w.trace ++ es) (hq : askedFor es = []) (hh : w'.holdings = k)
    (ha : Accounts w' hand) (hr : k.closable ≤ room) : Amid room w.trace k hand w' :=
  ⟨⟨es, ht, by rw [hq]; exact hh⟩, ha, hh ▸ hr⟩

theorem run_closeFilterDuring_none {f : Filter} (hn : w.holdings.nodes? f = none) :
    (closeFilterDuring P during f).run w = (.ok (), w) := by
  have hr : ((w.managers[f.manager]?).bind fun m => (m.filters.remove f.id).map (m, ·)) = none := by
    rw [Option.bind_eq_none_iff]
    intro m hm
    rw [Option.map_eq_none_iff, Registry.remove_eq_none_iff]
    exact Option.bind_eq_none_iff.mp hn m hm
  unfold closeFilterDuring
  rw [run_get_bind, hr]
  rfl

theorem run_closeFilterDuring_some {f : Filter} {m : Manager} {n : FilterNodes}
    {r : Registry FilterNodes} (hm : w.managers[f.manager]? = some m)
    (hr : m.filters.remove f.id = some (n, r)) :
    (closeFilterDuring P during f).run w = (release P during n).run
      { w.setManager f.manager { m with filters := r } with
        trace := w.trace ++ [.withdrawn f.manager n] } := by
  unfold closeFilterDuring
  rw [run_get_bind, hm, Option.bind_some, hr]
  rfl

theorem closeFilterDuring_amid (hd : ∀ call, Keeps room (during call)) (f : Filter)
    (ha : Accounts w hand) (hr : w.holdings.closable ≤ room + 1) :
    Amid (room + 1) w.trace (w.holdings.withdraw f) hand
      ((closeFilterDuring P during f).run w).2 := by
  cases hn : w.holdings.nodes? f with
  | none =>
      rw [run_closeFilterDuring_none hn, Holdings.withdraw_eq_self hn]
      exact ⟨.refl w, ha, hr⟩
  | some n =>
      obtain ⟨m, r, hm, hf⟩ := Holdings.nodes?_eq_some_iff.mp hn
      rw [run_closeFilterDuring_some hm hf]
      refine (release_amid hd n _ ?_).mono (Nat.le_succ room)
      have hlt := Holdings.closable_withdraw hn
      refine amid_of_accounts rfl rfl (Holdings.withdraw_eq hm hf).symm ?_ (by omega)
      rw [(Holdings.frame_withdraw f).busy?]
      exact ha.withdraw hn rfl rfl (Holdings.withdraw_eq hm hf).symm

/-- A frontend that its user holds is not let go of. -/
theorem keeps_dropFrontend (place : Nat) : Keeps room (dropFrontend P place) := by
  intro trace h hand w hw
  have e : ((dropFrontend P place).run w).2 = w := by
    unfold dropFrontend
    rw [run_get_bind]
    cases hf : w.frontends[place]? with
    | none => rfl
    | some f =>
        have hr : w.isReferenced place = true := by
          have hh : w.held = List.range w.frontends.length := hw.accounts.filters.held
          have hc : w.held.contains place = true := by
            rw [hh, List.contains_iff_mem, List.mem_range]
            exact (List.getElem?_eq_some_iff.mp hf).1
          rw [World.isReferenced, hc, Bool.true_or, Bool.true_or]
        dsimp only
        rw [if_neg (by simp [hr])]
        rfl
  rw [e]
  exact hw

theorem run_closeManagerDuring_some {place : Nat} {m : Manager} (hm : w.managers[place]? = some m) :
    (closeManagerDuring P during place).run w =
      (releaseAll P during m.filters.values >>= leaveFrontend P m.frontend?).run
      { w.setManager place { m with filters := m.filters.drain.2, frontend? := none } with
        trace := w.trace ++ m.filters.values.map (.withdrawn place)
        leaving := m.frontend?.toList ++ w.leaving } := by
  unfold closeManagerDuring
  rw [run_get_bind, hm]
  rfl

theorem run_closeManagerDuring_none {place : Nat} (hm : w.managers[place]? = none) :
    (closeManagerDuring P during place).run w = (.ok (), w) := by
  unfold closeManagerDuring
  rw [run_get_bind, hm]
  rfl

theorem closeManagerDuring_amid (hd : ∀ call, Keeps room (during call)) (place : Nat)
    (ha : Accounts w hand) (hr : w.holdings.closable ≤ room + 1) :
    Amid (room + 1) w.trace (w.holdings.dissolve place) hand
      ((closeManagerDuring P during place).run w).2 := by
  cases hm : w.managers[place]? with
  | none =>
      rw [run_closeManagerDuring_none hm, Holdings.dissolve_eq_self (h := w.holdings) hm]
      exact ⟨.refl w, ha, hr⟩
  | some m =>
      rw [run_closeManagerDuring_some hm]
      have hw := Holdings.closable_dissolve (h := w.holdings) hm
      have hk := Holdings.dissolve_eq (h := w.holdings) hm
      have hb := (Holdings.frame_dissolve place (h := w.holdings)).busy?
      have hq : askedFor (m.filters.values.map (.withdrawn place)) = [] := by
        simp [askedFor, List.filterMap_map]
      have ha' : Accounts { w.setManager place
          { m with filters := m.filters.drain.2, frontend? := none } with
          trace := w.trace ++ m.filters.values.map (.withdrawn place)
          leaving := m.frontend?.toList ++ w.leaving }
          (m.filters.values.flatMap (FilterNodes.idle w.busy?) ++ hand) :=
        ha.dissolve hm rfl rfl hk.symm
      refine preserves_leaveFrontend (fun _ _ hw => hw.congr rfl rfl rfl)
        (fun p => keeps_dropFrontend p _ _ _) m.frontend? _ _ ?_
      by_cases hv : m.filters.values = []
      · rw [show m.filters.values.flatMap (FilterNodes.idle w.busy?) = [] by rw [hv]; rfl] at ha'
        rw [show releaseAll P during m.filters.values = pure [] by rw [hv]; rfl]
        exact amid_of_accounts rfl hq hk.symm ha' (by omega)
      · have := List.length_pos_iff.mpr hv
        refine (releaseAll_amid hd _ _ ?_).mono (Nat.le_succ room)
        rw [hb]
        refine amid_of_accounts rfl hq hk.symm ha' ?_
        simp only [Holdings.weight] at hw
        omega

theorem run_closeFrontendDuring_some {place : Nat} {f : Frontend}
    (hf : w.frontends[place]? = some f) (ho : f.isOpen = true) :
    ((closeFrontendDuring P during place).run w).2 = ((closeNode P during f.node).run
      (w.setFrontend place { f with isOpen := false })).2 := by
  unfold closeFrontendDuring
  rw [run_get_bind, hf]
  dsimp only
  rw [if_pos ho]
  rfl

theorem run_closeFrontendDuring_none {place : Nat}
    (hf : ∀ f, w.frontends[place]? = some f → f.isOpen = false) :
    (closeFrontendDuring P during place).run w = (.ok (), w) := by
  unfold closeFrontendDuring
  rw [run_get_bind]
  cases he : w.frontends[place]? with
  | none => rfl
  | some f =>
      dsimp only
      rw [if_neg (by simp [hf f he])]
      rfl

theorem closeFrontendDuring_amid (hd : ∀ call, Keeps room (during call)) (place : Nat)
    (ha : Accounts w hand) (hr : w.holdings.closable ≤ room + 1) :
    Amid (room + 1) w.trace (w.holdings.shut place) hand
      ((closeFrontendDuring P during place).run w).2 := by
  by_cases hf : ∀ f, w.frontends[place]? = some f → f.isOpen = false
  · rw [run_closeFrontendDuring_none hf, Holdings.shut_eq_self (h := w.holdings) hf]
    exact ⟨.refl w, ha, hr⟩
  · simp only [not_forall] at hf
    obtain ⟨f, hf, ho⟩ := hf
    rw [Bool.not_eq_false] at ho
    rw [run_closeFrontendDuring_some hf ho]
    have hlt := Holdings.closable_shut (h := w.holdings) hf ho
    have hk := Holdings.shut_eq (h := w.holdings) hf
    refine (closeNode_amid hd f.node _ ?_).mono (Nat.le_succ room)
    refine amid_of_accounts (List.append_nil _).symm rfl hk.symm ?_ (by omega)
    exact ha.shut hf ho rfl rfl hk.symm

/-! ### What happens during a call -/

/-- A closing takes from the holdings what it closes, if no more is left for the closings that its
own calls may meet than the depth that these have. -/
theorem closes_perform (hd : ∀ call, Keeps room (during call)) :
    Closes (room + 1) (perform P during) := by
  intro c hand w ha hr
  refine perform_cases
    (motive := fun c w' => Amid (room + 1) w.trace (w.holdings.close c) hand w') ?_ ?_ ?_ ?_ ?_ c
  · intro place hn
    rw [Holdings.close_unknown (h := w.holdings) hn]
    exact ⟨.refl w, ha, hr⟩
  · intro place f hf
    rw [Holdings.close_filter (h := w.holdings) hf]
    exact closeFilterDuring_amid hd f ha hr
  · exact fun place => closeManagerDuring_amid hd place ha hr
  · intro place hn
    rw [Holdings.close_absent (h := w.holdings) hn]
    exact ⟨.refl w, ha, hr⟩
  · intro place p hp
    rw [Holdings.close_frontend (h := w.holdings) hp]
    exact closeFrontendDuring_amid hd p ha hr

end

/-- Where nothing could still be closed, nothing has to be done about closings. -/
theorem closes_nothing : Closes (σ := σ) 0 fun _ => pure () := by
  intro c hand w ha hr
  rw [Holdings.close_eq_self ha.filters.valid (Nat.le_zero.mp hr) c]
  exact ⟨.refl w, ha, hr⟩

/-- A closing that others ask for takes from the holdings what it closes. -/
theorem Closes.keeps {room : Nat} {act : Closing → Act σ Unit} (h : Closes room act)
    (c : Closing) : Keeps room (do
      record (.asked c)
      act c) := by
  intro trace k hand w hw
  obtain ⟨hs, ha, hr⟩ := hw
  have ha' : Accounts { w with trace := w.trace ++ [.asked c] } hand :=
    ha.quiet rfl rfl rfl rfl rfl
  obtain ⟨hs', ha'', hr'⟩ := h c hand _ ha' hr
  exact ⟨hs.trans [.asked c] rfl hs', ha'', hr'⟩

theorem Closes.keeps_passGates {room : Nat} {act : Closing → Act σ Unit} (h : Closes room act)
    (gates : List (Gate σ)) : Keeps room (passGates act gates) :=
  fun _ _ _ => preserves_passGates (fun _ => Keeps.onDevice _ _ _ _) (fun c => h.keeps c _ _ _) gates

/-- What happens during a call keeps the accounts, and no closing is left out. -/
theorem keeps_interrupt (P : Platform σ) (room : Nat) (call : Call) :
    Keeps room (interrupt P room call) := by
  induction room generalizing call with
  | zero => exact closes_nothing.keeps_passGates _
  | succ room ih => exact (closes_perform ih).keeps_passGates _

theorem keeps_meanwhile (P : Platform σ) (room : Nat) (call : Call) :
    Keeps room (meanwhile P call) := by
  intro trace h hand w hw
  have hw' : Amid w.holdings.closable trace h hand w := { hw with room := Nat.le_refl _ }
  exact (keeps_interrupt P w.holdings.closable call trace h hand w hw').mono hw.room

end Multiplex.Session
