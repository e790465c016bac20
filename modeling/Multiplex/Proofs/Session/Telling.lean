import Multiplex.Proofs.Session.Closing

/-!
# What a trace tells of registries

Whatever has happened to a session before, a call tells in the trace what it does. The closings that
others ask for while it is under way are the only ones that change the managers and their filters,
each takes from them what it closes, and none is left out. Where nothing is asked for, the call
tells only of itself. Nothing is assumed here of who holds a frontend, so that frontends may also be
let go of.

Main statements:

* `goes_interrupt`, `goes_meanwhile`: what happens during a call tells only of closings;
* `closeFilterDuring_going`, `closeManagerDuring_going`, `closeFrontendDuring_going`: what is closed
  is gone, whatever its nodes answer.
-/

namespace Multiplex.Session

open Multiplex.Device Multiplex.Demux

variable {σ α β : Type}

/-- The managers and filters of a session, in which closings find what they close. -/
def World.registries (w : World σ) : Holdings := ⟨[], [], w.managers, w.filters, none⟩

theorem isLive_eq_false_iff {w : World σ} {f : Filter} :
    w.isLive f = false ↔ w.registries.nodes? f = none := by
  change (w.registries.nodes? f).isSome = false ↔ _
  rw [Option.isSome_eq_false_iff, Option.isNone_iff_eq_none]

/-- Whether an event is of something that is closed. -/
def Event.isOfClosing : Event → Bool
  | .closed _ | .dropped _ | .withdrawn .. | .asked _ => true
  | _ => false

/-- What happened since a moment is told by the trace: only closings that others asked for changed
the registries, and but for closings only events of a kind happened; no others at all, if nothing
was asked for. -/
def Told (q : Event → Prop) (trace : List Event) (h : Holdings) (w : World σ) : Prop :=
  ∃ es, w.trace = trace ++ es ∧ w.registries = (askedFor es).foldl Holdings.close h ∧
    (∀ e ∈ es, e.isOfClosing = true ∨ q e) ∧ (askedFor es = [] → ∀ e ∈ es, q e)

/-- The registries are as they should be. -/
def World.Valid (w : World σ) : Prop := ∀ m ∈ w.managers, m.filters.Valid

/-- A moment of a call since which only closings have changed the registries, with no more than
`room` things that could be closed. -/
structure Going (room : Nat) (q : Event → Prop) (trace : List Event) (h : Holdings)
    (w : World σ) : Prop where
  told : Told q trace h w
  valid : w.Valid
  room : w.closable ≤ room

/-- A step that tells only of events of a kind and of closings. -/
def Goes (room : Nat) (q : Event → Prop) (a : Act σ α) : Prop :=
  ∀ trace h, Preserves (Going room q trace h) a

/-- Closings that take from the registries what they close, and tell of nothing else. -/
def Carries (room : Nat) (act : Closing → Act σ Unit) : Prop :=
  ∀ c (w : World σ), w.Valid → w.closable ≤ room →
    Going room (·.isOfClosing = true) w.trace (w.registries.close c) ((act c).run w).2

/-! ### States that differ in other things -/

section

variable {w w' : World σ}

theorem World.registries_congr (hm : w'.managers = w.managers) (hf : w'.filters = w.filters) :
    w'.registries = w.registries := by
  unfold World.registries
  rw [hm, hf]

theorem World.Valid.congr (hv : w.Valid) (hm : w'.managers = w.managers) : w'.Valid := by
  unfold World.Valid
  rw [hm]
  exact hv

theorem World.closable_congr (hm : w'.managers = w.managers)
    (ho : w'.frontends = w.frontends) : w'.closable = w.closable := by
  unfold World.closable
  rw [hm, ho]

end

/-! ### One moment after the other -/

namespace Told

variable {q : Event → Prop} {trace : List Event} {h : Holdings} {w w' : World σ}

theorem refl (w : World σ) : Told q w.trace w.registries w :=
  ⟨[], by simp, rfl, by simp, by simp⟩

theorem trans (ht : Told q trace h w) (ht' : Told q w.trace w.registries w') :
    Told q trace h w' := by
  obtain ⟨es, ht, hh, hall, hnone⟩ := ht
  obtain ⟨fs, ht', hh', hall', hnone'⟩ := ht'
  refine ⟨es ++ fs, ?_, ?_, ?_, ?_⟩
  · rw [ht', ht, List.append_assoc]
  · rw [hh', hh, askedFor_append, List.foldl_append]
  · simp only [List.mem_append]
    rintro e (he | he)
    · exact hall e he
    · exact hall' e he
  · rw [askedFor_append, List.append_eq_nil_iff]
    simp only [List.mem_append]
    rintro ⟨ha, ha'⟩ e (he | he)
    · exact hnone ha e he
    · exact hnone' ha' e he

/-- An event of the kind, while the registries stay as they are. -/
theorem step (ht : Told q trace h w) {e : Event} (ht' : w'.trace = w.trace ++ [e])
    (hr : w'.registries = w.registries) (ha : askedFor [e] = []) (hq : q e) :
    Told q trace h w' := by
  refine ht.trans ⟨[e], ht', ?_, ?_, ?_⟩
  · rw [hr, ha]
    rfl
  · exact List.forall_mem_singleton.mpr (.inr hq)
  · exact fun _ => List.forall_mem_singleton.mpr hq

theorem congr (ht : Told q trace h w) (ht' : w'.trace = w.trace)
    (hr : w'.registries = w.registries) : Told q trace h w' := by
  obtain ⟨es, ht, hh, hall, hnone⟩ := ht
  exact ⟨es, ht'.trans ht, hr.trans hh, hall, hnone⟩

/-- A closing that others asked for, with all that it tells. -/
theorem asked (ht : Told q trace h w) {c : Closing}
    (hc : Told (·.isOfClosing = true) (w.trace ++ [.asked c]) (w.registries.close c) w') :
    Told q trace h w' := by
  obtain ⟨es, ht', hh, hall, -⟩ := hc
  refine ht.trans ⟨.asked c :: es, ?_, hh, ?_, fun ha => ?_⟩
  · rw [ht', List.append_assoc]
    rfl
  · rw [List.forall_mem_cons]
    exact ⟨.inl rfl, fun e he => .inl ((hall e he).elim id id)⟩
  · cases ha

/-- A property of registries that closings keep holds of what they leave. -/
theorem induct (ht : Told q trace h w) {motive : Holdings → Prop} (start : motive h)
    (step : ∀ k c, motive k → motive (k.close c)) : motive w.registries := by
  obtain ⟨es, -, hh, -, -⟩ := ht
  rw [hh]
  exact List.foldlRecOn _ _ start fun k hk c _ => step k c hk

end Told

namespace Going

variable {room room' : Nat} {q : Event → Prop} {trace : List Event} {h : Holdings}
  {w w' : World σ}

theorem mono (hw : Going room q trace h w) (hr : room ≤ room') : Going room' q trace h w :=
  { hw with room := hw.room.trans hr }

theorem start (hv : w.Valid) (hr : w.closable ≤ room) : Going room q w.trace w.registries w :=
  ⟨.refl w, hv, hr⟩

theorem trans (hw : Going room q trace h w) (hw' : Going room' q w.trace w.registries w') :
    Going room' q trace h w' :=
  { hw' with told := hw.told.trans hw'.told }

/-- A step that changes neither the trace nor what could be closed. -/
theorem congr (hw : Going room q trace h w) (ht : w'.trace = w.trace)
    (hm : w'.managers = w.managers) (hf : w'.filters = w.filters)
    (ho : w'.frontends = w.frontends) : Going room q trace h w' := by
  have hr : w'.registries = w.registries := World.registries_congr hm hf
  have hc : w'.closable = w.closable := World.closable_congr hm ho
  exact ⟨hw.told.congr ht hr, hw.valid.congr hm, hc.trans_le hw.room⟩

/-- The same with an event of the kind. -/
theorem step (hw : Going room q trace h w) {e : Event} (ht : w'.trace = w.trace ++ [e])
    (hm : w'.managers = w.managers) (hf : w'.filters = w.filters)
    (ho : w'.frontends = w.frontends) (ha : askedFor [e] = []) (hq : q e) :
    Going room q trace h w' := by
  have hr : w'.registries = w.registries := World.registries_congr hm hf
  have hc : w'.closable = w.closable := World.closable_congr hm ho
  exact ⟨hw.told.step ht hr ha hq, hw.valid.congr hm, hc.trans_le hw.room⟩

end Going

namespace Goes

variable {room : Nat} {q : Event → Prop}

theorem onDevice (call : σ → α × σ) : Goes room q (onDevice call) :=
  fun _ _ _ hw => hw.congr rfl rfl rfl rfl

theorem record {e : Event} (ha : askedFor [e] = []) (hq : q e) :
    Goes (σ := σ) room q (record e) :=
  fun _ _ _ hw => hw.step rfl rfl rfl rfl ha hq

end Goes

/-! ### Closing nodes -/

section

variable {P : Platform σ} {during : Call → Act σ (Except SystemError Unit)} {room : Nat}
  {q : Event → Prop}

theorem goes_closeNode (hd : ∀ call, Goes room q (during call)) {node : Node}
    (hq : q (.closed node)) : Goes room q (closeNode P during node) :=
  fun _ _ => closeNode_leads (Goes.record rfl hq _ _) (hd _ _ _) fun _ => Goes.onDevice _ _ _

theorem goes_release (hd : ∀ call, Goes room q (during call)) {nodes : FilterNodes}
    (hq : ∀ node ∈ nodes.list, q (.closed node)) : Goes room q (release P during nodes) := by
  intro trace h
  have closed : Preserves (Going room q trace h) (closeNodes P during nodes) :=
    closeNodes_leads (I := fun _ => Going room q trace h) nodes []
      (fun node hn _ => goes_closeNode hd (hq node hn) _ _) fun _ _ _ _ hw => hw
  exact release_leads nodes (fun _ hw _ => hw) fun w hw => closed w hw.1

theorem goes_releaseAll (hd : ∀ call, Goes room q (during call))
    (hq : ∀ node, q (.closed node)) (all : List FilterNodes) :
    Goes room q (releaseAll P during all) :=
  fun trace h => releaseAll_leads (I := fun _ => Going room q trace h)
    (fun _ _ => goes_release hd (fun node _ => hq node) _ _) all

/-! ### Closing filters, managers and frontends -/

variable {w : World σ}

theorem World.Valid.setManager (hv : w.Valid) {place : Nat} {m : Manager} (hm : m.filters.Valid) :
    (w.setManager place m).Valid := by
  intro k hk
  rcases List.mem_or_eq_of_mem_set hk with hk | rfl
  · exact hv k hk
  · exact hm

theorem closeFilterDuring_going (hd : ∀ call, Goes room q (during call)) (f : Filter)
    (hv : w.Valid) (hr : w.closable ≤ room + 1)
    (hq : ∀ n, w.nodes? f = some n →
      q (.withdrawn f.manager n) ∧ ∀ node ∈ n.list, q (.closed node)) :
    Going (room + 1) q w.trace (w.registries.withdraw f)
      ((closeFilterDuring P during f).run w).2 := by
  cases hn : w.nodes? f with
  | none =>
      have hk : w.registries.withdraw f = w.registries := Holdings.withdraw_eq_self hn
      rw [run_closeFilterDuring_none hn, hk]
      exact .start hv hr
  | some n =>
      obtain ⟨hw, hc⟩ := hq n hn
      obtain ⟨m, r, hm, hf⟩ := (Holdings.nodes?_eq_some_iff (h := w.holdings)).mp hn
      have hlt := Holdings.closable_withdraw (h := w.holdings) hn
      rw [Holdings.withdraw_eq hm hf] at hlt
      have hk : w.registries.withdraw f = _ := Holdings.withdraw_eq (h := w.registries) hm hf
      have told : Told (σ := σ) q w.trace _ { w.setManager f.manager { m with filters := r } with
          trace := w.trace ++ [.withdrawn f.manager n] } :=
        ⟨_, rfl, rfl, List.forall_mem_singleton.mpr (.inr hw),
          fun _ => List.forall_mem_singleton.mpr hw⟩
      have hv' : (w.setManager f.manager { m with filters := r }).Valid :=
        hv.setManager ((hv m (List.mem_of_getElem? hm)).remove hf)
      rw [run_closeFilterDuring_some hm hf, hk]
      exact (goes_release hd hc _ _ _ ⟨told, hv', Nat.lt_succ_iff.mp (hlt.trans_le hr)⟩).mono
        (Nat.le_succ room)

/-- Letting go of a frontend does not matter to registries. -/
theorem goes_dropFrontend (hq : ∀ node, q (.dropped node)) (place : Nat) :
    Goes room q (dropFrontend P place) := by
  intro trace h w hw
  unfold dropFrontend
  rw [run_get_bind]
  cases hf : w.frontends[place]? with
  | none => exact hw
  | some f =>
      dsimp only
      split_ifs with ho
      · have hlt := Holdings.closable_shut (h := w.holdings) hf ho.1
        rw [Holdings.shut_eq (h := w.holdings) hf] at hlt
        exact ⟨hw.told.step (e := .dropped f.node) rfl rfl rfl (hq _), hw.valid,
          hlt.le.trans hw.room⟩
      · exact hw

theorem closeManagerDuring_going
    (hd : ∀ call, Goes room (·.isOfClosing = true) (during call)) (place : Nat) (hv : w.Valid)
    (hr : w.closable ≤ room + 1) :
    Going (room + 1) (·.isOfClosing = true) w.trace (w.registries.dissolve place)
      ((closeManagerDuring P during place).run w).2 := by
  cases hm : w.managers[place]? with
  | none =>
      have hk : w.registries.dissolve place = w.registries := Holdings.dissolve_eq_self hm
      rw [run_closeManagerDuring_none hm, hk]
      exact .start hv hr
  | some m =>
      have hk : w.registries.dissolve place = _ := Holdings.dissolve_eq (h := w.registries) hm
      have hl := Holdings.closable_dissolve (h := w.holdings) hm
      rw [Holdings.dissolve_eq (h := w.holdings) hm] at hl
      rw [run_closeManagerDuring_some hm, hk]
      have hes : ∀ e ∈ m.filters.values.map (Event.withdrawn place), e.isOfClosing = true := by
        simp [Event.isOfClosing]
      have hq : askedFor (m.filters.values.map (.withdrawn place)) = [] := by
        simp [askedFor, List.filterMap_map]
      have hv' : (w.setManager place
          { m with filters := m.filters.drain.2, frontend? := none }).Valid :=
        hv.setManager (hv m (List.mem_of_getElem? hm)).drain
      have told : Told (σ := σ) (·.isOfClosing = true) w.trace _
          { w.setManager place { m with filters := m.filters.drain.2, frontend? := none } with
            trace := w.trace ++ m.filters.values.map (.withdrawn place)
            leaving := m.frontend?.toList ++ w.leaving } :=
        ⟨_, rfl, by rw [hq]; rfl, fun e he => .inl (hes e he), fun _ => hes⟩
      refine preserves_leaveFrontend (fun _ _ hw => hw.congr rfl rfl rfl rfl)
        (fun p => goes_dropFrontend (fun _ => rfl) p _ _) m.frontend? _ _ ?_
      -- A manager without filters makes no calls, so that there is no need of room for them.
      by_cases hn : m.filters.values = []
      · rw [show releaseAll P during m.filters.values = pure [] by rw [hn]; rfl]
        exact ⟨told, hv', (Nat.le_of_add_right_le hl.le).trans hr⟩
      · have := List.length_pos_iff.mpr hn
        have hlt : (w.holdings.setManager place
            { m with filters := m.filters.drain.2, frontend? := none }).closable ≤ room := by
          change w.holdings.closable ≤ room + 1 at hr
          simp only [Holdings.weight] at hl
          omega
        exact (goes_releaseAll hd (fun _ => rfl) _ _ _ _ ⟨told, hv', hlt⟩).mono
          (Nat.le_succ room)

theorem closeFrontendDuring_going
    (hd : ∀ call, Goes room (·.isOfClosing = true) (during call)) (place : Nat) (hv : w.Valid)
    (hr : w.closable ≤ room + 1) :
    Going (room + 1) (·.isOfClosing = true) w.trace w.registries
      ((closeFrontendDuring P during place).run w).2 := by
  by_cases hf : ∀ f, w.frontends[place]? = some f → f.isOpen = false
  · rw [run_closeFrontendDuring_none hf]
    exact .start hv hr
  · simp only [not_forall] at hf
    obtain ⟨f, hf, ho⟩ := hf
    rw [Bool.not_eq_false] at ho
    have hlt := Holdings.closable_shut (h := w.holdings) hf ho
    rw [Holdings.shut_eq (h := w.holdings) hf] at hlt
    rw [run_closeFrontendDuring_some hf ho]
    have told : Told (·.isOfClosing = true) w.trace w.registries
        (w.setFrontend place { f with isOpen := false }) := (Told.refl w).congr rfl rfl
    exact (goes_closeNode hd rfl _ _ _ ⟨told, hv, Nat.lt_succ_iff.mp (hlt.trans_le hr)⟩).mono
      (Nat.le_succ room)

/-! ### What happens during a call -/

/-- A closing takes from the registries what it closes, if no more is left for the closings that its
own calls may meet than the depth that these have. -/
theorem carries_perform (hd : ∀ call, Goes room (·.isOfClosing = true) (during call)) :
    Carries (room + 1) (perform P during) := by
  intro c w hv hr
  refine perform_cases (motive := fun c w' =>
    Going (room + 1) (·.isOfClosing = true) w.trace (w.registries.close c) w') ?_ ?_ ?_ ?_ ?_ c
  · intro place hn
    rw [Holdings.close_unknown (h := w.registries) hn]
    exact .start hv hr
  · intro place f hf
    rw [Holdings.close_filter (h := w.registries) hf]
    exact closeFilterDuring_going hd f hv hr fun _ _ => ⟨rfl, fun _ _ => rfl⟩
  · exact fun place => closeManagerDuring_going hd place hv hr
  -- There are no frontends among the registries.
  · exact fun _ _ => .start hv hr
  · exact fun _ p _ => closeFrontendDuring_going hd p hv hr

end

/-- Where nothing could still be closed, nothing has to be done about closings. -/
theorem carries_nothing : Carries (σ := σ) 0 fun _ => pure () := by
  intro c w hv hr
  have hc : w.registries.closable = 0 := by
    have hc : w.frontends.countP (·.isOpen) + _ = 0 := Nat.le_zero.mp hr
    exact (Nat.zero_add _).trans (Nat.add_eq_zero_iff.mp hc).2
  rw [Holdings.close_eq_self (h := w.registries) hv hc c]
  exact .start hv hr

theorem Carries.goes {room : Nat} {act : Closing → Act σ Unit} (h : Carries room act)
    (q : Event → Prop) (c : Closing) : Goes room q (do
      record (.asked c)
      act c) := by
  intro trace k w hw
  obtain ⟨hc, hv, hr⟩ := h c { w with trace := w.trace ++ [.asked c] } hw.valid hw.room
  exact ⟨hw.told.asked hc, hv, hr⟩

theorem Carries.goes_passGates {room : Nat} {act : Closing → Act σ Unit} (h : Carries room act)
    (q : Event → Prop) (gates : List (Gate σ)) : Goes room q (passGates act gates) :=
  fun _ _ => preserves_passGates (fun _ => Goes.onDevice _ _ _) (fun c => h.goes q c _ _) gates

/-- What happens during a call tells of nothing if nothing is asked for, and else of closings. -/
theorem goes_interrupt (P : Platform σ) (room : Nat) (q : Event → Prop) (call : Call) :
    Goes room q (interrupt P room call) := by
  induction room generalizing call q with
  | zero => exact carries_nothing.goes_passGates q _
  | succ room ih => exact (carries_perform (ih _)).goes_passGates q _

theorem goes_meanwhile (P : Platform σ) (room : Nat) (q : Event → Prop) (call : Call) :
    Goes room q (meanwhile P call) := by
  intro trace h w hw
  have hw' : Going w.closable q trace h w := { hw with room := Nat.le_refl _ }
  exact (goes_interrupt P w.closable q call trace h w hw').mono hw.room

/-- Calls tell of themselves, and else of closings. -/
theorem going_robust (P : Platform σ) {room : Nat} {q : Event → Prop} {trace : List Event}
    {h : Holdings} : Robust P (fun e => askedFor [e] = [] ∧ q e) (Going room q trace h) where
  device _ := Goes.onDevice _ _ _
  tell _ he := Goes.record he.1 he.2 _ _
  note _ _ _ hw := hw.congr rfl rfl rfl rfl
  meanwhile call := goes_meanwhile P room q call _ _

/-! ### Calls, and what is closed meanwhile -/

/-- Closings that others asked for during a call, and all that they tell. -/
def Meantime (es : List Event) : Prop :=
  (∀ e ∈ es, e.isOfClosing = true) ∧ (askedFor es = [] → es = [])

/-- From one state to another only what others asked for was closed, as some events tell. -/
structure Passed (w : World σ) (es : List Event) (w' : World σ) : Prop where
  others : Meantime es
  trace : w'.trace = w.trace ++ es
  registries : w'.registries = (askedFor es).foldl Holdings.close w.registries
  valid : w'.Valid

/-- Calls are told of one after the other, and upon each follows what others asked for meanwhile. -/
inductive InTurn (tell : α → Event) : List α → List Event → Prop
  | nil : InTurn tell [] []
  | cons {x : α} {xs : List α} {others es : List Event} (during : Meantime others)
      (rest : InTurn tell xs es) : InTurn tell (x :: xs) (tell x :: (others ++ es))

namespace InTurn

variable {tell : α → Event} {xs ys : List α} {es fs : List Event}

theorem append (h : InTurn tell xs es) (h' : InTurn tell ys fs) :
    InTurn tell (xs ++ ys) (es ++ fs) := by
  induction h with
  | nil => exact h'
  | cons during rest ih =>
      simp only [List.cons_append, List.append_assoc]
      exact .cons during ih

end InTurn

/-- A call that is told of before it is made. -/
def tellAndCall (P : Platform σ) (e : Event) (call : Call) (ask : σ → Except SystemError α × σ) :
    Act σ (Except SystemError α) := do
  record e
  match ← meanwhile P call with
  | .ok () => onDevice ask
  | .error cause => return .error cause

section

variable (P : Platform σ) {w : World σ} (hv : w.Valid)

include hv

theorem meanwhile_passed (call : Call) :
    Leads (· = w) (meanwhile P call) fun _ w' => ∃ es, Passed w es w' := by
  rintro v rfl
  obtain ⟨⟨es, ht, hr, hall, hnone⟩, hv', -⟩ := goes_meanwhile P v.closable (fun _ => False) call
    _ _ v (.start hv (Nat.le_refl _))
  refine ⟨es, ⟨fun e he => (hall e he).resolve_right id, fun ha => ?_⟩, ht, hr, hv'⟩
  exact List.eq_nil_iff_forall_not_mem.mpr (hnone ha)

/-- What is closed during a call follows in the trace upon what the call told before it. -/
theorem tellAndCall_passed (e : Event) (call : Call) (ask : σ → Except SystemError α × σ) :
    Leads (· = w) (tellAndCall P e call ask) fun _ w' =>
      ∃ es, Passed { w with trace := w.trace ++ [e] } es w' := by
  unfold tellAndCall
  refine Leads.via (fun _ => (· = { w with trace := w.trace ++ [e] })) ?_ fun _ =>
    (meanwhile_passed P (w := { w with trace := w.trace ++ [e] }) hv call).bind fun r => ?_
  · rintro _ rfl
    rfl
  · rintro w' ⟨es, ho, ht, hr, hv'⟩
    cases r with
    | ok => exact ⟨es, ho, ht, hr, hv'⟩
    | error cause => exact ⟨es, ho, ht, hr, hv'⟩

end

end Multiplex.Session
