import Multiplex.Proofs.Session.Creation

/-!
# Turns of a session

In a `Turn` a user makes a call, or lets go of a frontend. Each turn tells in the trace what happens
in it, takes the steps that there are for managers and filters, and closes the managers that others
ask to be closed meanwhile. So whatever holds of registries and is kept by every step holds after
every run of turns.

Main statements:

* `turn_turned`: what one turn can do;
* `runTurns_steps`, `runTurns_sound`: what a run of turns can do, and what it keeps.
-/

namespace Multiplex.Session

open Multiplex.Device Multiplex.Demux

variable {σ α β : Type}

/-- What a user does. -/
inductive Turn
  | call (op : Operation)
  | forget (frontend : Nat)

/-- The state after a turn, whatever becomes of the call. -/
def Turn.run (P : Platform σ) : Turn → World σ → World σ
  | call op, w => ((op.run P).run.run w).2
  | forget frontend, w => ((forgetFrontend P frontend).run w).2

/-- The state after turns. -/
def runTurns (P : Platform σ) (turns : List Turn) (w : World σ) : World σ :=
  turns.foldl (fun w turn => turn.run P w) w

/-- What a turn can do from one state to another: it takes steps, and on the way it closes the
managers and filters that others asked for. -/
def Turned (w w' : World σ) : Prop :=
  ∃ es k, w'.trace = w.trace ++ es ∧ Holdings.Steps w.registries k ∧
    Holdings.Steps k w'.registries ∧
    (∀ (place : Nat) (m : Manager), w.managers[place]? = some m → .manager place ∈ askedFor es →
      k.ClosedAt place) ∧
    ∀ (place : Nat) (f : Filter), w.filters[place]? = some f → .filter place ∈ askedFor es →
      k.nodes? f = none

theorem Turned.steps {w w' : World σ} (ht : Turned w w') :
    Holdings.Steps w.registries w'.registries := by
  obtain ⟨es, k, -, hk, hk', -⟩ := ht
  exact hk.trans hk'

/-! ### What one call can do -/

/-- What the closings that others asked for lead to. -/
theorem turned_of_closings {w w' : World σ} {h : Holdings} {es fs : List Event}
    (hs : Holdings.Steps w.registries h) (ht : w'.trace = w.trace ++ es)
    (ha : askedFor es = askedFor fs)
    (hr : Holdings.Steps ((askedFor fs).foldl Holdings.close h) w'.registries) : Turned w w' := by
  refine ⟨es, _, ht, hs.trans (Holdings.steps_foldl_close (askedFor fs)), hr,
    fun place m hm hc => ?_, fun place f hf hc => ?_⟩
  · obtain ⟨m', hm', -⟩ := hs.continues place m hm
    exact Holdings.closedAt_foldl_close hm' (ha ▸ hc)
  · have hf' : h.filters[place]? = some f := by
      obtain ⟨more, hmore⟩ := Holdings.Steps.filters hs
      have hi : place < w.registries.filters.length := (List.getElem?_eq_some_iff.mp hf).1
      rw [← hmore, List.getElem?_append_left hi]
      exact hf
    exact Holdings.nodes?_foldl_close_self hf' (ha ▸ hc)

/-- What is told after some steps were taken. -/
theorem Told.turned {q : Event → Prop} {w w' : World σ} {h : Holdings}
    (hs : Holdings.Steps w.registries h) (ht : Told q w.trace h w') : Turned w w' := by
  obtain ⟨es, ht, hr, -⟩ := ht
  exact turned_of_closings hs ht rfl (hr ▸ .refl)

theorem Dropped.turned {w w' : World σ} {room : Nat}
    (hw : Dropped room w.trace w.registries w') : Turned w w' := by
  obtain ⟨new, ⟨es, ht, hr, -⟩, -, -⟩ := hw
  exact turned_of_closings .refl ht rfl (hr ▸ .refl)

theorem Enrolled.turned {w w' : World σ} {place : Nat} {kind : FilterKind} {f : Filter}
    (hw : Enrolled w.trace w.registries place kind f w') : Turned w w' := by
  obtain ⟨es, nodes, m, ht, -, -, -, -, -, hm, ho, hi, hr⟩ := hw
  have ht' : w'.trace = w.trace ++ (es ++ [.registered f nodes]) := by
    rw [ht, List.append_assoc]
  have ha : askedFor (es ++ [.registered f nodes]) = askedFor es := by
    rw [askedFor_append]
    exact List.append_nil _
  have hr' : Holdings.Steps ((askedFor es).foldl Holdings.close w.registries) w'.registries := by
    rw [hr]
    exact .single (.enroll nodes hm ho hi)
  exact turned_of_closings .refl ht' ha hr'

section

variable (P : Platform σ) {room : Nat} {q : Event → Prop}

/-- Nodes may come and go while a call goes on. -/
theorem going_custody {trace : List Event} {h : Holdings} :
    Custody P (askedFor [·] = []) fun _ _ => Going room (fun _ => True) trace h where
  robust _ _ := (going_robust P).imp fun _ ha => ⟨ha, trivial⟩
  refused _ _ _ := rfl
  comes _ _ _ _ hw _ := hw.step rfl rfl rfl rfl rfl trivial
  goes _ _ _ := Goes.record rfl trivial _ _
  swap _ _ _ _ _ := id

variable {w : World σ}

/-- A frontend that is opened is no matter of managers. -/
theorem openFrontend_turned (hv : w.Valid) (adapter index : UInt32) :
    Turned w ((openFrontend P adapter index).run.run w).2 := by
  have told : Yields (Going w.closable (fun _ => True) w.trace w.registries)
      (openFrontend P adapter index) (fun _ => Told (fun _ => True) w.trace w.registries)
      (fun w' => ∃ _ : List Node, Going w.closable (fun _ => True) w.trace w.registries w') :=
    (going_custody P).openFrontend (fun _ _ => rfl) adapter index
      fun _ _ _ hw' => hw'.told.congr rfl rfl
  have told := told w (.start hv (Nat.le_refl _))
  revert told
  cases ((openFrontend P adapter index).run.run w).1 with
  | ok => exact fun told => told.turned .refl
  | error f => exact fun ⟨_, hw⟩ => hw.told.turned .refl

theorem newManager_turned (frontend : Nat) (demux : UInt32) :
    Turned w ((newManager frontend demux).run.run w).2 := by
  have self : Turned w w := (Told.refl (q := fun _ => True) w).turned .refl
  unfold newManager
  rw [run_run_get_bind]
  cases w.frontends[frontend]? with
  | none => exact self
  | some f =>
      dsimp only
      split_ifs
      · have hs : Holdings.Steps ((askedFor []).foldl Holdings.close w.registries)
            { w.registries with
              managers := w.managers ++ [⟨f.node.adapter, demux, some frontend, .empty⟩] } :=
          .single (.addManager rfl)
        exact turned_of_closings .refl (List.append_nil _).symm rfl hs
      · exact self

theorem creation_turned (hv : w.Valid) {op : Operation} {place : Nat} {kind : FilterKind}
    (hc : op.creation? = some (place, kind)) : Turned w ((op.run P).run.run w).2 := by
  have h := creation_enrolls P hc w (.start hv)
  revert h
  cases ((op.run P).run.run w).1 with
  | ok f? =>
      rintro ⟨f, -, hf⟩
      exact hf.turned
  | error failure => exact Dropped.turned

theorem operation_turned (hv : w.Valid) (op : Operation) :
    Turned w ((op.run P).run.run w).2 := by
  have uses : ∀ {f : Filter}, op.used? = some f → Turned w ((op.run P).run.run w).2 :=
    fun hf => (use_going (q := fun _ => True) P hf hv fun _ _ _ _ => trivial).told.turned .refl
  have queries : op.queries = true → Turned w ((op.run P).run.run w).2 := fun hq =>
    ((going_robust P).query (fun _ _ => ⟨rfl, trivial⟩) hq w
      (.start (q := fun _ => True) hv (Nat.le_refl _))).told.turned .refl
  cases op with
  | start | stop | addPid | addPids | removePid | setBufferSize | pesPids | clock | read
  | readRawSection | readSection => exact uses rfl
  | readStatus | getProperty | setProperty | deliverySystem | tune => exact queries rfl
  | newSectionFilter | newStreamFilter => exact creation_turned P hv rfl
  | openFrontend adapter index =>
      unfold Operation.run
      rw [run_plain]
      exact openFrontend_turned P hv adapter index
  | newManager frontend demux =>
      unfold Operation.run
      rw [run_plain]
      exact newManager_turned frontend demux
  | closeFilter f =>
      unfold Operation.run
      rw [run_plain]
      exact (closeFilter_going P hv).told.turned (.single (.withdraw f))
  | closeManager place =>
      unfold Operation.run
      rw [run_plain]
      exact (closeManager_going P place hv).told.turned (.single (.dissolve place))
  | closeFrontend place =>
      unfold Operation.run
      rw [run_plain]
      exact (closeFrontendDuring_going (fun _ => goes_meanwhile P _ _ _) place hv
        (Nat.le_succ _)).told.turned .refl

/-- What one turn can do. -/
theorem turn_turned (hv : w.Valid) (turn : Turn) : Turned w (turn.run P w) := by
  cases turn with
  | call op => exact operation_turned P hv op
  | forget frontend =>
      have hw : Going w.closable (fun _ => True) w.trace w.registries
          { w with held := w.held.erase frontend } :=
        (Going.start hv (Nat.le_refl _)).congr rfl rfl rfl rfl
      exact (goes_dropFrontend (fun _ => trivial) frontend _ _ _ hw).told.turned .refl

/-- A manager is closed after the call that closes it. -/
theorem closeManager_closedAt (hv : w.Valid) {place : Nat} {m : Manager}
    (hm : w.managers[place]? = some m) :
    (Turn.run P (.call (.closeManager place)) w).registries.ClosedAt place := by
  obtain ⟨es, -, hr, -⟩ := (closeManager_going P place hv).told
  change ((Operation.plain (closeManager P place)).run.run w).2.registries.ClosedAt place
  rw [run_plain, hr]
  exact (Holdings.steps_foldl_close _).closedAt (Holdings.closedAt_dissolve hm)

/-! ### Runs -/

theorem runTurns_append (before after : List Turn) (w : World σ) :
    runTurns P (before ++ after) w = runTurns P after (runTurns P before w) :=
  List.foldl_append

theorem runTurns_steps (turns : List Turn) (hs : w.registries.Sound) :
    Holdings.Steps w.registries (runTurns P turns w).registries := by
  induction turns generalizing w with
  | nil => exact .refl
  | cons turn turns ih =>
      have st := (turn_turned P hs.valid turn).steps
      exact st.trans (ih (hs.steps st))

theorem fresh_sound (device : σ) : (World.fresh device).registries.Sound :=
  ⟨by simp [World.fresh, World.registries], by simp [World.fresh, World.registries],
    by simp [World.fresh, World.registries], by simp [World.fresh, World.registries]⟩

/-- After every run the registries are sound. -/
theorem runTurns_sound (turns : List Turn) (device : σ) :
    (runTurns P turns (World.fresh device)).registries.Sound :=
  (fresh_sound device).steps (runTurns_steps P turns (fresh_sound device))

end

end Multiplex.Session
