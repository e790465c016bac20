import Multiplex.Proofs.Session.Ledger
import Multiplex.Session.Filter

/-!
# Walks through the calls of a session

Whatever a session does is made of few kinds of steps: the device is asked, an event is told, a node
is opened or closed, and others close things during a call. `Leads` and `Yields` say where a step and
an attempt lead. Each function is walked through here once, for any property that those few steps
keep: `Robust` is such a property, and `Custody` one that also says which nodes are in hand. What is
shown of the steps then holds of all that is made of them.

Main statements:

* `preserves_passGates`: the gates that a call passes keep what each closing keeps;
* `Robust.command`, `Robust.readRounds`: calls on a node keep what is robust;
* `UseKeeps.read`: the use of a filter keeps what it keeps around any calls on its nodes;
* `Custody.openNode`, `Custody.abandonNodes`: nodes come into hand, and are given up;
* `Custody.sectionNodes`, `Custody.streamNodes`: what is set up for a filter is in hand, and else
  given up.
-/

namespace Multiplex.Session

open Multiplex.Device Multiplex.Demux Multiplex.Tuner

variable {σ α β : Type}

/-! ### Steps from states to states -/

/-- What follows a look at the state begins in that state. -/
theorem run_get_bind (f : World σ → Act σ α) (w : World σ) :
    (MonadState.get >>= f : Act σ α).run w = (f w).run w := rfl

theorem run_act_bind {a : Act σ α} {w w' : World σ} {x : α} (ha : a.run w = (x, w'))
    (f : α → Act σ β) : (a >>= f).run w = (f x).run w' := by
  have h : (a >>= f).run w = (f (a.run w).1).run (a.run w).2 := rfl
  rw [h, ha]

/-- From states with `pre` a step leads to results and states with `post`. -/
def Leads (pre : World σ → Prop) (a : Act σ α) (post : α → World σ → Prop) : Prop :=
  ∀ w, pre w → post (a.run w).1 (a.run w).2

namespace Leads

variable {pre pre' : World σ → Prop} {a : Act σ α} {post post' : α → World σ → Prop}

theorem bind {f : α → Act σ β} {fin : β → World σ → Prop} (ha : Leads pre a post)
    (hf : ∀ x, Leads (post x) (f x) fin) : Leads pre (a >>= f) fin :=
  fun w hw => hf _ _ (ha w hw)

/-- A step and what follows, with what holds in between. -/
theorem via (mid : α → World σ → Prop) {f : α → Act σ β} {fin : β → World σ → Prop}
    (ha : Leads pre a mid) (hf : ∀ x, Leads (mid x) (f x) fin) : Leads pre (a >>= f) fin :=
  ha.bind hf

theorem pure {x : α} (h : ∀ w, pre w → post x w) : Leads pre (Pure.pure x : Act σ α) post := h

/-- A step that begins by looking at the state. -/
theorem get {f : World σ → Act σ β} {fin : β → World σ → Prop}
    (hf : ∀ w, pre w → Leads (· = w) (f w) fin) : Leads pre (MonadState.get >>= f) fin :=
  fun w hw => hf w hw w rfl

theorem imp (ha : Leads pre a post) (h : ∀ w, pre' w → pre w)
    (h' : ∀ x w, post x w → post' x w) : Leads pre' a post' :=
  fun w hw => h' _ _ (ha w (h w hw))

end Leads

/-! ### Attempts -/

/-- From states with `pre` an attempt leads to results and states with `good`, or fails and leads to
states with `bad`. -/
def Yields (pre : World σ → Prop) (a : Attempt σ α) (good : α → World σ → Prop)
    (bad : World σ → Prop) : Prop :=
  Leads pre a.run fun r w => match r with
    | .ok x => good x w
    | .error _ => bad w

theorem run_run_get_bind (f : World σ → Attempt σ α) (w : World σ) :
    (MonadState.get >>= f : Attempt σ α).run.run w = (f w).run.run w := rfl

namespace Yields

variable {pre pre' bad bad' : World σ → Prop} {a : Attempt σ α} {good good' : α → World σ → Prop}

theorem bind {f : α → Attempt σ β} {fin : β → World σ → Prop} (ha : Yields pre a good bad)
    (hf : ∀ x, Yields (good x) (f x) fin bad) : Yields pre (a >>= f) fin bad := by
  unfold Yields
  rw [ExceptT.run_bind]
  refine Leads.bind ha fun r => ?_
  cases r with
  | ok x => exact hf x
  | error f => exact Leads.pure fun _ => id

/-- An attempt and what follows, with what holds in between. -/
theorem via (mid : α → World σ → Prop) {f : α → Attempt σ β} {fin : β → World σ → Prop}
    (ha : Yields pre a mid bad) (hf : ∀ x, Yields (mid x) (f x) fin bad) :
    Yields pre (a >>= f) fin bad :=
  ha.bind hf

theorem pure {x : α} (h : ∀ w, pre w → good x w) :
    Yields pre (Pure.pure x : Attempt σ α) good bad := h

theorem throw {f : Failure} (h : ∀ w, pre w → bad w) :
    Yields pre (MonadExcept.throw f : Attempt σ α) good bad := h

/-- A fact that does not depend on the state. -/
theorem of_fact {p : Prop} (h : p → Yields pre a good bad) :
    Yields (fun w => p ∧ pre w) a good bad :=
  fun w hw => h hw.1 w hw.2

/-- An attempt that begins by looking at the state. -/
theorem get {f : World σ → Attempt σ β} {fin : β → World σ → Prop}
    (hf : ∀ w, pre w → Yields (· = w) (f w) fin bad) :
    Yields pre (MonadState.get >>= f) fin bad :=
  fun w hw => hf w hw w rfl

theorem imp (ha : Yields pre a good bad) (hp : ∀ w, pre' w → pre w)
    (hg : ∀ x w, good x w → good' x w) (hb : ∀ w, bad w → bad' w) : Yields pre' a good' bad' := by
  refine Leads.imp ha hp fun r w h => ?_
  cases r with
  | ok x => exact hg x w h
  | error f => exact hb w h

theorem weaken (ha : Yields pre a good bad) (hb : ∀ w, bad w → bad' w) : Yields pre a good bad' :=
  ha.imp (fun _ => id) (fun _ _ => id) hb

/-- An attempt that first looks at parameters. -/
theorem ofParameters {e : Except Failure α} {f : α → Attempt σ β} {fin : β → World σ → Prop}
    (hb : ∀ w, pre w → bad w) (hf : ∀ x, Yields pre (f x) fin bad) :
    Yields pre (liftM e >>= f) fin bad := by
  cases e with
  | error failure => exact fun w hw => hb w hw
  | ok x => exact hf x

theorem outcome (ha : Yields pre a good bad) :
    Yields pre (outcome a) (fun r w => match r with
      | .ok x => good x w
      | .error _ => bad w) bad' :=
  fun w hw => ha w hw

end Yields

/-- What an attempt leads to whether or not it fails. -/
theorem Leads.yields {pre post : World σ → Prop} {a : Attempt σ α}
    (h : Leads pre a.run fun _ => post) : Yields pre a (fun _ => post) post := by
  refine h.imp (fun _ => id) fun r w hw => ?_
  cases r with
  | ok => exact hw
  | error f => exact hw

/-! ### What attempts run to -/

theorem run_bind (a : Attempt σ α) (f : α → Attempt σ β) (w : World σ) :
    (a >>= f).run.run w = match a.run.run w with
      | (.ok x, w') => (f x).run.run w'
      | (.error e, w') => (.error e, w') := by
  rw [ExceptT.run_bind, StateT.run_bind]
  rcases a.run.run w with ⟨_ | _, w'⟩ <;> rfl

theorem run_bind_ok {a : Attempt σ α} {w w' : World σ} {x : α}
    (ha : a.run.run w = (.ok x, w')) (f : α → Attempt σ β) :
    (a >>= f).run.run w = (f x).run.run w' := by
  rw [run_bind, ha]

theorem run_bind_error {a : Attempt σ α} {w w' : World σ} {failure : Failure}
    (ha : a.run.run w = (.error failure, w')) (f : α → Attempt σ β) :
    (a >>= f).run.run w = (.error failure, w') := by
  rw [run_bind, ha]

theorem run_lift_bind {a : Act σ α} {w w' : World σ} {x : α} (ha : a.run w = (x, w'))
    (f : α → Attempt σ β) : (liftM a >>= f : Attempt σ β).run.run w = (f x).run.run w' := by
  have h : (liftM a : Attempt σ α).run.run w = (.ok (a.run w).1, (a.run w).2) := rfl
  rw [ha] at h
  exact run_bind_ok h f

theorem run_map (a : Attempt σ α) (g : α → β) {w w' : World σ} {r : Except Failure α}
    (ha : a.run.run w = (r, w')) :
    (do return g (← a) : Attempt σ β).run.run w = (r.map g, w') := by
  rw [run_bind, ha]
  cases r <;> rfl

/-- A step keeps a property of states. -/
def Preserves (I : World σ → Prop) (a : Act σ α) : Prop := Leads I a fun _ => I

namespace Preserves

variable {I : World σ → Prop}

theorem pure (x : α) : Preserves I (Pure.pure x : Act σ α) := fun _ => id

theorem bind {a : Act σ α} {f : α → Act σ β} (ha : Preserves I a) (hf : ∀ x, Preserves I (f x)) :
    Preserves I (a >>= f) :=
  Leads.bind ha hf

theorem get {f : World σ → Act σ α} (hf : ∀ w, Preserves I (f w)) :
    Preserves I (MonadState.get >>= f) :=
  fun w hw => hf w w hw

theorem forM {γ : Type} {g : γ → Act σ Unit} (hg : ∀ c, Preserves I (g c)) (cs : List γ) :
    Preserves I (cs.forM g) := by
  induction cs with
  | nil => exact pure _
  | cons c rest ih => exact (hg c).bind fun _ => ih

theorem andThen {a : Attempt σ α} {f : α → Attempt σ β} (ha : Preserves I a.run)
    (hf : ∀ x, Preserves I (f x).run) : Preserves I (a >>= f).run := by
  rw [ExceptT.run_bind]
  refine ha.bind fun r => ?_
  cases r with
  | ok x => exact hf x
  | error f => exact pure _

theorem look {f : World σ → Attempt σ α} (hf : ∀ w, Preserves I (f w).run) :
    Preserves I (MonadState.get >>= f : Attempt σ α).run :=
  fun w hw => hf w w hw

theorem lift {a : Act σ α} (ha : Preserves I a) : Preserves I (liftM a : Attempt σ α).run :=
  fun w hw => ha w hw

theorem ofParameters {e : Except Failure α} {f : α → Attempt σ β}
    (hf : ∀ x, Preserves I (f x).run) : Preserves I (liftM e >>= f).run := by
  cases e with
  | error failure => exact pure _
  | ok x => exact hf x

end Preserves

section

variable {I J : World σ → Prop}

/-- To look whether something is open keeps every property. -/
theorem preserves_checkLive (f : Filter) : Preserves I (checkLive f).run := by
  unfold checkLive
  refine Preserves.look fun w => ?_
  split_ifs
  · exact Preserves.pure _
  · exact Preserves.pure _

theorem preserves_frontendNode (place : Nat) : Preserves I (frontendNode place).run := by
  unfold frontendNode
  refine Preserves.look fun w => ?_
  cases w.frontends[place]? with
  | none => exact Preserves.pure _
  | some f =>
      dsimp only
      split_ifs
      · exact Preserves.pure _
      · exact Preserves.pure _

/-- A manager that is asked for is there, and open. -/
theorem openManager_yields (place : Nat) :
    Yields I (openManager place)
      (fun m w => I w ∧ w.managers[place]? = some m ∧ m.frontend?.isSome = true) I := by
  unfold openManager
  refine Yields.get fun w hw => ?_
  rintro w' rfl
  cases hm : w'.managers[place]? with
  | none => exact hw
  | some m =>
      dsimp only
      split_ifs with ho
      · exact ⟨hw, hm, ho⟩
      · exact hw

/-! ### Gates -/

/-- Gates keep what the device keeps, and each closing that others ask for. -/
theorem preserves_passGates {act : Closing → Act σ Unit}
    (device : ∀ {γ : Type} (call : σ → γ × σ), Preserves I (onDevice call))
    (asked : ∀ c, Preserves I (do
      record (.asked c)
      act c)) (gates : List (Gate σ)) : Preserves I (passGates act gates) := by
  induction gates with
  | nil => exact Preserves.pure _
  | cons gate rest ih =>
      refine (device _).bind fun closings => (Preserves.forM asked closings).bind fun _ =>
        (device _).bind fun r => ?_
      cases r with
      | ok => exact ih
      | error cause => exact Preserves.pure _

/-! ### Closing -/

variable {P : Platform σ} {during : Call → Act σ (Except SystemError Unit)}

/-- What a manager does once its filters are released. -/
def leaveFrontend (P : Platform σ) (frontend? : Option Nat) (failures : List Failure) :
    Act σ (Except Failure Unit) := do
  if let some frontend := frontend? then
    modify fun w => { w with leaving := w.leaving.erase frontend }
    dropFrontend P frontend
  return Failure.collect failures

/-- To close a node is told first, and then others may close things. -/
theorem closeNode_leads {node : Node} (told : Leads I (record (.closed node)) fun _ => J)
    (meantime : Preserves J (during (.close node)))
    (device : ∀ {γ : Type} (call : σ → γ × σ), Preserves J (onDevice call)) :
    Leads I (closeNode P during node) fun _ => J := by
  unfold closeNode
  refine told.bind fun _ => Preserves.bind meantime fun r => ?_
  cases r with
  | ok => exact device _
  | error cause => exact Preserves.pure _

theorem closeNodeFailures_leads {node : Node}
    (close : Leads I (closeNode P during node) fun _ => J) :
    Leads I (closeNodeFailures P during node) fun _ => J := by
  unfold closeNodeFailures
  refine close.bind fun r => ?_
  cases r with
  | ok => exact Preserves.pure _
  | error cause => exact Preserves.pure _

/-- The nodes of a filter go out of hand, the dvr first. -/
theorem closeNodes_leads {I : List Node → World σ → Prop} (nodes : FilterNodes) (hand : List Node)
    (close : ∀ node ∈ nodes.list, ∀ hand,
      Leads (I (node :: hand)) (closeNode P during node) fun _ => I hand)
    (swap : ∀ m n hand w, I (m :: n :: hand) w → I (n :: m :: hand) w) :
    Leads (I (nodes.list ++ hand)) (closeNodes P during nodes) fun _ => I hand := by
  obtain ⟨demux, dvr?⟩ := nodes
  have last := closeNodeFailures_leads (close demux List.mem_cons_self hand)
  unfold closeNodes
  cases dvr? with
  | none => exact Leads.bind (Preserves.pure _) fun _ => last.bind fun _ => Preserves.pure _
  | some dvr =>
      have first := closeNodeFailures_leads
        (close dvr (List.mem_cons_of_mem _ List.mem_cons_self) (demux :: hand))
      exact (first.imp (fun w hw => swap _ _ _ w hw) fun _ _ => id).bind fun _ =>
        last.bind fun _ => Preserves.pure _

/-- The nodes of a filter that is in use are left to its user. -/
theorem release_leads (nodes : FilterNodes)
    (used : ∀ w, I w → w.busy? = some nodes.demux.number → J w)
    (idle : Leads (fun w => I w ∧ w.busy? ≠ some nodes.demux.number) (closeNodes P during nodes)
      fun _ => J) : Leads I (release P during nodes) fun _ => J := by
  intro w hw
  change J ((if w.busy? = some nodes.demux.number then pure (.ok ()) else closeNodes P during nodes :
    Act σ (Except Failure Unit)).run w).2
  split_ifs with hb
  · exact used w hw hb
  · exact idle w ⟨hw, hb⟩

theorem releaseAll_leads {I : List FilterNodes → World σ → Prop}
    (release : ∀ nodes rest, Leads (I (nodes :: rest)) (release P during nodes) fun _ => I rest)
    (all : List FilterNodes) : Leads (I all) (releaseAll P during all) fun _ => I [] := by
  induction all with
  | nil => exact Preserves.pure _
  | cons nodes rest ih =>
      unfold releaseAll
      refine (release nodes rest).bind fun r => ?_
      cases r with
      | ok => exact Leads.bind (Preserves.pure _) fun _ => ih.bind fun _ => Preserves.pure _
      | error f => exact Leads.bind (Preserves.pure _) fun _ => ih.bind fun _ => Preserves.pure _

/-- What others ask to be closed is looked for, and closed if it is found. -/
theorem perform_cases {w : World σ} {motive : Closing → World σ → Prop}
    (unknown : ∀ place, w.filters[place]? = none → motive (.filter place) w)
    (filter : ∀ place f, w.filters[place]? = some f →
      motive (.filter place) ((closeFilterDuring P during f).run w).2)
    (manager : ∀ place, motive (.manager place) ((closeManagerDuring P during place).run w).2)
    (absent : ∀ place, w.held[place]? = none → motive (.frontend place) w)
    (frontend : ∀ place p, w.held[place]? = some p →
      motive (.frontend place) ((closeFrontendDuring P during p).run w).2) (c : Closing) :
    motive c ((perform P during c).run w).2 := by
  unfold perform
  cases c with
  | filter place =>
      dsimp only
      rw [run_get_bind]
      cases hf : w.filters[place]? with
      | none => exact unknown place hf
      | some f => exact filter place f hf
  | manager place => exact manager place
  | frontend place =>
      dsimp only
      rw [run_get_bind]
      cases hf : w.held[place]? with
      | none => exact absent place hf
      | some p => exact frontend place p hf

theorem preserves_leaveFrontend (leave : ∀ w leaving, I w → I { w with leaving })
    (drop : ∀ place, Preserves I (dropFrontend P place)) (frontend? : Option Nat)
    (failures : List Failure) : Preserves I (leaveFrontend P frontend? failures) := by
  unfold leaveFrontend
  cases frontend? with
  | none => exact Preserves.pure _
  | some frontend =>
      exact Preserves.bind (a := modify _) (fun w hw => leave w _ hw) fun _ =>
        (drop frontend).bind fun _ => Preserves.pure _

end

/-! ### Calls on a node -/

/-- A property that calls do not break: neither what the device does, nor what is told of some kind
or noted, nor what others close meanwhile. -/
structure Robust (P : Platform σ) (q : Event → Prop) (I : World σ → Prop) : Prop where
  device : ∀ {γ : Type} (call : σ → γ × σ), Preserves I (onDevice call)
  tell : ∀ e, q e → Preserves I (record e)
  note : ∀ level text, Preserves I (note level text)
  meanwhile : ∀ call, Preserves I (meanwhile P call)

namespace Robust

variable {P : Platform σ} {q : Event → Prop} {I : World σ → Prop} (hI : Robust P q I)

include hI

theorem issue (node : Node) (c : Command) (hq : q (.issued node c)) :
    Preserves I (issue P node c) := by
  unfold Session.issue
  refine (hI.tell _ hq).bind fun _ => (hI.meanwhile _).bind fun r => ?_
  cases r with
  | ok => exact hI.device _
  | error cause => exact Preserves.pure _

theorem command (name : String) {node : Node} {c : Command} (hq : q (.issued node c)) :
    Preserves I (command P name node c).run :=
  (hI.issue node c hq).bind fun _ => Preserves.pure _

theorem getProperty (hq : ∀ node c, q (.issued node c)) (place : Nat) (property : UInt32) :
    Preserves I (getProperty P place property).run :=
  (preserves_frontendNode place).andThen fun node =>
    (hI.command _ (hq node _)).andThen fun _ => Preserves.pure _

theorem askInfo (node : Node) (hq : ∀ c, q (.issued node c)) :
    Preserves I (askInfo P node).run := by
  unfold Session.askInfo
  exact (hI.command _ (hq _)).andThen fun _ => (hI.command _ (hq _)).andThen fun _ =>
    (hI.command _ (hq _)).andThen fun _ => (hI.command _ (hq _)).andThen fun _ =>
      Preserves.pure _

theorem wait {node : Node} (hq : ∀ answer, q (.waited node answer)) (left? : Option Nat) :
    Preserves I (wait P node left?) := by
  have told : ∀ answer, Preserves I (do
      record (.waited node answer)
      return answer : Act σ _) :=
    fun answer => (hI.tell _ (hq answer)).bind fun _ => Preserves.pure _
  unfold Session.wait
  refine (hI.meanwhile _).bind fun r => ?_
  cases r with
  | ok => exact (hI.device _).bind told
  | error cause => exact (Preserves.pure _).bind told

theorem fetch {node : Node} (hq : ∀ answer, q (.fetched node answer)) :
    Preserves I (fetch P node) := by
  have told : ∀ answer, Preserves I (do
      record (.fetched node answer)
      return answer : Act σ _) :=
    fun answer => (hI.tell _ (hq answer)).bind fun _ => Preserves.pure _
  unfold Session.fetch
  refine (hI.meanwhile _).bind fun r => ?_
  cases r with
  | ok => exact (hI.device _).bind told
  | error cause => exact (Preserves.pure _).bind told

theorem readRounds {node : Node} (hw : ∀ answer, q (.waited node answer))
    (hf : ∀ answer, q (.fetched node answer)) (f : Filter) (rounds : Nat) (left? : Option Nat) :
    Preserves I (readRounds P f node rounds left?).run := by
  induction rounds generalizing left? with
  | zero => exact Preserves.pure _
  | succ rounds ih =>
      unfold Session.readRounds
      refine (preserves_checkLive f).andThen fun _ => ?_
      dsimp only
      split_ifs
      · exact Preserves.pure _
      · refine (hI.wait hw left?).lift.andThen fun r => ?_
        cases r with
        | error cause => exact Preserves.pure _
        | ok waited =>
            cases waited with
            | idle elapsed => exact ih _
            | ready =>
                refine (preserves_checkLive f).andThen fun _ =>
                  (hI.fetch hf).lift.andThen fun r => ?_
                cases r with
                | ok bytes => exact Preserves.pure _
                | error cause =>
                    dsimp only
                    split_ifs
                    · exact ih _
                    · exact Preserves.pure _

end Robust

/-- Fewer events are told of. -/
theorem Robust.imp {P : Platform σ} {q q' : Event → Prop} {I : World σ → Prop} (hI : Robust P q I)
    (hq : ∀ e, q' e → q e) : Robust P q' I :=
  { hI with tell := fun e he => hI.tell e (hq e he) }

/-! ### Using filters -/

/-- An event of a call on the nodes of a filter. Data comes from the dvr if there is one, and there
the size of its buffer is set; all else is a matter of the demux. -/
def Event.Uses (nodes : FilterNodes) : Event → Prop
  | .issued node (.setBufferSize _) => node = nodes.source
  | .issued node _ => node = nodes.demux
  | .waited node _ | .fetched node _ => node = nodes.source
  | _ => False

/-- A property that the use of a filter keeps, whatever calls are made on its nodes. -/
def UseKeeps (P : Platform σ) (f : Filter) (J : World σ → Prop) : Prop :=
  ∀ ⦃γ : Type⦄ (step : FilterNodes → Attempt σ γ),
    (∀ nodes I, Robust P (Event.Uses nodes) I → Preserves I (step nodes).run) →
      Preserves J (withNodes P f step).run

namespace UseKeeps

variable {P : Platform σ} {f : Filter} {J : World σ → Prop} (hJ : UseKeeps P f J)

include hJ

theorem command (name : String) {node : FilterNodes → Node} {c : Command}
    (hq : ∀ nodes, (Event.issued (node nodes) c).Uses nodes) :
    Preserves J (withNodes P f fun nodes => command P name (node nodes) c).run :=
  hJ _ fun nodes _ hI => hI.command name (hq nodes)

theorem addPid (pid : UInt16) : Preserves J (addPid P f pid).run :=
  .ofParameters fun _ => hJ.command _ fun _ => rfl

theorem addPids (pids : List UInt16) : Preserves J (addPids P f pids).run := by
  induction pids with
  | nil => exact Preserves.pure _
  | cons pid rest ih => exact (hJ.addPid pid).andThen fun _ => ih

theorem removePid (pid : UInt16) : Preserves J (removePid P f pid).run :=
  .ofParameters fun _ => hJ.command _ fun _ => rfl

theorem read (size : Nat) (timeout? : Option Calendar.Duration) :
    Preserves J (read P f size timeout?).run :=
  hJ _ fun _ _ hI => Preserves.look fun _ =>
    (hI.readRounds (fun _ => rfl) (fun _ => rfl) f _ _).andThen fun _ => Preserves.pure _

theorem readSection (timeout? : Option Calendar.Duration) :
    Preserves J (readSection P f timeout?).run := by
  unfold Session.readSection
  refine (hJ.read _ timeout?).andThen fun data? => ?_
  cases data? with
  | none => exact Preserves.pure _
  | some raw =>
      dsimp only
      cases Section.decode raw with
      | ok s => exact Preserves.pure _
      | error cause => exact Preserves.pure _

end UseKeeps

/-! ### Nodes in hand -/

/-- A property that says which nodes a call has opened, and which of them it has in hand. Calls do
not break it, a node that opens comes into hand, and one that is closed goes. -/
structure Custody (P : Platform σ) (q : Event → Prop)
    (I : (opened hand : List Node) → World σ → Prop) : Prop where
  robust : ∀ opened hand, Robust P q (I opened hand)
  refused : ∀ kind adapter index, q (.refused kind adapter index)
  comes : ∀ opened hand node (w : World σ), I opened hand w → node.number = w.nodeCount + 1 →
    I (opened ++ [node]) (node :: hand)
      { w with nodeCount := node.number, trace := w.trace ++ [.opened node] }
  goes : ∀ opened hand node,
    Leads (I opened (node :: hand)) (record (.closed node)) fun _ => I opened hand
  swap : ∀ opened m n hand w, I opened (m :: n :: hand) w → I opened (n :: m :: hand) w

/-- A step of setting up; the nodes are given up if it fails. -/
theorem orAbandon_yields (P : Platform σ) {pre bad bad' : World σ → Prop} {nodes : FilterNodes}
    {step : Attempt σ α} {good : α → World σ → Prop} (hs : Yields pre step good bad)
    (ha : Leads bad (abandonNodes P nodes) fun _ => bad') :
    Yields pre (orAbandon P nodes step) good bad' := by
  unfold orAbandon
  refine (Yields.outcome hs).bind fun r => ?_
  cases r with
  | ok x => exact Yields.pure fun _ => id
  | error f =>
      exact Yields.via (fun _ => bad') (fun w hw => ha w hw) fun _ => Yields.throw fun _ => id

section

variable (P : Platform σ)

/-- Opens and programs the node of a section filter. -/
def sectionNodes (place : Nat) (settings : SectionSettings) : Attempt σ FilterNodes := do
  let program ← settings.program
  let m ← openManager place
  let nodes : FilterNodes := ⟨← openNode P .demux m.adapter m.demux, none⟩
  orAbandon P nodes (command P "DMX_SET_FILTER" nodes.demux (.setSectionFilter program))
  return nodes

/-- Opens the nodes of a stream filter, and programs them. -/
def streamNodes (place : Nat) (pid : UInt16) (input : StreamInput) (output : StreamOutput)
    (pesType : PesType) : Attempt σ FilterNodes := do
  let program ← streamProgram pid input output pesType
  let m ← openManager place
  let demux ← openNode P .demux m.adapter m.demux
  let dvr? ← orAbandon P ⟨demux, none⟩ do
    if output = .tsTap then return some (← openNode P .dvr m.adapter m.demux) else return none
  let nodes : FilterNodes := ⟨demux, dvr?⟩
  orAbandon P nodes (command P "DMX_SET_PES_FILTER" demux (.setStreamFilter program))
  return nodes

/-- A section filter is set up and then registered. -/
theorem newSectionFilter_eq (place : Nat) (settings : SectionSettings) :
    newSectionFilter P place settings = (do
      register P place (← sectionNodes P place settings)
        (.sections settings.pid settings.tableId)) := by
  simp only [newSectionFilter, sectionNodes, bind_assoc, pure_bind]

/-- A stream filter is set up and then registered. -/
theorem newStreamFilter_eq (place : Nat) (pid : UInt16) (input : StreamInput)
    (output : StreamOutput) (pesType : PesType) :
    newStreamFilter P place pid input output pesType = (do
      register P place (← streamNodes P place pid input output pesType)
        (.stream pid input output pesType)) := by
  simp only [newStreamFilter, streamNodes, bind_assoc, pure_bind]

end

namespace Custody

variable {P : Platform σ} {q : Event → Prop} {I : (opened hand : List Node) → World σ → Prop}
  (hI : Custody P q I)

include hI

theorem tryOpen (opened hand : List Node) (node : Node) (times : Nat) :
    Leads (fun w => I opened hand w ∧ node.number = w.nodeCount + 1) (tryOpen P node times)
      fun r w => match r with
        | .ok () => I (opened ++ [node]) (node :: hand) w
        | .error _ => I opened hand w := by
  induction times with
  | zero => exact Leads.pure fun _ hw => hw.1
  | succ times ih =>
      unfold Session.tryOpen
      refine Leads.via (fun _ w => I opened hand w ∧ node.number = w.nodeCount + 1)
        (fun w hw => ⟨(hI.robust _ _).device _ w hw.1, hw.2⟩) fun r => ?_
      cases r with
      | ok => exact fun w hw => hI.comes _ _ _ w hw.1 hw.2
      | error cause =>
          refine Leads.via (fun _ w => I opened hand w ∧ node.number = w.nodeCount + 1)
            (fun w hw => ⟨(hI.robust _ _).tell _ (hI.refused _ _ _) w hw.1, hw.2⟩) fun _ => ?_
          split_ifs
          · exact ih
          · exact Leads.pure fun _ hw => hw.1

/-- A node that opens comes into hand. -/
theorem openNode (opened hand : List Node) (kind : Kind) (adapter index : UInt32) :
    Yields (I opened hand) (openNode P kind adapter index)
      (fun node w => node.kind = kind ∧ I (opened ++ [node]) (node :: hand) w) (I opened hand) := by
  unfold Session.openNode
  refine Leads.bind ((hI.robust _ _).meanwhile _) fun r => ?_
  cases r with
  | error cause =>
      exact Leads.bind ((hI.robust _ _).tell _ (hI.refused _ _ _)) fun _ => Leads.pure fun _ => id
  | ok =>
      refine Leads.get fun w hw => ?_
      let node : Node := ⟨w.nodeCount + 1, kind, adapter, index⟩
      have tried := hI.tryOpen opened hand node (P.openings node w.device)
      refine (tried.imp (fun w' (he : w' = w) => he ▸ ⟨hw, rfl⟩) fun _ _ => id).bind fun r => ?_
      cases r with
      | ok => exact Leads.pure fun w hw => ⟨rfl, hw⟩
      | error cause => exact Leads.pure fun w hw => hw

theorem closeNode (opened hand : List Node) (node : Node) :
    Leads (I opened (node :: hand)) (closeNode P (meanwhile P) node) fun _ => I opened hand :=
  closeNode_leads (hI.goes _ _ _) ((hI.robust _ _).meanwhile _) (hI.robust _ _).device

theorem abandon (opened hand : List Node) (node : Node) (what : String) :
    Leads (I opened (node :: hand)) (abandon P node what) fun _ => I opened hand := by
  unfold Session.abandon
  refine (hI.closeNode opened hand node).bind fun r => ?_
  cases r with
  | ok => exact Preserves.pure _
  | error cause => exact (hI.robust _ _).note _ _

theorem abandonNodes (opened hand : List Node) (nodes : FilterNodes) :
    Leads (I opened (nodes.list ++ hand)) (abandonNodes P nodes) fun _ => I opened hand := by
  obtain ⟨demux, dvr?⟩ := nodes
  unfold Session.abandonNodes
  cases dvr? with
  | none => exact hI.abandon opened hand demux _
  | some dvr =>
      have first : Leads (I opened (FilterNodes.list ⟨demux, some dvr⟩ ++ hand))
          (Session.abandon P dvr "dvr node") fun _ => I opened (demux :: hand) :=
        (hI.abandon _ _ dvr _).imp (fun w hw => hI.swap _ _ _ _ w hw) fun _ _ => id
      exact first.bind fun _ => hI.abandon _ _ demux _

/-- A step of setting up, after which the nodes are in hand only if it succeeded. -/
theorem orAbandon (opened : List Node) (nodes : FilterNodes) {pre : World σ → Prop}
    {step : Attempt σ α} {good : α → World σ → Prop} (hs : Yields pre step good (I opened nodes.list)) :
    Yields pre (orAbandon P nodes step) good (fun w => ∃ opened, I opened [] w) := by
  rw [← List.append_nil nodes.list] at hs
  exact orAbandon_yields P hs ((hI.abandonNodes opened [] nodes).imp (fun _ => id) fun _ _ hw => ⟨_, hw⟩)

/-! ### Setting up -/

/-- The first node of a filter. -/
theorem openDemux {pre : World σ → Prop} (hp : ∀ w, pre w → I [] [] w) (adapter index : UInt32) :
    Yields pre (Session.openNode P .demux adapter index)
      (fun node w => node.kind = .demux ∧ I [node] [node] w) (fun w => ∃ opened, I opened [] w) :=
  (hI.openNode [] [] .demux adapter index).imp hp (fun _ _ => id) fun _ hw => ⟨_, hw⟩

/-- The node of a section filter is in hand when it is set up; else it was given up. -/
theorem sectionNodes (hq : ∀ node program, q (.issued node (.setSectionFilter program)))
    (place : Nat) (settings : SectionSettings) :
    Yields (I [] []) (sectionNodes P place settings)
      (fun nodes w => nodes.Fits (.sections settings.pid settings.tableId) ∧
        I nodes.list nodes.list w)
      (fun w => ∃ opened, I opened [] w) := by
  unfold Session.sectionNodes
  refine Yields.ofParameters (fun _ hw => ⟨_, hw⟩) fun program => ?_
  refine ((openManager_yields place).weaken fun _ hw => ⟨_, hw⟩).bind fun m => ?_
  refine (hI.openDemux (fun _ hw => hw.1) _ _).bind fun node => Yields.of_fact fun hk => ?_
  have programmed := ((hI.robust [node] [node]).command "DMX_SET_FILTER" (hq node program)).yields
  exact (hI.orAbandon [node] ⟨node, none⟩ programmed).bind fun _ =>
    Yields.pure fun _ hw => ⟨⟨hk, rfl⟩, hw⟩

/-- The nodes of a stream filter are in hand when it is set up; else they were given up. -/
theorem streamNodes (hq : ∀ node program, q (.issued node (.setStreamFilter program)))
    (place : Nat) (pid : UInt16) (input : StreamInput) (output : StreamOutput)
    (pesType : PesType) :
    Yields (I [] []) (streamNodes P place pid input output pesType)
      (fun nodes w => nodes.Fits (.stream pid input output pesType) ∧ I nodes.list nodes.list w)
      (fun w => ∃ opened, I opened [] w) := by
  unfold Session.streamNodes
  refine Yields.ofParameters (fun _ hw => ⟨_, hw⟩) fun program => ?_
  refine ((openManager_yields place).weaken fun _ hw => ⟨_, hw⟩).bind fun m => ?_
  refine (hI.openDemux (fun _ hw => hw.1) _ _).bind fun node => Yields.of_fact fun hk => ?_
  refine Yields.via (fun dvr? w =>
    (dvr?.map (·.kind) = if output = .tsTap then some .dvr else none) ∧
      I (FilterNodes.list ⟨node, dvr?⟩) (FilterNodes.list ⟨node, dvr?⟩) w)
    (hI.orAbandon [node] ⟨node, none⟩ ?_) fun dvr? => Yields.of_fact fun hd => ?_
  · split_ifs with ht
    · refine (hI.openNode _ _ .dvr _ _).bind fun dvr => Yields.of_fact fun hk' => ?_
      exact Yields.pure fun w hw => ⟨by simp [hk'], hI.swap _ _ _ _ w hw⟩
    · exact Yields.pure fun w hw => ⟨rfl, hw⟩
  · have fits : FilterNodes.Fits ⟨node, dvr?⟩ (.stream pid input output pesType) :=
      ⟨hk, hd.trans (by simp [taps])⟩
    have programmed := ((hI.robust (FilterNodes.list ⟨node, dvr?⟩)
      (FilterNodes.list ⟨node, dvr?⟩)).command "DMX_SET_PES_FILTER" (hq node program)).yields
    exact (hI.orAbandon _ ⟨node, dvr?⟩ programmed).bind fun _ => Yields.pure fun _ hw => ⟨fits, hw⟩

/-- What is set up is registered if its manager is still open, and else given up. -/
theorem register (opened : List Node) (place : Nat) {nodes : FilterNodes} {kind : FilterKind}
    {good : Filter → World σ → Prop}
    (hg : ∀ w m, I opened nodes.list w → w.managers[place]? = some m →
      m.frontend?.isSome = true →
      good ⟨place, (m.filters.insert nodes).1, kind⟩
        { w.setManager place { m with filters := (m.filters.insert nodes).2 } with
          trace := w.trace ++ [.registered ⟨place, (m.filters.insert nodes).1, kind⟩ nodes]
          filters := w.filters ++ [⟨place, (m.filters.insert nodes).1, kind⟩] }) :
    Yields (I opened nodes.list) (register P place nodes kind) good
      (fun w => ∃ opened, I opened [] w) := by
  unfold Session.register
  refine (hI.orAbandon opened nodes (openManager_yields place)).bind fun m => ?_
  rintro w ⟨hw, hm, ho⟩
  exact hg w m hw hm ho

/-- A frontend comes into use if it answers all questions about itself; else its node is given
up. -/
theorem openFrontend (hq : ∀ node c, q (.issued node c)) (adapter index : UInt32)
    {good : Nat → World σ → Prop}
    (hg : ∀ node info w, I [node] [node] w → good w.frontends.length
      { w with
        frontends := w.frontends ++ [⟨node, info, true⟩]
        held := w.held ++ [w.frontends.length] }) :
    Yields (I [] []) (openFrontend P adapter index) good (fun w => ∃ opened, I opened [] w) := by
  unfold Session.openFrontend
  refine Yields.via (fun node w => I [node] [node] w)
    ((hI.openNode [] [] .frontend adapter index).imp (fun _ => id) (fun _ _ hw => hw.2)
      fun _ hw => ⟨_, hw⟩) fun node => ?_
  refine Yields.via (fun _ w => I [node] [node] w)
    (fun w hw => (hI.robust _ _).askInfo node (hq node) w hw) fun r => ?_
  cases r with
  | error f =>
      refine Yields.via (fun _ w => I [node] [] w) (fun w hw => hI.abandon _ _ node _ w hw) fun _ =>
        Yields.throw fun _ hw => ⟨_, hw⟩
  | ok info =>
      refine Yields.via (fun _ w => I [node] [node] w)
        (fun w hw => (hI.robust _ _).note _ _ w hw) fun _ => ?_
      exact fun w hw => hg node info w hw

end Custody

end Multiplex.Session
