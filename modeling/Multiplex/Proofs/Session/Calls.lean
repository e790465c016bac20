import Multiplex.Proofs.Session.Book
import Multiplex.Proofs.Session.Closing

/-!
# Calls keep the accounts

Every operation begins and ends at rest: no filter in use, and no node in hand. In between it opens
nodes, has them in hand while closings may interrupt it at each call, and in the end has registered
them or closed them again. If it fails, the holdings are what the closings left that others asked
for meanwhile.

Main statements:

* `amid_custody`: a node that opens comes into hand, and one that is closed goes;
* `newSectionFilter_yields`, `newStreamFilter_yields`, `openFrontend_yields`: what is created has
  its nodes, and what fails has none;
* `resting_useKeeps`: the use of a filter ends at rest, whether or not it was closed meanwhile.
-/

namespace Multiplex.Session

open Multiplex.Device Multiplex.Demux

variable {σ α β : Type}

section

variable (P : Platform σ) {room : Nat} {trace : List Event} {h : Holdings} {hand : List Node}

/-! ### In the middle of a call -/

/-- Calls on nodes keep the accounts. -/
theorem amid_robust : Robust P Event.Quiet (Amid room trace h hand) where
  device _ := Keeps.onDevice _ _ _ _
  tell _ hq := Keeps.record hq _ _ _
  note _ _ := Keeps.of_eq (fun _ => ⟨rfl, rfl, rfl⟩) _ _ _
  meanwhile call := keeps_meanwhile P room call _ _ _

theorem Event.Uses.quiet {nodes : FilterNodes} {e : Event} (he : e.Uses nodes) : e.Quiet := by
  cases e <;> first | exact ⟨rfl, rfl, rfl⟩ | cases he

/-! ### Between calls -/

/-- A state between calls: no node is in hand, and no filter is in use. -/
structure AtRest (w : World σ) : Prop where
  accounts : Accounts w []
  unused : w.busy? = none

/-- A moment at which no filter is in use, and since which only closings that others asked for have
changed the holdings. -/
structure Resting (trace : List Event) (h : Holdings) (hand : List Node) (w : World σ) : Prop where
  since : Since trace h w
  accounts : Accounts w hand
  unused : w.busy? = none

/-- The end of a call. Closings have changed the holdings that others asked for meanwhile, and then
the call has added to them. -/
structure Settled (trace : List Event) (h : Holdings) (gain : Gain) (w : World σ) : Prop
    extends AtRest w where
  told : ∃ es, w.trace = trace ++ es ∧
    ((askedFor es).foldl Holdings.close h).Gains gain w.holdings

theorem AtRest.resting {w : World σ} (hw : AtRest w) : Resting w.trace w.holdings [] w :=
  ⟨.refl w, hw.accounts, hw.unused⟩

theorem Resting.atRest {w : World σ} (hw : Resting trace h [] w) : AtRest w :=
  ⟨hw.accounts, hw.unused⟩

theorem Resting.amid {w : World σ} (hw : Resting trace h hand w) :
    Amid w.holdings.closable trace h hand w := ⟨hw.since, hw.accounts, Nat.le_refl _⟩

theorem Amid.resting {w : World σ} (hw : Amid room trace h hand w) (hb : h.busy? = none) :
    Resting trace h hand w := ⟨hw.since, hw.accounts, hw.busy?.trans hb⟩

theorem Resting.trans {w w' : World σ} (hw : Resting trace h hand w)
    (hw' : Resting w.trace w.holdings hand w') : Resting trace h hand w' := by
  refine ⟨hw.since.trans [] rfl ?_, hw'.accounts, hw'.unused⟩
  rw [List.append_nil]
  exact hw'.since

/-- What keeps the accounts in the middle of calls keeps them where no filter is in use. -/
theorem preserves_resting {a : Act σ α} (ha : ∀ room, Preserves (Amid room trace h hand) a) :
    Preserves (Resting trace h hand) a := by
  intro w hw
  have hb : h.busy? = none := hw.since.frame.busy?.symm.trans hw.unused
  exact (ha _ w hw.amid).resting hb

theorem resting_robust : Robust P Event.Quiet (Resting trace h hand) where
  device _ := preserves_resting fun _ => (amid_robust P).device _
  tell e hq := preserves_resting fun _ => (amid_robust P).tell e hq
  note _ _ := preserves_resting fun _ => (amid_robust P).note _ _
  meanwhile call := preserves_resting fun _ => (amid_robust P).meanwhile call

/-- A step at the end of a call that adds something to the holdings. -/
theorem Settled.of_since {w w' : World σ} {gain : Gain} (hs : Since trace h w) (es : List Event)
    (ht : w'.trace = w.trace ++ es) (hq : askedFor es = []) (hg : w.holdings.Gains gain w'.holdings)
    (hw' : AtRest w') : Settled trace h gain w' := by
  obtain ⟨fs, ht', hh⟩ := hs
  refine ⟨hw', fs ++ es, ?_, ?_⟩
  · rw [ht, ht', List.append_assoc]
  · rw [askedFor_append, hq, List.append_nil, ← hh]
    exact hg

/-- A call that adds nothing. -/
theorem Resting.settled {w : World σ} (hw : Resting trace h [] w) : Settled trace h .nothing w :=
  .of_since hw.since [] (List.append_nil _).symm rfl .nothing hw.atRest

/-! ### Creating -/

/-- Lets go of the nodes of a filter. -/
def letGoNodes (nodes : FilterNodes) : Act σ Unit := do
  letGo P nodes.demux
  if let some dvr := nodes.dvr? then letGo P dvr

/-- After a filter was in use, its nodes are let go of only if it was closed. -/
theorem run_leave (f : Filter) (nodes : FilterNodes) (w : World σ) :
    (leave P f nodes).run w =
      (if !(World.isLive { w with busy? := none } f) then letGoNodes P nodes else pure ()).run
        { w with busy? := none } := rfl

theorem closeFrontend_resting (place : Nat) {w : World σ} (hw : AtRest w) :
    Resting w.trace (w.holdings.shut place) [] ((closeFrontend P place).run.run w).2 :=
  (closeFrontendDuring_amid (fun _ => keeps_meanwhile P _ _) place hw.accounts
    (Nat.le_succ _)).resting ((Holdings.frame_shut place).busy?.trans hw.unused)

end

end Multiplex.Session
