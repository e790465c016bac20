import Multiplex.Proofs.Session.Runs
import Multiplex.Proofs.Session.Telling

/-!
# What the use of a filter tells

An operation on a filter tells of calls on the filter's own nodes, and else only of what is closed
while it is under way. If nothing is, the filter's nodes stay open with all others. A filter that is
closed already is not used at all: nothing is told, and nothing changes.

Main statements:

* `use_going`: an operation on a filter tells of the use of its nodes;
* `closeFilter_going`: closing a filter tells of its nodes;
* `run_of_stale`: an operation on a filter that is closed leaves everything as it is.
-/

namespace Multiplex.Session

open Multiplex.Device Multiplex.Demux

variable {σ α β : Type}

/-- An event of the closing of a filter with these nodes. -/
def Event.Frees (place : Nat) (nodes : FilterNodes) : Event → Prop
  | .withdrawn manager n => manager = place ∧ n = nodes
  | .closed node => node ∈ nodes.list
  | _ => False

section

variable (P : Platform σ) {room : Nat} {q : Event → Prop} {w : World σ} {f : Filter}

/-! ### Using filters -/

/-- Nodes are let go of only after something was closed. -/
theorem Told.dropped {trace : List Event} {h : Holdings} {w' : World σ} (ht : Told q trace h w)
    (hne : w.registries ≠ h) {node : Node} (ht' : w'.trace = w.trace ++ [.dropped node])
    (hr : w'.registries = w.registries) : Told q trace h w' := by
  obtain ⟨es, ht, hh, hall, hnone⟩ := ht
  refine ⟨es ++ [.dropped node], ?_, ?_, ?_, fun ha => ?_⟩
  · rw [ht', ht, List.append_assoc]
  · rw [hr, hh, askedFor_append, List.foldl_append]
    rfl
  · simp only [List.mem_append, List.mem_singleton]
    rintro e (he | rfl)
    · exact hall e he
    · exact .inl rfl
  · rw [askedFor_append, List.append_eq_nil_iff] at ha
    rw [ha.1] at hh
    exact absurd hh hne

theorem letGo_going {trace : List Event} {h : Holdings} (hw : Going room q trace h w)
    (hne : w.registries ≠ h) (node : Node) :
    Going room q trace h ((letGo P node).run w).2 ∧
      ((letGo P node).run w).2.registries ≠ h :=
  ⟨⟨hw.told.dropped hne rfl rfl, hw.valid, hw.room⟩, hne⟩

theorem leave_going {w' : World σ} (hw : Going room q w.trace w.registries w')
    {n : FilterNodes} (hn : w.nodes? f = some n) :
    Going room q w.trace w.registries ((leave P f n).run w').2 := by
  obtain ⟨demux, dvr?⟩ := n
  rw [run_leave]
  have hw₀ : Going room q w.trace w.registries { w' with busy? := none } :=
    hw.congr rfl rfl rfl rfl
  cases hl : World.isLive { w' with busy? := none } f with
  | true => exact hw₀
  | false =>
      have hne : w'.registries ≠ w.registries := by
        intro he
        have hs : (w'.registries.nodes? f).isSome = false := hl
        rw [he, show w.registries.nodes? f = some _ from hn] at hs
        cases hs
      obtain ⟨hw₁, hne₁⟩ := letGo_going P hw₀ hne demux
      cases dvr? with
      | none => exact hw₁
      | some dvr => exact (letGo_going P hw₁ hne₁ dvr).1

theorem run_withNodes_none {op : FilterNodes → Attempt σ α} (hn : w.nodes? f = none) :
    (withNodes P f op).run.run w = (.error f.closedFailure, w) := by
  unfold withNodes
  rw [run_run_get_bind, hn]
  rfl

/-- The use of a filter tells of calls on its nodes, and else of closings. -/
theorem going_useKeeps {trace : List Event} {h : Holdings}
    (hq : ∀ n, h.nodes? f = some n → ∀ e : Event, e.Uses n → q e) :
    UseKeeps P f (Going room q trace h) := by
  intro γ step hstep w hw
  cases hn : w.nodes? f with
  | none =>
      rw [run_withNodes_none P hn]
      exact hw
  | some n =>
      -- The filter has the nodes that it had before.
      have hk := hw.told.induct (motive := fun k => ∀ n, k.nodes? f = some n → h.nodes? f = some n)
        (fun _ => id) fun k c hk n hn => hk n (Holdings.nodes?_of_close hn)
      have robust : Robust P (Event.Uses n) (Going room q w.trace w.registries) :=
        (going_robust P).imp fun e he => ⟨he.quiet.2.2, hq n (hk n hn) e he⟩
      have begun : Going room q w.trace w.registries { w with busy? := some n.demux.number } :=
        (Going.start hw.valid hw.room).congr rfl rfl rfl rfl
      unfold withNodes
      rw [run_run_get_bind, hn]
      exact hw.trans (leave_going P (hstep n _ robust _ begun) hn)

/-- An operation on a filter tells of the use of the filter's nodes. -/
theorem use_going {op : Operation} (hf : op.used? = some f) (hv : w.Valid)
    (hq : ∀ n, w.nodes? f = some n → ∀ e : Event, e.Uses n → q e) :
    Going w.closable q w.trace w.registries ((op.run P).run.run w).2 :=
  (going_useKeeps P (h := w.registries) hq).operation hf w (.start hv (Nat.le_refl _))

/-- Closing a filter tells of its nodes. -/
theorem closeFilter_going (hv : w.Valid) :
    Going (w.closable + 1) (fun e => ∃ n, w.nodes? f = some n ∧ e.Frees f.manager n) w.trace
      (w.registries.withdraw f) ((closeFilter P f).run.run w).2 :=
  closeFilterDuring_going (fun _ => goes_meanwhile P _ _ _) f hv (Nat.le_succ _)
    fun n hn => ⟨⟨n, hn, rfl, rfl⟩, fun _ hm => ⟨n, hn, hm⟩⟩

/-- Closing a manager tells of closings only. -/
theorem closeManager_going (place : Nat) (hv : w.Valid) :
    Going (w.closable + 1) (·.isOfClosing = true) w.trace (w.registries.dissolve place)
      ((closeManager P place).run.run w).2 :=
  closeManagerDuring_going (fun _ => goes_meanwhile P _ _ _) place hv (Nat.le_succ _)

/-! ### Filters that are closed -/

/-- The failure of an operation with a PID on a filter that is closed: PIDs are looked at first. -/
def Filter.failureWith (f : Filter) (pid : UInt16) : Failure :=
  match checkPid pid with
  | .ok () => f.closedFailure
  | .error failure => failure

/-- What an operation on a filter that is closed comes to. PIDs are added one by one, so the first
decides. -/
def Operation.staleAnswer (f : Filter) : Operation → Except Failure (Option Filter)
  | .addPids _ [] => .ok none
  | .addPid _ pid | .removePid _ pid | .addPids _ (pid :: _) => .error (f.failureWith pid)
  | _ => .error f.closedFailure

theorem run_checkPid_none (hn : w.nodes? f = none) (pid : UInt16)
    (op : FilterNodes → Attempt σ α) :
    (liftM (checkPid pid) >>= fun _ => withNodes P f op : Attempt σ α).run.run w =
      (.error (f.failureWith pid), w) := by
  unfold Filter.failureWith
  cases checkPid pid with
  | ok => exact run_withNodes_none P hn
  | error failure => rfl

theorem run_addPid_none (hn : w.nodes? f = none) (pid : UInt16) :
    (addPid P f pid).run.run w = (.error (f.failureWith pid), w) :=
  run_checkPid_none P hn pid _

/-- An operation on a filter that is closed leaves everything as it is. -/
theorem run_of_stale {op : Operation} (hf : op.used? = some f) (hn : w.nodes? f = none) :
    (op.run P).run.run w = (op.staleAnswer f, w) := by
  cases op with
  | start | stop | setBufferSize | pesPids | clock | read | readRawSection =>
      cases hf
      exact run_bind_error (run_withNodes_none P hn) _
  | addPid _ pid =>
      cases hf
      exact run_bind_error (run_addPid_none P hn pid) _
  | addPids _ pids =>
      cases hf
      cases pids with
      | nil => rfl
      | cons pid rest => exact run_bind_error (run_bind_error (run_addPid_none P hn pid) _) _
  | removePid _ pid =>
      cases hf
      exact run_bind_error (run_checkPid_none P hn pid _) _
  | readSection _ timeout? =>
      cases hf
      have hraw : (readRawSection P f timeout?).run.run w = (.error f.closedFailure, w) :=
        run_withNodes_none P hn
      exact run_bind_error (run_bind_error hraw _) _
  | _ => cases hf

end

end Multiplex.Session
