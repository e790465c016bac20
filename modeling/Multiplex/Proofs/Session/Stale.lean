import Multiplex.Proofs.Session.Isolation

/-!
# Operations on filters that are closed

An operation on a filter first looks at its parameters and then asks for the filter's nodes. If the
filter is closed, this is where it ends: with a failure that names the filter, before anything is
called. PIDs are added one by one, and each of them asks for itself. So the addition of no PIDs asks
for nothing, and is no failure.

Main statement:

* `closed_filter_refused`: what operations on a filter answer once it was closed in a run.
-/

namespace Multiplex.Session

open Multiplex.Device Multiplex.Demux Operation

variable {σ : Type}

/-- The PIDs that an operation on a filter is given. -/
def Operation.pids : Operation → List UInt16
  | .addPid _ pid | .removePid _ pid => [pid]
  | .addPids _ pids => pids
  | _ => []

section

variable (P : Platform σ) {w : World σ} {f : Filter}

theorem failureWith_eq {pid : UInt16} (hp : pid ≤ maxPid) :
    f.failureWith pid = f.closedFailure := by
  unfold Filter.failureWith checkPid
  rw [if_pos hp]

/-- With acceptable PIDs, and at least one of them if PIDs are to be added, an operation on a filter
that is closed fails for this reason. -/
theorem staleAnswer_eq {use : Operation} (hu : use.used? = some f) (hne : use ≠ .addPids f [])
    (hp : ∀ pid ∈ use.pids, pid ≤ maxPid) : use.staleAnswer f = .error f.closedFailure := by
  cases use with
  | addPid _ pid | removePid _ pid =>
      have hpid := hp pid (List.mem_singleton_self pid)
      exact congrArg Except.error (failureWith_eq hpid)
  | addPids _ pids =>
      cases hu
      cases pids with
      | nil => exact absurd rfl hne
      | cons pid rest =>
          have hpid := hp pid List.mem_cons_self
          exact congrArg Except.error (failureWith_eq hpid)
  | start | stop | setBufferSize | pesPids | clock | read | readRawSection | readSection => rfl
  | _ => cases hu

/-- A filter was created, and later closed in a turn: by a call on it or on its manager, or by
others during a call. After any later turns, and at any moment of a call that follows on them,
whatever else was closed until then, an operation on it with acceptable parameters fails with the
failure that names the filter, and changes nothing. There is one exception: to add no PIDs is never
a failure. -/
theorem closed_filter_refused (device : σ) (before middle : List Turn) (turn : Turn)
    (later : List Turn) {op : Operation} {w₁ : World σ}
    (hc : (op.run P).run.run (runTurns P before (World.fresh device)) = (.ok (some f), w₁))
    (few : ∀ place index,
      (runTurns P (middle ++ turn :: later) w₁).registries.releases place index < 2 ^ 32)
    (closes : turn.Closes P f (runTurns P middle w₁)) (cs : List Closing)
    (hw : w.registries =
      cs.foldl Holdings.close (runTurns P (middle ++ turn :: later) w₁).registries) :
    (∀ use : Operation, use.used? = some f → use ≠ .addPids f [] →
      (∀ pid ∈ use.pids, pid ≤ maxPid) →
      (use.run P).run.run w = (.error (.notFound (f.id.text ++ " is closed")), w)) ∧
    ((Operation.addPids f []).run P).run.run w = (.ok none, w) := by
  obtain ⟨-, -, -, -, -, -, hf, hs⟩ := created_nodes P (runTurns_sound P before device) hc
  have gone : (runTurns P (middle ++ turn :: later) w₁).registries.nodes? f = none :=
    isLive_eq_false_iff.mp (closed_along P hs hf (Holdings.uses_le few) closes)
  have hn : w.nodes? f = none := by
    change w.registries.nodes? f = none
    rw [hw]
    exact Holdings.nodes?_foldl_close gone cs
  refine ⟨?_, run_of_stale P rfl hn⟩
  intro use hu hne hp
  rw [run_of_stale P hu hn, staleAnswer_eq hu hne hp]
  rfl

end

/-- The first filter is closed, and another one takes its slot. To add two PIDs to the first is
refused, while to add none is not. -/
theorem closed_filter_refused_replaced :
    let w := runTurns intruded replacing ((indexing.run intruded).run.run
      (runTurns intruded equipping (World.fresh ()))).2
    ((Operation.addPids guide [1, 2]).run intruded).run.run w =
        (.error (.notFound "filter#0.0 is closed"), w) ∧
      ((Operation.addPids guide []).run intruded).run.run w = (.ok none, w) := by
  have hr : created ((indexing.run intruded).run.run
      (runTurns intruded equipping (World.fresh ()))).1 = [guide] := by
    decide +kernel
  have hl : (runTurns intruded replacing ((indexing.run intruded).run.run
      (runTurns intruded equipping (World.fresh ()))).2).filters.length < 2 ^ 32 := by
    decide +kernel
  have hfirst : replacing = [] ++ .call (.closeFilter guide) :: replacing.tail := rfl
  -- From here on, nothing is run.
  generalize indexing = op at *
  generalize equipping = before at *
  generalize replacing = after at *
  generalize after.tail = later at hfirst
  subst hfirst
  obtain ⟨w₁, hc⟩ : ∃ w₁, (op.run intruded).run.run (runTurns intruded before (World.fresh ())) =
      (.ok (some guide), w₁) := ⟨_, Prod.ext (eq_of_created hr) rfl⟩
  rw [hc] at hl
  rw [hc]
  obtain ⟨refused, unasked⟩ := closed_filter_refused intruded () before [] _ later hc
    (fun place index => (Holdings.releases_le _ place index).trans_lt hl) (.inl rfl) [] rfl
  have hp : ∀ pid ∈ (Operation.addPids guide [1, 2]).pids, pid ≤ maxPid := by
    intro pid hpid
    obtain rfl | rfl := List.mem_pair.mp hpid
    · exact UInt16.le_iff_toNat_le.mpr (by decide)
    · exact UInt16.le_iff_toNat_le.mpr (by decide)
  have hne : Operation.addPids guide [1, 2] ≠ .addPids guide [] := by
    rintro ⟨⟩
  exact ⟨refused _ rfl hne hp, unasked⟩

end Multiplex.Session
