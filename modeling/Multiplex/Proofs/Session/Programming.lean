import Multiplex.Proofs.Demux.Settings
import Multiplex.Proofs.Session.Adding

/-!
# How section filters are programmed

A section filter that is set up is given one command, the program of its settings. Before that its
node is opened, afterwards it is registered or the node is closed again, and of none of this the
device hears as a command. So the timeout that a demux is told is the last that was chosen for the
filter, in whole milliseconds.

Main statements:

* `newSectionFilter_programs`: the command that a new section filter is given;
* `programmed_timeout`: the timeout that the demux is told.
-/

namespace Multiplex.Session

open Multiplex.Calendar Multiplex.Device Multiplex.Demux

variable {σ α : Type}

/-- A moment since which the device has heard some commands. -/
def Heard (trace : List Event) (commands : List (Node × Command)) (w : World σ) : Prop :=
  ∃ es, w.trace = trace ++ es ∧ issuedCommands es = commands

/-- The same in the middle of a call. -/
def Hearing (trace : List Event) (commands : List (Node × Command)) (w : World σ) : Prop :=
  Heard trace commands w ∧ w.Valid

/-- A moment since which the device has heard just the program of some settings. -/
def Programmed (trace : List Event) (settings : SectionSettings) (w : World σ) : Prop :=
  ∃ node program, settings.program = .ok program ∧
    Heard trace [(node, .setSectionFilter program)] w

section

variable {trace : List Event} {commands more : List (Node × Command)} {w w' : World σ}

theorem Heard.append (hw : Heard trace commands w) {es : List Event}
    (told : w'.trace = w.trace ++ es) (heard : issuedCommands es = more) :
    Heard trace (commands ++ more) w' := by
  obtain ⟨fs, told', rfl⟩ := hw
  refine ⟨fs ++ es, ?_, ?_⟩
  · rw [told, told', List.append_assoc]
  · rw [issuedCommands_append, heard]

/-- Nothing is heard of events that are no commands. -/
theorem Hearing.going (hw : Hearing trace commands w) {room : Nat}
    (hg : Going room (·.command? = none) w.trace w.registries w') : Hearing trace commands w' := by
  obtain ⟨⟨es, told, -, kinds, -⟩, hv, -⟩ := hg
  have silent : issuedCommands es = [] := List.filterMap_eq_nil_iff.mpr fun e he =>
    (kinds e he).elim command?_of_isOfClosing id
  have heard := hw.1.append told silent
  rw [List.append_nil] at heard
  exact ⟨heard, hv⟩

end

section

variable (P : Platform σ) {trace : List Event} {commands : List (Node × Command)}

/-- A step that gives no commands. -/
theorem Goes.hearing {a : Act σ α} (ha : ∀ room, Goes room (·.command? = none) a) :
    Preserves (Hearing trace commands) a :=
  fun w hw => hw.going (ha w.closable _ _ w (.start hw.2 (Nat.le_refl _)))

/-- Nothing is heard when nodes are opened or given up. -/
theorem hearing_custody :
    Custody P (fun e => askedFor [e] = [] ∧ e.command? = none) fun _ _ => Hearing trace commands where
  robust _ _ := {
    device _ := Goes.hearing fun _ _ _ => (going_robust P).device _
    tell e he := Goes.hearing fun _ _ _ => (going_robust P).tell e he
    note _ _ := Goes.hearing fun _ _ _ => (going_robust P).note _ _
    meanwhile call := Goes.hearing fun _ _ _ => (going_robust P).meanwhile call }
  refused _ _ _ := ⟨rfl, rfl⟩
  comes _ _ _ w hw _ :=
    hw.going ((Going.start hw.2 (Nat.le_refl w.closable)).step rfl rfl rfl rfl rfl rfl)
  goes _ _ _ := Goes.hearing fun _ => Goes.record rfl rfl
  swap _ _ _ _ _ := id

theorem command_hearing (name : String) (node : Node) (c : Command) :
    Yields (Hearing trace commands) (command P name node c)
      (fun _ => Hearing trace (commands ++ [(node, c)]))
      (Hearing trace (commands ++ [(node, c)])) := by
  refine Leads.yields fun w ⟨heard, hv⟩ => ?_
  obtain ⟨answer, w', hi⟩ : ∃ answer w', (issue P node c).run w = (answer, w') := ⟨_, _, rfl⟩
  obtain ⟨⟨es, told, issued, -, -⟩, hv'⟩ := issue_gave hv hi
  rw [run_command name node c hi]
  exact ⟨heard.append told issued, hv'⟩

/-- A section filter that is set up is given the program of its settings. If it cannot be set up,
the device has heard the program or nothing. -/
theorem newSectionFilter_programs (place : Nat) (settings : SectionSettings) :
    Yields (Hearing trace []) (newSectionFilter P place settings)
      (fun _ => Programmed trace settings)
      fun w => Heard trace [] w ∨ Programmed trace settings w := by
  unfold newSectionFilter
  cases hp : settings.program with
  | error failure => exact fun w hw => .inl hw.1
  | ok program =>
      -- A failure after the command: the nodes are closed, and the program has been heard.
      have programmed : ∀ node (w : World σ),
          (∃ _ : List Node, Hearing trace [(node, .setSectionFilter program)] w) →
            Heard trace [] w ∨ Programmed trace settings w :=
        fun node w ⟨_, hw⟩ => .inr ⟨node, program, hp, hw.1⟩
      refine ((openManager_yields place).weaken fun _ hw => .inl hw.1).bind fun m => ?_
      refine Yields.via (fun _ => Hearing trace []) (((hearing_custody P).openNode [] [] _ _ _).imp
        (fun _ hw => hw.1) (fun _ _ hw => hw.2) fun _ hw => .inl hw.1) fun node => ?_
      refine (((hearing_custody P).orAbandon [] ⟨node, none⟩ (command_hearing P _ _ _)).weaken
        (programmed node)).bind fun _ => ?_
      refine ((hearing_custody P).register [] place fun w m' hw _ _ => ?_).weaken (programmed node)
      exact ⟨node, program, hp, hw.1.append rfl rfl⟩

/-- The timeout of a section filter. A call that is to set up a filter gives the device one command
at most, the program of the settings, and one if it succeeds. Its timeout is the last one that was
chosen, in milliseconds: whole ones only, and no more than fit a word. So it is never less than that
of a filter with a shorter timeout; and it is zero, which waits for ever, if and only if the timeout
is below one millisecond. -/
theorem programmed_timeout (device : σ) (before : List Turn) (place : Nat) (pid : UInt16)
    (tableId : UInt8) (choices : List Choice) {settings : SectionSettings}
    (chosen : configure pid tableId choices = .ok settings) :
    let limit := lastTimeout choices
    let w := runTurns P before (World.fresh device)
    let (r, w') := (newSectionFilter P place settings).run.run w
    ∃ es, w'.trace = w.trace ++ es ∧
      ((r.isOk = false ∧ issuedCommands es = []) ∨
        ∃ node program, issuedCommands es = [(node, .setSectionFilter program)] ∧
          settings.program = .ok program ∧
          program.timeout.toNat = min (limit.totalNanos / nanosPerMilli) (UInt32.size - 1) ∧
          (program.timeout = 0 ↔ limit.totalNanos < nanosPerMilli) ∧
          ∀ (pid' : UInt16) (tableId' : UInt8) (choices' : List Choice)
            (settings' : SectionSettings) (program' : SectionProgram),
            configure pid' tableId' choices' = .ok settings' →
            settings'.program = .ok program' →
            limit.totalNanos ≤ (lastTimeout choices').totalNanos →
            program.timeout ≤ program'.timeout) := by
  intro limit w
  have hv : w.Valid := (runTurns_sound P before device).valid
  have heard := newSectionFilter_programs P place settings w
    ⟨⟨[], (List.append_nil _).symm, rfl⟩, hv⟩
  generalize (newSectionFilter P place settings).run.run w = after at heard ⊢
  obtain ⟨r, w'⟩ := after
  have told : (r.isOk = false ∧ Heard w.trace [] w') ∨ Programmed w.trace settings w' := by
    cases r with
    | ok => exact .inr heard
    | error failure => exact heard.imp_left fun silent => ⟨rfl, silent⟩
  rcases told with ⟨failed, es, ht, silent⟩ | ⟨node, program, hp, es, ht, issued⟩
  · exact ⟨es, ht, .inl ⟨failed, silent⟩⟩
  · refine ⟨es, ht, .inr ⟨node, program, issued, hp, ?_, ?_, ?_⟩⟩
    · rw [timeout_of_configured chosen hp, SectionSettings.toNat_millis]
    · rw [timeout_of_configured chosen hp, SectionSettings.millis_eq_zero_iff]
    · intro pid' tableId' choices' settings' program' chosen' hp' longer
      rw [timeout_of_configured chosen hp, timeout_of_configured chosen' hp']
      exact SectionSettings.millis_mono longer

end

/-- Five seconds, and then half a millisecond. -/
def haste : List Choice :=
  [.timeout (.ofSeconds 5), .oneshot true, .timeout (.ofParts 0 500000)]

/-- The settings of a filter with half a millisecond. -/
def hasty : SectionSettings :=
  { SectionSettings.ofTable 18 0x4E with oneshot := true, timeout := .ofParts 0 500000 }

/-- A timeout of half a millisecond is programmed as none. -/
theorem programmed_timeout_hasty :
    let w := runTurns intruded (opening.map .call) (World.fresh ())
    let (r, w') := (newSectionFilter intruded 0 hasty).run.run w
    configure 18 0x4E haste = .ok hasty ∧ 0 < (lastTimeout haste).totalNanos ∧ r.isOk = true ∧
      ∃ es node program, w'.trace = w.trace ++ es ∧
        issuedCommands es = [(node, .setSectionFilter program)] ∧ program.timeout = 0 := by
  have hc : configure 18 0x4E haste = .ok hasty := rfl
  have pos : 0 < (lastTimeout haste).totalNanos := by decide
  have short : (lastTimeout haste).totalNanos < nanosPerMilli := by decide
  have hr : ((newSectionFilter intruded 0 hasty).run.run
      (runTurns intruded (opening.map .call) (World.fresh ()))).1.isOk = true := by
    decide +kernel
  have h := programmed_timeout intruded () (opening.map .call) 0 18 0x4E haste hc
  -- From here on, nothing is run.
  generalize opening.map Turn.call = before at *
  dsimp only at h ⊢
  generalize runTurns intruded before (World.fresh ()) = w at *
  generalize (newSectionFilter intruded 0 hasty).run.run w = after at *
  obtain ⟨r, w'⟩ := after
  obtain ⟨es, told, ⟨failed, -⟩ | ⟨node, program, issued, -, -, none, -⟩⟩ := h
  · exact absurd (hr.symm.trans failed) (by decide)
  · exact ⟨hc, pos, hr, es, node, program, told, issued, none.mpr short⟩

end Multiplex.Session
