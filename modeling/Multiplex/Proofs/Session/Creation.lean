import Multiplex.Proofs.Session.Steps
import Multiplex.Proofs.Session.Using

/-!
# How a filter comes into being

A creation first opens and programs nodes, and then registers them at once, if its manager is still
open then. Up to there it can be followed by its trace: the nodes that it has opened are those in
hand and those that were closed again. So a filter has just the nodes that its creation opened, and
a creation that fails has closed all of its own.

Main statements:

* `Operation.run_eq_register`: a creation sets up nodes and registers them;
* `setUp_yields`: what is set up has the nodes that were opened;
* `creation_enrolls`: a creation registers its filter at an open manager, or closes what it opened.
-/

namespace Multiplex.Session

open Multiplex.Device Multiplex.Demux

variable {σ α β : Type}

/-- Whether an event opens a node or registers a filter. -/
def Event.adds : Event → Bool
  | .opened _ | .registered .. => true
  | _ => false

/-- A moment of a creation. Since it began, nothing was registered, and of the nodes that were
opened those are still open that are in hand. -/
structure Pending (room : Nat) (trace : List Event) (h : Holdings) (new hand : List Node)
    (w : World σ) : Prop where
  told : ∃ es, w.trace = trace ++ es ∧ w.registries = (askedFor es).foldl Holdings.close h ∧
    registered es = [] ∧ openedNodes es = new ∧
      ∀ n ∈ new, n ∈ hand ∨ n ∈ releasedNodes es
  valid : w.Valid
  room : w.closable ≤ room

/-- A filter was registered after nothing else was, at a manager that was open then, with the nodes
that were opened. -/
def Enrolled (trace : List Event) (h : Holdings) (place : Nat) (kind : FilterKind) (f : Filter)
    (w : World σ) : Prop :=
  ∃ es nodes m, w.trace = trace ++ es ++ [.registered f nodes] ∧ registered es = [] ∧
    openedNodes es = nodes.list ∧ nodes.Fits kind ∧ f.manager = place ∧ f.kind = kind ∧
      ((askedFor es).foldl Holdings.close h).managers[f.manager]? = some m ∧
      m.frontend?.isSome = true ∧ f.id = (m.filters.insert nodes).1 ∧
      w.registries = ((askedFor es).foldl Holdings.close h).enroll f m nodes

/-! ### Moments of a creation -/

theorem adds_nothing {es : List Event} (h : ∀ e ∈ es, e.adds = false) :
    openedNodes es = [] ∧ registered es = [] := by
  constructor
  · refine List.filterMap_eq_nil_iff.mpr fun e he => ?_
    have := h e he
    cases e <;> first | rfl | cases this
  · refine List.filterMap_eq_nil_iff.mpr fun e he => ?_
    have := h e he
    cases e <;> first | rfl | cases this

theorem adds_of_isOfClosing {e : Event} (h : e.isOfClosing = true) : e.adds = false := by
  cases e <;> first | rfl | cases h

namespace Pending

variable {room room' : Nat} {trace : List Event} {h : Holdings} {new hand hand' : List Node}
  {node : Node} {w w' : World σ}

theorem start (hv : w.Valid) : Pending w.closable w.trace w.registries [] [] w :=
  ⟨⟨[], by simp, rfl, rfl, rfl, by simp⟩, hv, Nat.le_refl _⟩

theorem hand_subset (hw : Pending room trace h new hand w) (hs : hand ⊆ hand') :
    Pending room trace h new hand' w := by
  obtain ⟨⟨es, ht, hr, hn, ho, hall⟩, hv, hc⟩ := hw
  exact ⟨⟨es, ht, hr, hn, ho, fun n hm => (hall n hm).imp_left fun hi => hs hi⟩, hv, hc⟩

/-- A step after which more events are told, and some nodes may have come into hand. -/
theorem append (hw : Pending room trace h new hand w) {es : List Event}
    (ht : w'.trace = w.trace ++ es)
    (hr : w'.registries = (askedFor es).foldl Holdings.close w.registries)
    (hn : registered es = [])
    (hall : ∀ n ∈ new ++ openedNodes es, n ∈ hand → n ∈ hand' ∨ n ∈ releasedNodes es)
    (hnew : ∀ n ∈ openedNodes es, n ∈ hand') (hv : w'.Valid) (hc : w'.closable ≤ room) :
    Pending room trace h (new ++ openedNodes es) hand' w' := by
  obtain ⟨⟨fs, ht', hr', hn', ho', hall'⟩, -, -⟩ := hw
  refine ⟨⟨fs ++ es, ?_, ?_, ?_, ?_, fun n hm => ?_⟩, hv, hc⟩
  · rw [ht, ht', List.append_assoc]
  · rw [hr, hr', askedFor_append, List.foldl_append]
  · rw [registered_append, hn', hn, List.append_nil]
  · rw [openedNodes_append, ho']
  · rw [releasedNodes_append, List.mem_append]
    rcases List.mem_append.mp hm with ho | ho
    · rcases hall' n ho with hi | hi
      · exact (hall n hm hi).imp_right .inr
      · exact .inr (.inl hi)
    · exact .inl (hnew n ho)

/-- Nothing is opened or registered by closings and commands. -/
theorem going (hw : Pending room trace h new hand w)
    (hg : Going room (·.adds = false) w.trace w.registries w') :
    Pending room trace h new hand w' := by
  obtain ⟨⟨es, ht, hr, hall, -⟩, hv, hc⟩ := hg
  obtain ⟨ho, hn⟩ := adds_nothing fun e he => (hall e he).elim adds_of_isOfClosing id
  have key : Pending room trace h (new ++ openedNodes es) hand w' :=
    hw.append ht hr hn (fun n _ hi => .inl hi) (by simp [ho]) hv hc
  rwa [ho, List.append_nil] at key

/-- The same for one event, which changes nothing else. -/
theorem tell (hw : Pending room trace h new hand w) {e : Event} (ht : w'.trace = w.trace ++ [e])
    (hm : w'.managers = w.managers) (hf : w'.filters = w.filters)
    (ho : w'.frontends = w.frontends) (ha : askedFor [e] = []) (hn : registered [e] = [])
    (hall : ∀ n ∈ new ++ openedNodes [e], n ∈ hand → n ∈ hand' ∨ n ∈ releasedNodes [e])
    (hnew : ∀ n ∈ openedNodes [e], n ∈ hand') :
    Pending room trace h (new ++ openedNodes [e]) hand' w' := by
  have hr : w'.registries = (askedFor [e]).foldl Holdings.close w.registries := by
    rw [ha]
    exact World.registries_congr hm hf
  have hc : w'.closable ≤ room := (World.closable_congr hm ho).trans_le hw.room
  exact hw.append ht hr hn hall hnew (hw.valid.congr hm) hc

theorem opened (hw : Pending room trace h new hand w)
    (ht : w'.trace = w.trace ++ [.opened node]) (hm : w'.managers = w.managers)
    (hf : w'.filters = w.filters) (ho : w'.frontends = w.frontends) :
    Pending room trace h (new ++ [node]) (node :: hand) w' := by
  have hnew : ∀ n ∈ openedNodes [.opened node], n ∈ node :: hand := by
    intro n hn
    rw [List.mem_singleton.mp hn]
    exact List.mem_cons_self
  exact hw.tell ht hm hf ho rfl rfl (fun n _ hi => .inl (List.mem_cons_of_mem _ hi)) hnew

theorem closed (hw : Pending room trace h new (node :: hand) w)
    (ht : w'.trace = w.trace ++ [.closed node]) (hm : w'.managers = w.managers)
    (hf : w'.filters = w.filters) (ho : w'.frontends = w.frontends) :
    Pending room trace h new hand w' := by
  have hall : ∀ n ∈ new ++ openedNodes [.closed node], n ∈ node :: hand →
      n ∈ hand ∨ n ∈ releasedNodes [.closed node] := by
    intro n _ hi
    rcases List.mem_cons.mp hi with rfl | hi
    · exact .inr (List.mem_singleton_self _)
    · exact .inl hi
  have key : Pending room trace h (new ++ openedNodes [.closed node]) hand w' :=
    hw.tell ht hm hf ho rfl rfl hall fun n hn => nomatch hn
  rwa [show openedNodes [.closed node] = [] from rfl, List.append_nil] at key

end Pending

section

variable (P : Platform σ) {room : Nat} {trace : List Event} {h : Holdings}

/-- Calls on nodes tell of nothing that is opened or registered. -/
theorem pending_robust {new hand : List Node} :
    Robust P (fun e => askedFor [e] = [] ∧ e.adds = false) (Pending room trace h new hand) := by
  have going : ∀ {γ : Type} {a : Act σ γ}, Goes room (·.adds = false) a →
      Preserves (Pending room trace h new hand) a :=
    fun ha w hw => hw.going (ha _ _ w (.start hw.valid hw.room))
  exact {
    device _ := going fun _ _ => (going_robust P).device _
    tell e he := going fun _ _ => (going_robust P).tell e he
    note _ _ := going fun _ _ => (going_robust P).note _ _
    meanwhile call := going fun _ _ => (going_robust P).meanwhile call }

/-- The nodes that were opened are followed until they are closed. -/
theorem pending_custody :
    Custody P (fun e => askedFor [e] = [] ∧ e.adds = false) (Pending room trace h) where
  robust _ _ := pending_robust P
  refused _ _ _ := ⟨rfl, rfl⟩
  comes _ _ _ _ hw _ := hw.opened rfl rfl rfl rfl
  goes _ _ _ _ hw := hw.closed rfl rfl rfl rfl
  swap _ _ _ _ _ hw := hw.hand_subset (List.Perm.swap ..).subset

/-! ### Creations in two parts -/

namespace Operation

/-- The manager and the kind of the filter that an operation creates. -/
def creation? : Operation → Option (Nat × FilterKind)
  | newSectionFilter manager settings => some (manager, .sections settings.pid settings.tableId)
  | newStreamFilter manager pid input output pesType =>
    some (manager, .stream pid input output pesType)
  | _ => none

/-- The part of a creation in which the device is called: nodes are opened and programmed. -/
def setUp : Operation → Attempt σ FilterNodes
  | newSectionFilter manager settings => sectionNodes P manager settings
  | newStreamFilter manager pid input output pesType =>
    streamNodes P manager pid input output pesType
  | _ => throw (.notFound "filter")

/-- A creation sets up nodes and registers them. -/
theorem run_eq_register {op : Operation} {place : Nat} {kind : FilterKind}
    (hc : op.creation? = some (place, kind)) :
    op.run P = do return some (← register P place (← op.setUp P) kind) := by
  cases op with
  | newSectionFilter manager settings =>
      cases hc
      simp only [run, setUp, newSectionFilter_eq, bind_assoc]
  | newStreamFilter manager pid input output pesType =>
      cases hc
      simp only [run, setUp, newStreamFilter_eq, bind_assoc]
  | _ => cases hc

end Operation

/-! ### What a creation leads to -/

/-- All nodes that were opened since a moment are closed again, and nothing was registered. -/
def Dropped (room : Nat) (trace : List Event) (h : Holdings) (w : World σ) : Prop :=
  ∃ new, Pending room trace h new [] w

/-- What is set up has the nodes that were opened. -/
theorem setUp_yields {op : Operation} {place : Nat} {kind : FilterKind}
    (hc : op.creation? = some (place, kind)) :
    Yields (Pending room trace h [] []) (op.setUp P)
      (fun nodes w => nodes.Fits kind ∧ Pending room trace h nodes.list nodes.list w)
      (Dropped room trace h) := by
  cases op with
  | newSectionFilter manager settings =>
      cases hc
      exact (pending_custody P).sectionNodes (fun _ _ => ⟨rfl, rfl⟩) place settings
  | newStreamFilter manager pid input output pesType =>
      cases hc
      exact (pending_custody P).streamNodes (fun _ _ => ⟨rfl, rfl⟩) place pid input output pesType
  | _ => cases hc

theorem register_enrolls (place : Nat) {kind : FilterKind} {nodes : FilterNodes}
    (fits : nodes.Fits kind) :
    Yields (Pending room trace h nodes.list nodes.list) (register P place nodes kind)
      (Enrolled trace h place kind) (Dropped room trace h) := by
  refine (pending_custody P).register nodes.list place ?_
  rintro w m ⟨⟨es, ht, hr, hn, hos, -⟩, -, -⟩ hm hopen
  refine ⟨es, nodes, m, ?_, hn, hos, fits, rfl, rfl, ?_, hopen, rfl, ?_⟩
  · change w.trace ++ [_] = _
    rw [ht]
  · rw [← hr]
    exact hm
  · rw [← hr]
    rfl

/-- A creation registers its filter at an open manager, with the nodes that it opened, or has closed
all that it opened. -/
theorem creation_enrolls {op : Operation} {place : Nat} {kind : FilterKind}
    (hc : op.creation? = some (place, kind)) :
    Yields (Pending room trace h [] []) (op.run P)
      (fun f? w => ∃ f, f? = some f ∧ Enrolled trace h place kind f w) (Dropped room trace h) := by
  rw [Operation.run_eq_register P hc]
  refine (setUp_yields P hc).bind fun nodes => Yields.of_fact fun fits => ?_
  exact (register_enrolls P place fits).bind fun f => Yields.pure fun w hw => ⟨f, rfl, hw⟩

end

end Multiplex.Session
