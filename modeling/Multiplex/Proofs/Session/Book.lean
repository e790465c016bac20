import Multiplex.Proofs.Session.Ledger

/-!
# A book of what is not closed

Users know what they were given and what they closed, and others know what they asked to be closed.
A `Book` is kept of these alone: what is created is entered, and what a closing names is struck off.
Nothing in it is read off the state of a session. `Book.Matches` says that a session holds just what
stands in the book, and each thing that can happen to holdings keeps that, if it is entered.

Main statements:

* `Book.Matches.close`: a closing takes from the holdings what it strikes off the book;
* `Book.Matches.gain`: what is added to the holdings is what is entered.
-/

namespace Multiplex.Session

open Multiplex.Device Multiplex.Demux

/-- What a filter is known by: its manager, and its handle there. -/
def Filter.key (f : Filter) : Nat × FilterId := (f.manager, f.id)

/-- What a call adds to the holdings. -/
inductive Gain
  | nothing
  | frontend
  | manager
  | filter (filter : Filter)

/-- What was created, and what of it no closing has named since. Frontends are known by their places
in the order in which they were opened. -/
structure Book where
  created : List Filter := []
  filters : List Filter := []
  opened : Nat := 0
  frontends : List Nat := []
  deriving DecidableEq

namespace Book

variable (b : Book)

/-- A filter struck off. -/
def strikeFilter (f : Filter) : Book :=
  { b with filters := b.filters.filter fun g => g.key ≠ f.key }

/-- The filters of a manager struck off. -/
def strikeManager (place : Nat) : Book :=
  { b with filters := b.filters.filter fun g => g.manager ≠ place }

/-- A frontend struck off. -/
def strikeFrontend (place : Nat) : Book :=
  { b with frontends := b.frontends.filter (· ≠ place) }

/-- What a closing leaves. A filter that is to be closed is meant by its place among those that were
created. -/
def close : Closing → Book
  | .filter place => (b.created[place]?).elim b b.strikeFilter
  | .manager place => b.strikeManager place
  | .frontend place => b.strikeFrontend place

/-- What is gained entered. -/
def gain : Gain → Book
  | .nothing | .manager => b
  | .frontend => { b with opened := b.opened + 1, frontends := b.frontends ++ [b.opened] }
  | .filter f => { b with created := b.created ++ [f], filters := b.filters ++ [f] }

end Book

/-- What a gain makes of holdings. A frontend comes open, a manager without filters, and a filter
with nodes of its kind. -/
inductive Holdings.Gains (h : Holdings) : Gain → Holdings → Prop
  | nothing : Gains h .nothing h
  | frontend {f : Frontend} (ho : f.isOpen = true) :
      Gains h .frontend { h with
        frontends := h.frontends ++ [f], held := h.held ++ [h.frontends.length] }
  | manager {m : Manager} (hm : m.filters = .empty) :
      Gains h .manager { h with managers := h.managers ++ [m] }
  | filter {f : Filter} {m : Manager} {n : FilterNodes} (hm : h.managers[f.manager]? = some m)
      (hv : m.filters.Valid) (hi : f.id = (m.filters.insert n).1) (fits : n.Fits f.kind) :
      Gains h (.filter f) (h.enroll f m n)

/-- Filters are those that are registered: each has nodes of its kind, and no other handle has
any. -/
structure Holdings.Registers (h : Holdings) (filters : List Filter) : Prop where
  live : ∀ f ∈ filters, ∃ n, h.nodes? f = some n ∧ n.Fits f.kind
  known : ∀ (f : Filter) (n : FilterNodes), h.nodes? f = some n → ∃ g ∈ filters, g.key = f.key
  distinct : (filters.map Filter.key).Nodup

/-- A session holds what stands in the book, and nothing else. -/
structure Book.Matches (b : Book) (h : Holdings) : Prop where
  filters : h.Registers b.filters
  created : b.created = h.filters
  frontends : ∀ place, place ∈ b.frontends ↔
    ∃ f, h.frontends[place]? = some f ∧ f.isOpen = true
  opened : b.opened = h.frontends.length
  held : h.held = List.range h.frontends.length

/-! ### Filters -/

theorem Filter.key_eq_iff {f g : Filter} : f.key = g.key ↔ f.manager = g.manager ∧ f.id = g.id :=
  Prod.mk.injEq .. ▸ Iff.rfl

/-- A handle leads to what its key leads to. -/
theorem Holdings.nodes?_congr {h : Holdings} {f g : Filter} (he : f.key = g.key) :
    h.nodes? f = h.nodes? g := by
  obtain ⟨hm, hi⟩ := Filter.key_eq_iff.mp he
  unfold nodes?
  rw [hm, hi]

namespace Holdings.Registers

variable {h h' : Holdings} {filters : List Filter}

theorem mem_values_iff (hr : h.Registers filters) {n : FilterNodes} :
    n ∈ h.values ↔ ∃ f ∈ filters, h.nodes? f = some n := by
  rw [Holdings.mem_values_iff]
  constructor
  · rintro ⟨f, hf⟩
    obtain ⟨g, hg, he⟩ := hr.known f n hf
    exact ⟨g, hg, (nodes?_congr he).trans hf⟩
  · rintro ⟨f, -, hf⟩
    exact ⟨f, hf⟩

theorem congr (hr : h.Registers filters) (hn : ∀ f, h'.nodes? f = h.nodes? f) :
    h'.Registers filters := by
  obtain ⟨live, known, distinct⟩ := hr
  refine ⟨fun f hf => ?_, fun f n h => ?_, distinct⟩
  · rw [hn]
    exact live f hf
  · rw [hn] at h
    exact known f n h

/-- Filters are taken out by their keys. -/
theorem filter (hr : h.Registers filters) {p : Filter → Bool}
    (hp : ∀ f g, f.key = g.key → p f = p g)
    (hn : ∀ f, h'.nodes? f = if p f then h.nodes? f else none) :
    h'.Registers (filters.filter p) := by
  refine ⟨fun f hf => ?_, fun f n hf => ?_, ?_⟩
  · obtain ⟨hm, hpf⟩ := List.mem_filter.mp hf
    rw [hn, if_pos hpf]
    exact hr.live f hm
  · rw [hn] at hf
    split_ifs at hf with hpf
    obtain ⟨g, hg, he⟩ := hr.known f n hf
    exact ⟨g, List.mem_filter.mpr ⟨hg, (hp g f he).trans hpf⟩, he⟩
  · exact hr.distinct.sublist (List.filter_sublist.map Filter.key)

/-- A filter comes under a handle that led nowhere. -/
theorem concat (hr : h.Registers filters) {f : Filter} {n : FilterNodes}
    (vacant : h.nodes? f = none) (fits : n.Fits f.kind)
    (hn : ∀ g, h'.nodes? g = if g.key = f.key then some n else h.nodes? g) :
    h'.Registers (filters ++ [f]) := by
  have fresh : ∀ g ∈ filters, g.key ≠ f.key := by
    intro g hg he
    obtain ⟨v, hv, -⟩ := hr.live g hg
    rw [nodes?_congr he, vacant] at hv
    cases hv
  refine ⟨fun g hg => ?_, fun g v hg => ?_, ?_⟩
  · rw [hn]
    rcases List.mem_append.mp hg with hg | hg
    · rw [if_neg (fresh g hg)]
      exact hr.live g hg
    · obtain rfl := List.mem_singleton.mp hg
      exact ⟨n, if_pos rfl, fits⟩
  · rw [hn] at hg
    split_ifs at hg with he
    · exact ⟨f, by simp, he.symm⟩
    · obtain ⟨k, hk, he⟩ := hr.known g v hg
      exact ⟨k, List.mem_append_left _ hk, he⟩
  · rw [List.map_append, List.nodup_append']
    refine ⟨hr.distinct, List.nodup_singleton _, ?_⟩
    rintro k hk hk'
    obtain ⟨g, hg, rfl⟩ := List.mem_map.mp hk
    exact fresh g hg (by simpa using hk')

end Holdings.Registers

namespace Book.Matches

variable {b : Book} {h h' : Holdings}

/-- Filters are taken from the holdings and struck off. -/
theorem strike (hb : b.Matches h) {p : Filter → Bool} (hp : ∀ f g, f.key = g.key → p f = p g)
    (hn : ∀ f, h'.nodes? f = if p f then h.nodes? f else none) (frame : Holdings.Frame h h')
    (same : h'.frontends = h.frontends) :
    Matches { b with filters := b.filters.filter p } h' := by
  refine ⟨hb.filters.filter hp hn, hb.created.trans frame.filters.symm, ?_, ?_, ?_⟩
  · rw [same]
    exact hb.frontends
  · rw [same]
    exact hb.opened
  · rw [same, frame.held]
    exact hb.held

theorem withdraw (hb : b.Matches h) (f : Filter) : (b.strikeFilter f).Matches (h.withdraw f) := by
  refine hb.strike (fun g k he => by simp [he]) (fun g => ?_) (Holdings.frame_withdraw f)
    (Holdings.frontends_withdraw f)
  rw [Holdings.nodes?_withdraw]
  by_cases he : g.key = f.key
  · simp [he, Filter.key_eq_iff.mp he]
  · rw [if_neg fun hk => he (Filter.key_eq_iff.mpr hk), if_pos (by simpa using he)]

theorem dissolve (hb : b.Matches h) (place : Nat) :
    (b.strikeManager place).Matches (h.dissolve place) := by
  refine hb.strike (fun g k he => by simp [(Filter.key_eq_iff.mp he).1]) (fun g => ?_)
    (Holdings.frame_dissolve place) (Holdings.frontends_dissolve place)
  rw [Holdings.nodes?_dissolve]
  simp

theorem shut (hb : b.Matches h) (place : Nat) :
    (b.strikeFrontend place).Matches (h.shut place) := by
  have frame := Holdings.frame_shut place (h := h)
  refine ⟨hb.filters.congr (Holdings.nodes?_shut place), hb.created.trans frame.filters.symm,
    fun p => ?_, ?_, ?_⟩
  · simp only [strikeFrontend, List.mem_filter, decide_eq_true_iff, hb.frontends]
    cases hp : h.frontends[p]? with
    | none =>
        have hn : (h.shut place).frontends[p]? = none := by
          rw [List.getElem?_eq_none_iff] at hp ⊢
          exact frame.frontends.trans_le hp
        simp [hn]
    | some f =>
        rw [Holdings.frontends_shut hp]
        simp [ne_comm]
  · rw [frame.frontends]
    exact hb.opened
  · rw [frame.frontends, frame.held]
    exact hb.held

/-- A frontend that was not opened need not be struck off. -/
theorem strikeFrontend_eq_self (hb : b.Matches h) {place : Nat}
    (hp : h.frontends.length ≤ place) : b.strikeFrontend place = b := by
  have hall : b.frontends.filter (· ≠ place) = b.frontends := by
    refine List.filter_eq_self.mpr fun p hm => ?_
    obtain ⟨f, hf, -⟩ := (hb.frontends p).mp hm
    have := (List.getElem?_eq_some_iff.mp hf).1
    simp
    omega
  unfold strikeFrontend
  rw [hall]

/-- A closing takes from the holdings what it strikes off the book. -/
theorem close (hb : b.Matches h) (c : Closing) : (b.close c).Matches (h.close c) := by
  cases c with
  | filter place =>
      change ((b.created[place]?).elim b b.strikeFilter).Matches
        ((h.filters[place]?).elim h h.withdraw)
      rw [hb.created]
      cases h.filters[place]? with
      | none => exact hb
      | some f => exact hb.withdraw f
  | manager place => exact hb.dissolve place
  | frontend place =>
      change (b.strikeFrontend place).Matches ((h.held[place]?).elim h h.shut)
      rw [hb.held]
      by_cases hp : place < h.frontends.length
      · rw [List.getElem?_range hp]
        exact hb.shut place
      · rw [hb.strikeFrontend_eq_self (Nat.le_of_not_lt hp),
          List.getElem?_eq_none (by simpa using hp)]
        exact hb

/-- What is added to the holdings is what is entered. -/
theorem gain (hb : b.Matches h) {gain : Gain} (hg : h.Gains gain h') : (b.gain gain).Matches h' := by
  cases hg with
  | nothing => exact hb
  | @frontend f ho =>
      refine ⟨hb.filters.congr fun _ => rfl, hb.created, fun place => ?_, ?_, ?_⟩
      · simp only [Book.gain, List.mem_append, List.mem_singleton, hb.frontends, hb.opened]
        rcases Nat.lt_trichotomy place h.frontends.length with hp | rfl | hp
        · simp [List.getElem?_append_left hp, hp.ne]
        · simp [ho]
        · simp [List.getElem?_eq_none, hp.le, hp.ne', Nat.succ_le_of_lt hp]
      · simp [Book.gain, hb.opened]
      · simp [hb.held, List.range_succ]
  | manager hm =>
      exact ⟨hb.filters.congr (Holdings.nodes?_concat hm rfl), hb.created, hb.frontends, hb.opened,
        hb.held⟩
  | @filter f m n hm hv hi fits =>
      have vacant : h.nodes? f = none := by
        unfold Holdings.nodes?
        rw [hm, Option.bind_some, hi]
        exact Registry.get?_insert_id hv n
      refine ⟨hb.filters.concat vacant fits fun g => ?_, congrArg (· ++ [f]) hb.created,
        hb.frontends, hb.opened, hb.held⟩
      rw [Holdings.nodes?_enroll hm hv hi]
      simp only [Filter.key_eq_iff]

end Book.Matches

end Multiplex.Session
