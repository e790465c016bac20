import Multiplex.Program.Dump

/-!
# What a dump shows

A dump meets results one after the other: bytes, or failures to read. A result is good if its
bytes are a section and, where that matters, have a right checksum; it is fatal if it is a failure
that did not just lose data. A dump shows the good sections before the first fatal failure, in the
order in which they were read, and of these no more than were asked for. It reads on as long as this
leaves something to be shown, and not once more.

Main statements:

* `Heard.cons`: what a dump has heard, with one result more in front;
* `dump_shows_good_sections`: what a dump does that meets some results, and how it ends.
-/

namespace Multiplex.Program

open Multiplex.Session

/-- What a read came to. -/
abbrev ReadResult := Except Failure (List UInt8)

/-- A failure after which nothing can be read any more. -/
def ReadResult.isFatal : ReadResult → Bool
  | .ok _ => false
  | .error f => !f.isOverflow

/-- Whether `k` sections are as many as were asked for. -/
def reached (count? : Option Nat) (k : Nat) : Bool := count?.any (· ≤ k)

/-- The first ones, as many as were asked for. -/
def cut {α : Type} (count? : Option Nat) (l : List α) : List α :=
  match count? with
  | none => l
  | some n => l.take n

namespace SectionRequest

variable (r : SectionRequest)

/-- The section of a good result. -/
def good? : ReadResult → Option Section
  | .ok raw => if r.trusts raw then (Section.decode raw).toOption else none
  | .error _ => none

/-- The good sections before the first fatal failure. -/
def good (results : List ReadResult) : List Section :=
  (results.takeWhile (!·.isFatal)).filterMap r.good?

/-- A dump is not over after these results: none was fatal, and more sections were asked for than
were good. -/
def GoesOn (count? : Option Nat) (results : List ReadResult) : Prop :=
  (∀ x ∈ results, x.isFatal = false) ∧
    reached count? (results.filterMap r.good?).length = false

/-- How a dump ends that meets these results. -/
def ending (count? : Option Nat) (results : List ReadResult) : DumpEnd :=
  if reached count? (r.good results).length then .complete
  else if results.any (·.isFatal) then .failed
  else .silent

end SectionRequest

/-! ### One result -/

section

variable {r : SectionRequest} {count? : Option Nat} {x : ReadResult} {results : List ReadResult}

/-- How many sections are still asked for after a result. -/
def SectionRequest.leftAfter (r : SectionRequest) (count? : Option Nat) (x : ReadResult) :
    Option Nat :=
  count?.map (· - (r.good? x).toList.length)

theorem reached_zero (h : count? ≠ some 0) : reached count? 0 = false := by
  cases count? with
  | none => rfl
  | some n =>
      have hn : n ≠ 0 := fun hn => h (congrArg some hn)
      simpa [reached] using hn

theorem reached_leftAfter (k : Nat) :
    reached (r.leftAfter count? x) k = reached count? ((r.good? x).toList.length + k) := by
  cases count? with
  | none => rfl
  | some n =>
      simp only [reached, SectionRequest.leftAfter, Option.map_some, Option.any_some]
      exact decide_eq_decide.mpr (by omega)

/-- One section at most is good of a result, and one at least is asked for. -/
theorem cut_append_good (h : count? ≠ some 0) (l : List Section) :
    cut count? ((r.good? x).toList ++ l) = (r.good? x).toList ++ cut (r.leftAfter count? x) l := by
  cases count? with
  | none => rfl
  | some n =>
      have hn : n ≠ 0 := fun hn => h (congrArg some hn)
      have hl : (r.good? x).toList.length ≤ n := by
        have := Option.length_toList_le (o := r.good? x)
        omega
      change List.take n _ = _ ++ List.take (n - _) l
      rw [List.take_append, List.take_of_length_le hl]

theorem good?_of_fatal (hx : x.isFatal = true) : r.good? x = none := by
  cases x with
  | ok raw => cases hx
  | error f => rfl

theorem filterMap_good?_cons (x : ReadResult) (results : List ReadResult) :
    (x :: results).filterMap r.good? = (r.good? x).toList ++ results.filterMap r.good? := by
  cases h : r.good? x with
  | none => rw [List.filterMap_cons_none h]; rfl
  | some s => rw [List.filterMap_cons_some h]; rfl

theorem good_cons (hx : x.isFatal = false) :
    r.good (x :: results) = (r.good? x).toList ++ r.good results := by
  unfold SectionRequest.good
  rw [List.takeWhile_cons_of_pos (by rw [hx]; rfl), filterMap_good?_cons]

theorem good_cons_fatal (hx : x.isFatal = true) : r.good (x :: results) = [] := by
  unfold SectionRequest.good
  rw [List.takeWhile_cons_of_neg (by rw [hx]; decide)]
  rfl

theorem goesOn_nil (h : count? ≠ some 0) : r.GoesOn count? [] :=
  ⟨fun _ hx => absurd hx List.not_mem_nil, reached_zero h⟩

theorem goesOn_cons (hx : x.isFatal = false) :
    r.GoesOn count? (x :: results) ↔ r.GoesOn (r.leftAfter count? x) results := by
  unfold SectionRequest.GoesOn
  rw [filterMap_good?_cons, List.length_append, reached_leftAfter, List.forall_mem_cons]
  simp only [hx, true_and]

theorem reached_cut {l : List Section} (h : reached count? l.length = false) :
    reached count? (cut count? l).length = false := by
  cases count? with
  | none => rfl
  | some n =>
      have hn : ¬ n ≤ l.length := of_decide_eq_false h
      have hcut : ¬ n ≤ (l.take n).length := by
        rw [List.length_take]
        omega
      exact decide_eq_false hcut

theorem ending_of_reached (h : reached count? (r.good results).length = true) :
    r.ending count? results = .complete := by
  unfold SectionRequest.ending
  rw [if_pos h]

theorem ending_of_fatal (h : reached count? (r.good results).length = false)
    (hx : ∃ x ∈ results, x.isFatal = true) : r.ending count? results = .failed := by
  unfold SectionRequest.ending
  rw [h, if_neg Bool.false_ne_true, if_pos (List.any_eq_true.mpr hx)]

theorem ending_of_open (h : reached count? (r.good results).length = false)
    (hx : ∀ x ∈ results, x.isFatal = false) : r.ending count? results = .silent := by
  have hany : results.any (·.isFatal) = false := by
    rw [List.any_eq_false]
    intro x hm
    rw [hx x hm]
    exact Bool.false_ne_true
  unfold SectionRequest.ending
  rw [h, hany]
  rfl

theorem ending_complete (results : List ReadResult) : r.ending (some 0) results = .complete :=
  ending_of_reached (decide_eq_true (Nat.zero_le (r.good results).length))

theorem ending_silent (h : count? ≠ some 0) : r.ending count? [] = .silent :=
  ending_of_open (reached_zero h) fun _ hx => absurd hx List.not_mem_nil

theorem ending_cons (hx : x.isFatal = false) :
    r.ending count? (x :: results) = r.ending (r.leftAfter count? x) results := by
  unfold SectionRequest.ending
  rw [good_cons hx, List.length_append, reached_leftAfter, List.any_cons, hx, Bool.false_or]

theorem ending_cons_fatal (h : count? ≠ some 0) (hx : x.isFatal = true) :
    r.ending count? (x :: results) = .failed := by
  refine ending_of_fatal ?_ ⟨x, List.mem_cons_self, hx⟩
  rw [good_cons_fatal hx]
  exact reached_zero h

/-- What a dump has heard when it ends: it has read `read`, and not `unread`. -/
structure Heard (r : SectionRequest) (count? : Option Nat) (read unread : List ReadResult) :
    Prop where
  shown : read.filterMap r.good? = cut count? (r.good (read ++ unread))
  /-- Before each result, it was not over. -/
  before : ∀ i < read.length, r.GoesOn count? (read.take i)
  /-- If it is not over, there was nothing more to read. -/
  after : r.GoesOn count? read → unread = []

namespace Heard

variable {read unread : List ReadResult}

theorem complete (unread : List ReadResult) : Heard r (some 0) [] unread where
  shown := rfl
  before i hi := absurd hi (Nat.not_lt_zero i)
  after h := by
    have hs : true = false := h.2
    cases hs

theorem silent (count? : Option Nat) : Heard r count? [] [] where
  shown := by cases count? <;> simp [cut, SectionRequest.good]
  before i hi := absurd hi (Nat.not_lt_zero i)
  after _ := rfl

theorem failed (h : count? ≠ some 0) (hx : x.isFatal = true) (unread : List ReadResult) :
    Heard r count? [x] unread where
  shown := by
    rw [filterMap_good?_cons, good?_of_fatal hx, List.singleton_append, good_cons_fatal hx]
    cases count? <;> simp [cut]
  before i hi := by
    obtain rfl := Nat.lt_one_iff.mp hi
    exact goesOn_nil h
  after hgo := by
    have hx' := hgo.1 x (List.mem_singleton_self x)
    rw [hx] at hx'
    cases hx'

/-- A result that is not fatal is shown if it is good, and the dump goes on with what is left to be
shown. -/
theorem cons (h : count? ≠ some 0) (hx : x.isFatal = false)
    (hd : Heard r (r.leftAfter count? x) read unread) : Heard r count? (x :: read) unread where
  shown := by
    rw [filterMap_good?_cons, hd.shown, List.cons_append, good_cons hx, cut_append_good h]
  before i hi := by
    cases i with
    | zero => exact goesOn_nil h
    | succ i => exact (goesOn_cons hx).mpr (hd.before i (Nat.lt_of_succ_lt_succ hi))
  after hgo := hd.after ((goesOn_cons hx).mp hgo)

end Heard

/-! ### What becomes of a result -/

/-- Bytes are shown if they are good, and skipped otherwise. -/
theorem exists_judgeBytes_eq (r : SectionRequest) (raw : List UInt8) :
    ∃ warning, r.judgeBytes raw =
      match r.good? (.ok raw) with
      | some s => .shown s
      | none => .skipped warning := by
  unfold SectionRequest.judgeBytes
  change ∃ warning, _ = match if r.trusts raw then (Section.decode raw).toOption else none with
    | some s => Verdict.shown s
    | none => .skipped warning
  cases r.trusts raw with
  | false => exact ⟨_, rfl⟩
  | true =>
      cases Section.decode raw with
      | error cause => exact ⟨_, rfl⟩
      | ok s => exact ⟨"", rfl⟩

theorem judge_of_good {s : Section} (hs : r.good? x = some s) :
    r.judge (x.map some) = .shown s := by
  cases x with
  | error f => cases hs
  | ok raw =>
      obtain ⟨warning, h⟩ := exists_judgeBytes_eq r raw
      rw [hs] at h
      exact h

theorem exists_judge_of_bad (hs : r.good? x = none) (hx : x.isFatal = false) :
    ∃ warning, r.judge (x.map some) = .skipped warning := by
  cases x with
  | error f =>
      have hf : f.isOverflow = true := Bool.not_eq_eq_eq_not.mp hx
      change ∃ warning, r.judgeFailure f = .skipped warning
      unfold SectionRequest.judgeFailure
      rw [if_pos hf]
      exact ⟨_, rfl⟩
  | ok raw =>
      obtain ⟨warning, h⟩ := exists_judgeBytes_eq r raw
      rw [hs] at h
      exact ⟨warning, h⟩

theorem exists_judge_of_fatal (hx : x.isFatal = true) :
    ∃ error, r.judge (x.map some) = .fatal error := by
  cases x with
  | ok raw => cases hx
  | error f =>
      have hf : f.isOverflow = false := Bool.not_eq_eq_eq_not.mp hx
      change ∃ error, r.judgeFailure f = .fatal error
      unfold SectionRequest.judgeFailure
      rw [hf, if_neg Bool.false_ne_true]
      cases f.isTimeout with
      | true => exact ⟨_, rfl⟩
      | false => exact ⟨_, rfl⟩

end

/-! ### Scripts -/

section

variable {m : Type → Type} [Monad m]

/-- Reads that come to the results of a list, one after the other. Once all were read, there is
nothing more to be said. -/
def scripted : StateT (List ReadResult) m (Except Failure (Option (List UInt8))) := do
  match ← get with
  | [] => return .ok none
  | x :: rest =>
    set rest
    return x.map some

/-- What is said of a result that is not good. -/
def SectionRequest.remark (r : SectionRequest) (say : Level → String → m Unit) (x : ReadResult) :
    m Unit :=
  match r.judge (x.map some) with
  | .skipped warning => say .warning warning
  | .fatal error => say .error error
  | .shown _ | .silent => return

/-- What becomes of a result: a good one is rendered, of any other something is said. -/
def SectionRequest.react (r : SectionRequest) (render : Section → m Unit)
    (say : Level → String → m Unit) (x : ReadResult) : m Unit :=
  match r.good? x with
  | some s => render s
  | none => r.remark say x

section

variable (r : SectionRequest) (render : Section → m Unit) (say : Level → String → m Unit)

/-- A dump of what a script gives. -/
def dumpScript (rounds : Nat) (left? : Option Nat) : StateT (List ReadResult) m DumpEnd :=
  dump r scripted (fun s => StateT.lift (render s)) (fun level text => StateT.lift (say level text))
    rounds left?

theorem dumpScript_complete (rounds : Nat) :
    dumpScript r render say rounds (some 0) = return .complete := by
  cases rounds <;> rfl

/-- A round. -/
theorem dumpScript_succ {rounds : Nat} {left? : Option Nat} (h : left? ≠ some 0) :
    dumpScript r render say (rounds + 1) left? = do
      match r.judge (← scripted) with
      | .shown s =>
        StateT.lift (render s)
        dumpScript r render say rounds (left?.map (· - 1))
      | .skipped warning =>
        StateT.lift (say .warning warning)
        dumpScript r render say rounds left?
      | .fatal error =>
        StateT.lift (say .error error)
        return .failed
      | .silent => return .silent := by
  cases left? with
  | none => rfl
  | some n =>
      cases n with
      | zero => exact absurd rfl h
      | succ n => rfl

variable [LawfulMonad m]

/-- When all was read, a dump waits for more. -/
theorem run_dumpScript_nil {left? : Option Nat} (h : left? ≠ some 0) (rounds : Nat) :
    (dumpScript r render say rounds left?).run [] = return (.silent, []) := by
  cases rounds with
  | zero =>
      cases left? with
      | none => rfl
      | some n =>
          cases n with
          | zero => exact absurd rfl h
          | succ n => rfl
  | succ rounds =>
      rw [dumpScript_succ r render say h]
      simp [scripted, SectionRequest.judge]

/-- A result that is not fatal. -/
theorem run_dumpScript_cons {left? : Option Nat} (h : left? ≠ some 0) (rounds : Nat)
    {x : ReadResult} (hx : x.isFatal = false) (rest : List ReadResult) :
    (dumpScript r render say (rounds + 1) left?).run (x :: rest) =
      r.react render say x >>= fun _ =>
        (dumpScript r render say rounds (r.leftAfter left? x)).run rest := by
  rw [dumpScript_succ r render say h]
  unfold SectionRequest.react SectionRequest.leftAfter
  cases hs : r.good? x with
  | some s =>
      simp [scripted, judge_of_good hs]
  | none =>
      obtain ⟨warning, hw⟩ := exists_judge_of_bad hs hx
      simp [scripted, hw, SectionRequest.remark]

theorem run_dumpScript_fatal {left? : Option Nat} (h : left? ≠ some 0) (rounds : Nat)
    {x : ReadResult} (hx : x.isFatal = true) (rest : List ReadResult) :
    (dumpScript r render say (rounds + 1) left?).run (x :: rest) = do
      r.react render say x
      return (.failed, rest) := by
  obtain ⟨error, he⟩ := exists_judge_of_fatal (r := r) hx
  rw [dumpScript_succ r render say h]
  unfold SectionRequest.react
  rw [good?_of_fatal hx]
  simp [scripted, he, SectionRequest.remark]

/-- What a dump does that meets some results: it hears a part of them, reacts to each, and ends. -/
def Dumps (rounds : Nat) (left? : Option Nat) (results : List ReadResult) : Prop :=
  ∃ read unread, read ++ unread = results ∧ Heard r left? read unread ∧
    (dumpScript r render say rounds left?).run results = do
      read.forM (r.react render say)
      return (r.ending left? results, unread)

theorem dumps_complete (rounds : Nat) (results : List ReadResult) :
    Dumps r render say rounds (some 0) results := by
  refine ⟨[], results, rfl, .complete results, ?_⟩
  rw [dumpScript_complete, ending_complete]
  simp

theorem dumps_script (results : List ReadResult) (more : Nat) (left? : Option Nat) :
    Dumps r render say (results.length + more) left? results := by
  -- A section that is shown leaves fewer to be shown: the induction is for any number of them.
  induction results generalizing left? with
  | nil =>
      by_cases h : left? = some 0
      · rw [h]
        exact dumps_complete r render say _ []
      · refine ⟨[], [], rfl, .silent left?, ?_⟩
        rw [run_dumpScript_nil r render say h, ending_silent h]
        simp
  | cons x rest ih =>
      by_cases h : left? = some 0
      · rw [h]
        exact dumps_complete r render say _ (x :: rest)
      rw [List.length_cons, Nat.add_right_comm]
      cases hx : x.isFatal with
      | true =>
          refine ⟨[x], rest, rfl, .failed h hx rest, ?_⟩
          rw [run_dumpScript_fatal r render say h _ hx, ending_cons_fatal h hx]
          simp
      | false =>
          obtain ⟨read, unread, rfl, heard, hrun⟩ := ih (r.leftAfter left? x)
          refine ⟨x :: read, unread, rfl, heard.cons h hx, ?_⟩
          rw [run_dumpScript_cons r render say h _ hx, hrun, ending_cons hx]
          simp

/-- A dump that meets some results reads them one after the other, and shows those that are good. What
it shows are the good sections before the first fatal failure, cut to as many as were asked for. It
reads once more exactly as long as it is not over: nothing that it has read was fatal, and it has
shown fewer sections than were asked for. It ends with code 0 if these are reached, and with code 1
if a fatal failure comes first; as long as neither happens, it reads on. -/
theorem dump_shows_good_sections (results : List ReadResult) (more : Nat) :
    ∃ read unread ending, read ++ unread = results ∧
      (dump r scripted (fun s => StateT.lift (render s))
          (fun level text => StateT.lift (say level text)) (results.length + more)
          r.count?).run results = (do
        read.forM fun x =>
          match r.good? x with
          | some s => render s
          | none => r.remark say x
        return (ending, unread)) ∧
      read.filterMap r.good? = cut r.count? (r.good results) ∧
      (∀ i < read.length, r.GoesOn r.count? (read.take i)) ∧
      (r.GoesOn r.count? read → unread = []) ∧
      (reached r.count? (r.good results).length = true → ending = .complete ∧ ending.code = 0) ∧
      (reached r.count? (r.good results).length = false →
        ((∃ x ∈ results, x.isFatal = true) → ending = .failed ∧ ending.code = 1) ∧
        ((∀ x ∈ results, x.isFatal = false) → ending = .silent ∧ unread = [])) := by
  obtain ⟨read, unread, split, heard, hrun⟩ := dumps_script r render say results more r.count?
  have shown : read.filterMap r.good? = cut r.count? (r.good results) := by
    rw [heard.shown, split]
  refine ⟨read, unread, _, split, hrun, shown, heard.before, heard.after, ?_, ?_⟩
  · intro h
    rw [ending_of_reached h]
    exact ⟨rfl, rfl⟩
  · intro h
    refine ⟨?_, ?_⟩
    · intro hx
      rw [ending_of_fatal h hx]
      exact ⟨rfl, rfl⟩
    · intro hx
      refine ⟨ending_of_open h hx, heard.after ⟨?_, ?_⟩⟩
      · intro x hr
        exact hx x (split ▸ List.mem_append_left unread hr)
      · rw [shown]
        exact reached_cut h

end

end

/-- A section without rows, its checksum right. -/
def bare : Section := ⟨⟨.pat, 7, 0, true, 0, 0⟩, .pat ⟨[]⟩, 0x2FCD06CB⟩

/-- Its bytes. -/
def bareBytes : List UInt8 :=
  [0x00, 0xB0, 0x09, 0x00, 0x07, 0xC1, 0x00, 0x00, 0x2F, 0xCD, 0x06, 0xCB]

/-- Lost data, bytes that are no section, a section with a wrong checksum, two sections with the right
one, and a failure for good. -/
def mixed : List ReadResult :=
  [.error (.command "read" (.code 75)), .ok [0x00], .ok (bareBytes.set 3 0xFF), .ok bareBytes,
    .ok bareBytes, .error (.system .timedOut)]

/-- One section, its checksum right. -/
def picky : SectionRequest := { pid := 0, table := 0, count? := some 1, verify := true }

/-- The dump shows the first of the two good sections, and ends with it. -/
theorem dump_shows_good_sections_mixed : ∃ read unread ending, read ++ unread = mixed ∧
    (dump picky scripted (fun s => StateT.lift (modify (· ++ [s])))
      (fun _ _ => StateT.lift (return)) mixed.length picky.count?).run mixed = (do
        read.forM fun x =>
          match picky.good? x with
          | some s => modify (· ++ [s])
          | none => picky.remark (fun _ _ => return) x
        return (ending, unread) : StateM (List Section) _) ∧
    read.filterMap picky.good? = [bare] ∧ ending = .complete ∧ ending.code = 0 := by
  have hgood : picky.good mixed = [bare, bare] := by decide +kernel
  obtain ⟨read, unread, ending, split, hrun, shown, -, -, complete, -⟩ :=
    dump_shows_good_sections (m := StateM (List Section)) picky (fun s => modify (· ++ [s]))
      (fun _ _ => return) mixed 0
  rw [hgood] at shown complete
  obtain ⟨rfl, hcode⟩ := complete rfl
  exact ⟨read, unread, _, split, hrun, shown, rfl, hcode⟩

end Multiplex.Program
