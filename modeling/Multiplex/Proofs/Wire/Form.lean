import Multiplex.Wire.Cursor
import Mathlib.Tactic

/-!
# Readers and grammars

A `Form` relates values to the bytes that spell them. A reader that `Reads` a form takes a
spelling off the front of its window whatever follows, and fails where there is none; the forms of
a compound reader are those of its parts, one behind the other. A reader of rows stops at a given
distance from the end of its window, so that its success says little by itself: `ReadsUpTo` says
what it took when it left that distance.

Main statements:

* `Reads.bind` and `Reads.bindUpTo`: readers in sequence read forms in sequence;
* `Reads.many`: rows read one by one are a sequence of rows.
-/

namespace Multiplex.Wire

open Multiplex.Calendar

variable {α β γ : Type}

/-- What bytes say: `F a u` if `u` is a spelling of `a`. -/
abbrev Form (α : Type) := α → List UInt8 → Prop

/-- Spellings one after the other. -/
inductive Sequence (F : Form α) : Form (List α)
  | nil : Sequence F [] []
  | cons {a : α} {as : List α} {u v : List UInt8} :
      F a u → Sequence F as v → Sequence F (a :: as) (u ++ v)

/-- `r` takes a spelling off the front, whatever follows it, and takes nothing else. -/
def Reads (F : Form α) (r : Reader α) : Prop :=
  ∀ p w a c, r ⟨p, w⟩ = .ok a c ↔ ∃ u v, w = u ++ v ∧ F a u ∧ c = ⟨p + u.length, v⟩

/-- `r` takes a spelling that ends `k` bytes before the end of the window; where there is none, it
fails or leaves fewer than `k` bytes. -/
def ReadsUpTo (k : Nat) (F : Form α) (r : Reader α) : Prop :=
  ∀ p w a q v, (r ⟨p, w⟩ = .ok a ⟨q, v⟩ ∧ k ≤ v.length) ↔
    ∃ u, w = u ++ v ∧ v.length = k ∧ F a u ∧ q = p + u.length

theorem Reader.bind_eq_ok {r : Reader α} {k : α → Reader β} {c c' : Cursor} {b : β} :
    (r >>= k) c = .ok b c' ↔ ∃ a d, r c = .ok a d ∧ k a d = .ok b c' := by
  change EStateM.bind r k c = _ ↔ _
  unfold EStateM.bind
  cases r c with
  | ok a d => simp
  | error e d => simp

theorem Reader.bind_ok {r : Reader α} {c d : Cursor} {a : α} (h : r c = .ok a d)
    (k : α → Reader β) : (r >>= k) c = k a d := by
  change EStateM.bind r k c = _
  unfold EStateM.bind
  rw [h]

theorem Reader.bind_error {r : Reader α} {c d : Cursor} {e : ReadError} (h : r c = .error e d)
    (k : α → Reader β) : (r >>= k) c = .error e d := by
  change EStateM.bind r k c = _
  unfold EStateM.bind
  rw [h]

theorem Reader.pure_eq_ok {a b : α} {c c' : Cursor} :
    (pure a : Reader α) c = .ok b c' ↔ a = b ∧ c = c' := by
  change EStateM.Result.ok a c = _ ↔ _
  simp

theorem Reads.pure (a : α) : Reads (fun b u => b = a ∧ u = []) (pure a : Reader α) := by
  intro p w b c
  rw [Reader.pure_eq_ok]
  constructor
  · rintro ⟨rfl, rfl⟩
    exact ⟨[], w, rfl, ⟨rfl, rfl⟩, rfl⟩
  · rintro ⟨u, v, rfl, ⟨rfl, rfl⟩, rfl⟩
    exact ⟨rfl, rfl⟩

theorem Reads.congr {F G : Form α} {r : Reader α} (h : Reads F r) (e : ∀ a u, F a u ↔ G a u) :
    Reads G r := by
  intro p w a c
  rw [h p w a c]
  simp only [e]

theorem ReadsUpTo.congr {k : Nat} {F G : Form α} {r : Reader α} (h : ReadsUpTo k F r)
    (e : ∀ a u, F a u ↔ G a u) : ReadsUpTo k G r := by
  intro p w a q v
  rw [h p w a q v]
  simp only [e]

theorem Reads.bind {F : Form α} {G : α → Form β} {r : Reader α} {k : α → Reader β}
    (hr : Reads F r) (hk : ∀ a, Reads (G a) (k a)) :
    Reads (fun b u => ∃ a x y, u = x ++ y ∧ F a x ∧ G a b y) (r >>= k) := by
  intro p w b c
  rw [Reader.bind_eq_ok]
  constructor
  · rintro ⟨a, d, ha, hb⟩
    obtain ⟨x, w', rfl, hx, rfl⟩ := (hr ..).mp ha
    obtain ⟨y, v, rfl, hy, rfl⟩ := (hk a ..).mp hb
    exact ⟨x ++ y, v, by simp, ⟨a, x, y, rfl, hx, hy⟩, by simp [Nat.add_assoc]⟩
  · rintro ⟨_, v, rfl, ⟨a, x, y, rfl, hx, hy⟩, rfl⟩
    refine ⟨a, ⟨p + x.length, y ++ v⟩, (hr ..).mpr ⟨x, y ++ v, by simp, hx, rfl⟩, ?_⟩
    exact (hk a ..).mpr ⟨y, v, rfl, hy, by simp [Nat.add_assoc]⟩

theorem Reads.bindUpTo {k : Nat} {F : Form α} {G : α → Form β} {r : Reader α} {f : α → Reader β}
    (hr : Reads F r) (hf : ∀ a, ReadsUpTo k (G a) (f a)) :
    ReadsUpTo k (fun b u => ∃ a x y, u = x ++ y ∧ F a x ∧ G a b y) (r >>= f) := by
  intro p w b q v
  rw [Reader.bind_eq_ok]
  constructor
  · rintro ⟨⟨a, d, ha, hb⟩, hv⟩
    obtain ⟨x, w', rfl, hx, rfl⟩ := (hr ..).mp ha
    obtain ⟨y, rfl, hk, hy, rfl⟩ := (hf a ..).mp ⟨hb, hv⟩
    exact ⟨x ++ y, by simp, hk, ⟨a, x, y, rfl, hx, hy⟩, by simp [Nat.add_assoc]⟩
  · rintro ⟨_, rfl, hk, ⟨a, x, y, rfl, hx, hy⟩, rfl⟩
    have hb :=
      (hf a (p + x.length) (y ++ v) b (p + x.length + y.length) v).mpr ⟨y, rfl, hk, hy, rfl⟩
    refine ⟨⟨a, ⟨p + x.length, y ++ v⟩, (hr ..).mpr ⟨x, y ++ v, by simp, hx, rfl⟩, ?_⟩, hb.2⟩
    rw [List.length_append, ← Nat.add_assoc]
    exact hb.1

theorem ReadsUpTo.map {k : Nat} {F : Form α} {r : Reader α} (f : α → β) (h : ReadsUpTo k F r) :
    ReadsUpTo k (fun b u => ∃ a, b = f a ∧ F a u) (do return f (← r)) := by
  intro p w b q v
  rw [Reader.bind_eq_ok]
  constructor
  · rintro ⟨⟨a, d, ha, hb⟩, hv⟩
    obtain ⟨rfl, rfl⟩ := Reader.pure_eq_ok.mp hb
    obtain ⟨u, hw, hk, hu, hq⟩ := (h ..).mp ⟨ha, hv⟩
    exact ⟨u, hw, hk, ⟨a, rfl, hu⟩, hq⟩
  · rintro ⟨u, hw, hk, ⟨a, rfl, hu⟩, hq⟩
    obtain ⟨ha, hv⟩ := (h p w a q v).mpr ⟨u, hw, hk, hu, hq⟩
    exact ⟨⟨a, _, ha, Reader.pure_eq_ok.mpr ⟨rfl, rfl⟩⟩, hv⟩

theorem Reads.bytes (n : Nat) : Reads (fun a u => a = u ∧ u.length = n) (Reader.bytes n) := by
  intro p w a c
  unfold Reader.bytes
  by_cases h : Cursor.holds ⟨p, w⟩ n = true
  · have hn : n ≤ w.length := Cursor.holds_iff.mp h
    rw [if_pos h, EStateM.Result.ok.injEq]
    constructor
    · rintro ⟨rfl, rfl⟩
      exact ⟨w.take n, w.drop n, by simp, by simp [hn], by simp [Cursor.advance, hn]⟩
    · rintro ⟨u, v, rfl, ⟨rfl, rfl⟩, rfl⟩
      simp [Cursor.advance]
  · rw [if_neg h]
    constructor
    · intro he
      cases he
    · rintro ⟨u, v, rfl, ⟨rfl, rfl⟩, rfl⟩
      exact absurd (Cursor.holds_iff.mpr (by simp [Cursor.remaining])) h

theorem Sequence.eq_nil {F : Form α} (hF : ∀ a u, F a u → u ≠ []) {as : List α}
    (h : Sequence F as []) :
    as = [] := by
  generalize hu : ([] : List UInt8) = u at h
  cases h with
  | nil => rfl
  | cons ha _ => exact absurd (List.append_eq_nil_iff.mp hu.symm).1 (hF _ _ ha)

theorem Reader.many_of_not {more : Cursor → Bool} {item : Reader α} {c : Cursor}
    (hc : more c = false) : Reader.many more item c = .ok [] c := by
  rw [Reader.many, if_neg (by simp [hc])]

/-- A round that goes on: an item that took something, and the items behind it. -/
theorem Reader.many_eq_ok_iff {more : Cursor → Bool} {item : Reader α} {c c' : Cursor}
    {as : List α} (hc : more c = true)
    (hi : ∀ a d, item c = .ok a d → d.remaining < c.remaining) :
    Reader.many more item c = .ok as c' ↔
      ∃ a d bs, item c = .ok a d ∧ Reader.many more item d = .ok bs c' ∧ as = a :: bs := by
  rw [Reader.many, if_pos hc]
  constructor
  · intro he
    cases hr : item c with
    | error e d => rw [hr] at he; cases he
    | ok a d =>
        rw [hr] at he
        simp only [if_pos (hi a d hr)] at he
        cases hm : Reader.many more item d with
        | error e d' => rw [hm] at he; cases he
        | ok bs d' =>
            rw [hm] at he
            obtain ⟨rfl, rfl⟩ := EStateM.Result.ok.inj he
            exact ⟨a, d, bs, rfl, hm, rfl⟩
  · rintro ⟨a, d, bs, hr, hm, rfl⟩
    simp only [hr, if_pos (hi a d hr), hm]

/-- Items are read as long as more than `k` bytes are to come. -/
theorem Reads.many {k : Nat} {F : Form α} {r : Reader α} (h : Reads F r)
    (hF : ∀ a u, F a u → u ≠ []) :
    ReadsUpTo k (Sequence F) (Reader.many (k < ·.remaining) r) := by
  have progress : ∀ p w a d, r ⟨p, w⟩ = .ok a d → d.window.length < w.length := by
    intro p w a d hr
    obtain ⟨u, v, rfl, hu, rfl⟩ := (h ..).mp hr
    have := List.length_pos_iff.mpr (hF a u hu)
    simp
    omega
  intro p w
  -- On what is to come: each round leaves less of it.
  induction hn : w.length using Nat.strong_induction_on generalizing p w with
  | _ n ih =>
      intro as q v
      by_cases hw : k < w.length
      · rw [Reader.many_eq_ok_iff (decide_eq_true hw) (progress p w)]
        constructor
        · rintro ⟨⟨a, ⟨q', w'⟩, bs, hr, hm, rfl⟩, hv⟩
          have hlt := progress p w a _ hr
          obtain ⟨x, _, rfl, hx, hc⟩ := (h ..).mp hr
          cases hc
          obtain ⟨u, rfl, hk, hs, rfl⟩ := (ih _ (hn ▸ hlt) _ w' rfl ..).mp ⟨hm, hv⟩
          exact ⟨x ++ u, by simp, hk, .cons hx hs, by simp [Nat.add_assoc]⟩
        · rintro ⟨u, rfl, hk, hs, rfl⟩
          cases hs with
          | nil => simp [hk] at hw
          | @cons a as x y hx hs =>
              have hr : r ⟨p, x ++ y ++ v⟩ = .ok a ⟨p + x.length, y ++ v⟩ :=
                (h ..).mpr ⟨x, y ++ v, by simp, hx, rfl⟩
              obtain ⟨hm, hv⟩ := (ih _ (hn ▸ progress _ _ _ _ hr) (p + x.length) (y ++ v) rfl as
                (p + x.length + y.length) v).mpr ⟨y, rfl, hk, hs, rfl⟩
              rw [List.length_append, ← Nat.add_assoc]
              exact ⟨⟨a, _, as, hr, hm, rfl⟩, hv⟩
      · rw [Reader.many_of_not (decide_eq_false hw), EStateM.Result.ok.injEq, Cursor.mk.injEq]
        constructor
        · rintro ⟨⟨rfl, rfl, rfl⟩, hv⟩
          exact ⟨[], rfl, by omega, .nil, rfl⟩
        · rintro ⟨u, rfl, hk, hs, rfl⟩
          have hu : u = [] := List.length_eq_zero_iff.mp (by simp at hw; omega)
          subst hu
          rw [hs.eq_nil hF]
          exact ⟨⟨rfl, rfl, rfl⟩, hk.ge⟩

/-- Items are read to the end of the window. -/
theorem Reads.manyToEnd {F : Form α} {r : Reader α} (h : Reads F r)
    (hF : ∀ a u, F a u → u ≠ []) : ReadsUpTo 0 (Sequence F) (Reader.many (!·.atEnd) r) := by
  have e : (!·.atEnd : Cursor → Bool) = fun c => decide (0 < c.remaining) := by
    funext c
    cases c with
    | mk p w => cases w <;> simp [Cursor.atEnd, Cursor.remaining]
  rw [e]
  exact h.many hF

theorem Reads.map {F : Form α} {r : Reader α} (f : α → β) (h : Reads F r) :
    Reads (fun b u => ∃ a, b = f a ∧ F a u) (do return f (← r)) := by
  refine (h.bind fun a => Reads.pure (f a)).congr fun b u => ?_
  constructor
  · rintro ⟨a, x, y, rfl, hx, rfl, rfl⟩
    exact ⟨a, rfl, by simpa using hx⟩
  · rintro ⟨a, rfl, hu⟩
    exact ⟨a, u, [], by simp, hu, rfl, rfl⟩

theorem Reads.number (n : Nat) :
    Reads (fun a u => a = bigEndian u ∧ u.length = n) (Reader.number n) := by
  refine ((Reads.bytes n).map bigEndian).congr fun a u => ?_
  simp

theorem Reads.u8 : Reads (fun b u => u = [b]) Reader.u8 := by
  refine ((Reads.number 1).map UInt8.ofNat).congr fun b u => ?_
  constructor
  · rintro ⟨_, rfl, rfl, hu⟩
    obtain ⟨c, rfl⟩ := List.length_eq_one_iff.mp hu
    simp [bigEndian]
  · rintro rfl
    exact ⟨b.toNat, by simp, by simp [bigEndian], rfl⟩

theorem Reads.u16 : Reads (fun w u => u = big16 w) Reader.u16 := by
  refine ((Reads.number 2).map UInt16.ofNat).congr fun w u => ?_
  constructor
  · rintro ⟨_, rfl, rfl, hu⟩
    obtain ⟨v, rfl⟩ := exists_big16 hu
    simp
  · rintro rfl
    exact ⟨w.toNat, by simp, by simp, rfl⟩

theorem Reads.u32 : Reads (fun w u => u = big32 w) Reader.u32 := by
  refine ((Reads.number 4).map UInt32.ofNat).congr fun w u => ?_
  constructor
  · rintro ⟨_, rfl, rfl, hu⟩
    obtain ⟨v, rfl⟩ := exists_big32 hu
    simp
  · rintro rfl
    exact ⟨w.toNat, by simp, by simp, rfl⟩

theorem exists_startField {u : List UInt8} (h : u.length = 5) : ∃ f : StartField, u = f.bytes := by
  match u, h with
  | [a, b, c, d, e], _ =>
      obtain ⟨w, hw⟩ := exists_big16 (show [a, b].length = 2 from rfl)
      exact ⟨⟨w, c, d, e⟩, by rw [StartField.bytes, ← hw]; rfl⟩

theorem Reader.start_append (f : StartField) (p : Nat) (v : List UInt8) :
    Reader.start ⟨p, f.bytes ++ v⟩ = match f.decode? with
      | some t => .ok t ⟨p + 5, v⟩
      | none => .error (.invalidStart f) ⟨p + 5, v⟩ := by
  have hb : Reader.bytes 5 ⟨p, f.bytes ++ v⟩ = .ok f.bytes ⟨p + 5, v⟩ :=
    (Reads.bytes 5 ..).mpr ⟨f.bytes, v, rfl, ⟨rfl, rfl⟩, rfl⟩
  have hf : (⟨.ofNat (bigEndian (big16 f.mjd)), f.hour, f.minute, f.second⟩ : StartField) = f := by
    simp
  unfold Reader.start
  change EStateM.bind _ _ _ = _
  rw [EStateM.bind, hb]
  simp only [StartField.bytes, big16, List.cons_append, List.nil_append] at hf ⊢
  rw [hf]
  cases f.decode? <;> rfl

/-- A start field is read to its value, and refused if it has none. -/
theorem Reads.start :
    Reads (fun t u => ∃ f : StartField, u = f.bytes ∧ f.decode? = some t) Reader.start := by
  intro p w t c
  constructor
  · intro he
    obtain ⟨_, _, hb, -⟩ := Reader.bind_eq_ok.mp he
    obtain ⟨u, v, rfl, ⟨rfl, hu⟩, rfl⟩ := (Reads.bytes 5 ..).mp hb
    obtain ⟨f, rfl⟩ := exists_startField hu
    rw [Reader.start_append] at he
    cases hf : f.decode? with
    | none => rw [hf] at he; cases he
    | some t' =>
        rw [hf] at he
        obtain ⟨rfl, rfl⟩ := EStateM.Result.ok.inj he
        exact ⟨f.bytes, v, rfl, ⟨f, rfl, hf⟩, rfl⟩
  · rintro ⟨_, v, rfl, ⟨f, rfl, hf⟩, rfl⟩
    rw [Reader.start_append, hf]
    rfl

theorem Reads.duration :
    Reads (fun d u => ∃ f : DurationField, u = f.bytes ∧ d = f.decode) Reader.duration := by
  intro p w d c
  unfold Reader.duration
  rw [Reader.bind_eq_ok]
  constructor
  · rintro ⟨_, _, hb, he⟩
    obtain ⟨u, v, rfl, ⟨rfl, hu⟩, rfl⟩ := (Reads.bytes 3 ..).mp hb
    obtain ⟨a, b, e, rfl⟩ := List.length_eq_three.mp hu
    obtain ⟨rfl, rfl⟩ := Reader.pure_eq_ok.mp he
    exact ⟨[a, b, e], v, rfl, ⟨⟨a, b, e⟩, rfl, rfl⟩, rfl⟩
  · rintro ⟨_, v, rfl, ⟨f, rfl, rfl⟩, rfl⟩
    exact ⟨f.bytes, _, (Reads.bytes 3 ..).mpr ⟨f.bytes, v, rfl, ⟨rfl, rfl⟩, rfl⟩, rfl⟩

/-- What a reader accepts that takes all of its window. -/
theorem ReadsUpTo.eq_ok_iff {F : Form α} {r : Reader α} (h : ReadsUpTo 0 F r) {c d : Cursor}
    {a : α} : r c = .ok a d ↔ F a c.window ∧ d = ⟨c.stop, []⟩ := by
  constructor
  · intro hr
    obtain ⟨q, v⟩ := d
    obtain ⟨u, hw, hv, hF, rfl⟩ := (h c.position c.window a q v).mp ⟨hr, Nat.zero_le _⟩
    obtain rfl := List.length_eq_zero_iff.mp hv
    rw [List.append_nil] at hw
    rw [Cursor.stop, hw]
    exact ⟨hF, rfl⟩
  · rintro ⟨hF, rfl⟩
    exact ((h ..).mpr ⟨c.window, (List.append_nil _).symm, rfl, hF, rfl⟩).1

/-- A part of the window that is read to its end. -/
theorem ReadsUpTo.within {F : Form α} {r : Reader α} (h : ReadsUpTo 0 F r) (n : Nat) :
    Reads (fun a u => u.length = n ∧ F a u) (do Reader.within (← Reader.sub n) r) := by
  have inner : ∀ (u : List UInt8) (c : Cursor) (a : α) (d : Cursor),
      Reader.within (.ofBytes u) r c = .ok a d ↔ F a u ∧ d = c := by
    intro u c a d
    unfold Reader.within
    constructor
    · intro he
      cases hr : r (.ofBytes u) with
      | error e c' => rw [hr] at he; cases he
      | ok b c' =>
          rw [hr] at he
          obtain ⟨rfl, rfl⟩ := EStateM.Result.ok.inj he
          exact ⟨(h.eq_ok_iff.mp hr).1, rfl⟩
    · rintro ⟨hF, rfl⟩
      rw [h.eq_ok_iff.mpr ⟨hF, rfl⟩]
  intro p w a c
  rw [Reader.bind_eq_ok]
  constructor
  · rintro ⟨_, d, hs, he⟩
    obtain ⟨_, _, hb, hi⟩ := Reader.bind_eq_ok.mp hs
    obtain ⟨rfl, rfl⟩ := Reader.pure_eq_ok.mp hi
    obtain ⟨u, v, rfl, ⟨rfl, hu⟩, rfl⟩ := (Reads.bytes n ..).mp hb
    obtain ⟨hF, rfl⟩ := (inner ..).mp he
    exact ⟨_, v, rfl, ⟨hu, hF⟩, rfl⟩
  · rintro ⟨u, v, rfl, ⟨hu, hF⟩, rfl⟩
    refine ⟨.ofBytes u, ⟨p + u.length, v⟩, ?_, (inner ..).mpr ⟨hF, rfl⟩⟩
    rw [Reader.sub, Reader.bind_eq_ok]
    exact ⟨u, _, (Reads.bytes n ..).mpr ⟨u, v, rfl, ⟨rfl, hu⟩, rfl⟩,
      Reader.pure_eq_ok.mpr ⟨rfl, rfl⟩⟩

end Multiplex.Wire
