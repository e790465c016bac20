import Multiplex.Proofs.Section.Reading
import Multiplex.Proofs.Wire.Bounds

/-!
# Cursors stay in their windows

A run of requests on a cursor, and on the cursors that it hands out over parts of its window. Each
cursor lies in the buffer it was made over, at every moment of every run: a read of so many bytes
takes just these bytes of the buffer, or leaves the cursor alone and tells what was wanted and what
there is.

Main statements:

* `Request.read_of_le`, `Request.read_of_lt`: what a read of a fixed width does;
* `Request.after_liesIn`, `Request.obeys`: what one request keeps, and what it does;
* `cursors_stay_within`: what holds of every cursor after every run, and of what is asked next.
-/

namespace Multiplex.Section

open Multiplex.Wire Multiplex.Calendar

/-- What is asked of a cursor. -/
inductive Request
  | u8
  | u16
  | u24
  | u32
  | bytes (n : Nat)
  /-- A cursor over the next `n` bytes. -/
  | sub (n : Nat)
  /-- An end of the window at position `n`. -/
  | truncate (n : Nat)
  | start
  | duration
  /-- Records to the end of the window. -/
  | descriptors

/-- What a cursor gives. -/
inductive Answer
  | number (n : Nat)
  | bytes (taken : List UInt8)
  | inner (c : Cursor)
  | truncated
  | start (t : Option DateTime)
  | duration (d : Duration)
  | descriptors (ds : List Descriptor)

namespace Request

/-- The reader of a request. -/
def read : Request → Reader Answer
  | u8 => return .number (← Reader.u8).toNat
  | u16 => return .number (← Reader.u16).toNat
  | u24 => return .number (← Reader.u24).toNat
  | u32 => return .number (← Reader.u32).toNat
  | bytes n => return .bytes (← Reader.bytes n)
  | sub n => return .inner (← Reader.sub n)
  | truncate n => do
    Reader.truncate n
    return .truncated
  | start => return .start (← Reader.start)
  | duration => return .duration (← Reader.duration)
  | descriptors => return .descriptors (← Descriptor.readAll)

/-- The number of bytes that a request takes, where it is the same in every window. -/
def width? : Request → Option Nat
  | u8 => some 1
  | u16 => some 2
  | u24 => some 3
  | u32 => some 4
  | bytes n => some n
  | sub n => some n
  | start => some 5
  | duration => some 3
  | truncate _ => none
  | descriptors => none

/-- What the bytes that a request takes say: numbers have their most significant byte first, and a
cursor over them stands at their start. -/
inductive Says : Request → List UInt8 → Answer → Prop
  | u8 (taken : List UInt8) : Says u8 taken (.number (bigEndian taken))
  | u16 (taken : List UInt8) : Says u16 taken (.number (bigEndian taken))
  | u24 (taken : List UInt8) : Says u24 taken (.number (bigEndian taken))
  | u32 (taken : List UInt8) : Says u32 taken (.number (bigEndian taken))
  | bytes (taken : List UInt8) : Says (bytes taken.length) taken (.bytes taken)
  | sub (taken : List UInt8) : Says (sub taken.length) taken (.inner ⟨0, taken⟩)
  | start {f : StartField} {t : Option DateTime} (names : f.Names t) :
      Says start f.bytes (.start t)
  | duration (f : DurationField) : Says duration f.bytes (.duration f.decode)

end Request

/-! ### Reads of a fixed width -/

theorem bigEndian_lt (bytes : List UInt8) : bigEndian bytes < 256 ^ bytes.length := by
  induction bytes using List.reverseRecOn with
  | nil => decide
  | append_singleton front b ih =>
      have hb := b.toNat_lt
      have e : bigEndian (front ++ [b]) = bigEndian front * 256 + b.toNat := by simp [bigEndian]
      rw [e, List.length_append, List.length_singleton, pow_succ]
      omega

/-- The number of the next bytes. -/
theorem number_of_le {c : Cursor} {n : Nat} (h : n ≤ c.remaining) :
    Reader.number n c = .ok (bigEndian (c.window.take n)) (c.advance n) ∧
      bigEndian (c.window.take n) < 256 ^ n := by
  have hl : (c.window.take n).length = n := by
    rw [List.length_take]
    exact Nat.min_eq_left h
  have hlt := bigEndian_lt (c.window.take n)
  rw [hl] at hlt
  exact ⟨Reader.bind_ok (Reader.bytes_of_le h) _, hlt⟩

/-- A number read as a word of at least its width is that number. -/
theorem word_of_le {β : Type} {c : Cursor} {n : Nat} (word : Nat → β) (toNat : β → Nat)
    (hw : ∀ m < 256 ^ n, toNat (word m) = m) (h : n ≤ c.remaining) :
    ((do return word (← Reader.number n)) >>= fun w => pure (Answer.number (toNat w))) c =
      .ok (.number (bigEndian (c.window.take n))) (c.advance n) := by
  obtain ⟨hn, hlt⟩ := number_of_le h
  have hr : (do return word (← Reader.number n) : Reader β) c =
      .ok (word (bigEndian (c.window.take n))) (c.advance n) := Reader.bind_ok hn _
  rw [Reader.bind_ok hr, hw _ hlt]
  rfl

theorem start_of_le {c : Cursor} (h : 5 ≤ c.remaining) :
    ∃ f : StartField, f.bytes = c.window.take 5 ∧
      Reader.start c = match f.decode? with
        | some t => .ok t (c.advance 5)
        | none => .error (.invalidStart f) (c.advance 5) := by
  obtain ⟨f, hf⟩ := exists_startField (u := c.window.take 5) (by simpa [Cursor.remaining] using h)
  refine ⟨f, hf.symm, ?_⟩
  have hw : c = ⟨c.position, f.bytes ++ c.window.drop 5⟩ := by
    rw [← hf, List.take_append_drop]
  rw [hw, Reader.start_append, ← hw]
  rfl

theorem duration_of_le {c : Cursor} (h : 3 ≤ c.remaining) :
    ∃ f : DurationField, f.bytes = c.window.take 3 ∧
      Reader.duration c = .ok f.decode (c.advance 3) := by
  have hl : (c.window.take 3).length = 3 := by simpa [Cursor.remaining] using h
  obtain ⟨hours, minutes, seconds, hf⟩ := List.length_eq_three.mp hl
  refine ⟨⟨hours, minutes, seconds⟩, hf.symm, ?_⟩
  exact (Reads.duration ..).mpr ⟨_, c.window.drop 3, (List.take_append_drop ..).symm,
    ⟨⟨hours, minutes, seconds⟩, hf, rfl⟩, by rw [hl]; rfl⟩

namespace Request

variable {r : Request} {c d : Cursor} {k : Nat}

/-- Where the bytes are there, they are taken, and they say what is answered; only a start field
can be taken and name no start. -/
theorem read_of_le (hr : r.width? = some k) (h : k ≤ c.remaining) :
    (∃ a, r.read c = .ok a (c.advance k) ∧ r.Says (c.window.take k) a) ∨
      ∃ f : StartField, r = start ∧ f.bytes = c.window.take k ∧ f.decode? = none ∧
        r.read c = .error (.invalidStart f) (c.advance k) := by
  cases r with
  | truncate n => cases hr
  | descriptors => cases hr
  | u8 =>
      obtain rfl := Option.some.inj hr
      exact .inl ⟨_, word_of_le UInt8.ofNat UInt8.toNat
        (fun m hm => UInt8.toNat_ofNat_of_lt' hm) h, .u8 _⟩
  | u16 =>
      obtain rfl := Option.some.inj hr
      exact .inl ⟨_, word_of_le UInt16.ofNat UInt16.toNat
        (fun m hm => UInt16.toNat_ofNat_of_lt' hm) h, .u16 _⟩
  | u24 =>
      obtain rfl := Option.some.inj hr
      exact .inl ⟨_, word_of_le UInt32.ofNat UInt32.toNat
        (fun m hm => UInt32.toNat_ofNat_of_lt' (hm.trans (by decide))) h, .u24 _⟩
  | u32 =>
      obtain rfl := Option.some.inj hr
      exact .inl ⟨_, word_of_le UInt32.ofNat UInt32.toNat
        (fun m hm => UInt32.toNat_ofNat_of_lt' hm) h, .u32 _⟩
  | bytes n =>
      obtain rfl := Option.some.inj hr
      have hl : (c.window.take n).length = n := List.length_take_of_le h
      have hs := Says.bytes (c.window.take n)
      rw [hl] at hs
      exact .inl ⟨_, Reader.bind_ok (Reader.bytes_of_le h) _, hs⟩
  | sub n =>
      obtain rfl := Option.some.inj hr
      have hl : (c.window.take n).length = n := List.length_take_of_le h
      have hs := Says.sub (c.window.take n)
      rw [hl] at hs
      have hsub : Reader.sub n c = .ok (.ofBytes (c.window.take n)) (c.advance n) :=
        Reader.bind_ok (Reader.bytes_of_le h) _
      exact .inl ⟨_, Reader.bind_ok hsub _, hs⟩
  | start =>
      obtain rfl := Option.some.inj hr
      obtain ⟨f, hf, hread⟩ := start_of_le h
      cases hd : f.decode? with
      | none =>
          rw [hd] at hread
          exact .inr ⟨f, rfl, hf, hd, Reader.bind_error hread _⟩
      | some t =>
          rw [hd] at hread
          have hs := Says.start (StartField.decode?_eq_some_iff.mp hd)
          rw [hf] at hs
          exact .inl ⟨_, Reader.bind_ok hread _, hs⟩
  | duration =>
      obtain rfl := Option.some.inj hr
      obtain ⟨f, hf, hread⟩ := duration_of_le h
      have hs := Says.duration f
      rw [hf] at hs
      exact .inl ⟨_, Reader.bind_ok hread _, hs⟩

/-- Where they are not, the cursor stays and tells. -/
theorem read_of_lt (hr : r.width? = some k) (h : c.remaining < k) :
    r.read c = .error (.overflow c.position k c.remaining) c := by
  have hb := Reader.bytes_of_lt h
  have hn : Reader.number k c = .error (.overflow c.position k c.remaining) c :=
    Reader.bind_error hb _
  cases r with
  | truncate n => cases hr
  | descriptors => cases hr
  | u8 | u16 | u24 | u32 =>
      obtain rfl := Option.some.inj hr
      exact Reader.bind_error (Reader.bind_error hn _) _
  | bytes n =>
      obtain rfl := Option.some.inj hr
      exact Reader.bind_error hb _
  | sub n | start | duration =>
      obtain rfl := Option.some.inj hr
      exact Reader.bind_error (Reader.bind_error hb _) _

theorem forward_descriptors : Forward descriptors.read :=
  (Forward.many _ (Forward.u8.bind fun _ => Forward.u8.bind fun length =>
    (Forward.bytes length.toNat).map _)).map Answer.descriptors

/-- A request of no fixed width ends the window or reads records. -/
theorem eq_of_width?_eq_none (hr : r.width? = none) : (∃ n, r = truncate n) ∨ r = descriptors := by
  cases r with
  | truncate n => exact .inl ⟨n, rfl⟩
  | descriptors => exact .inr rfl
  | _ => cases hr

/-- The cursor after a request: so many bytes further on, or with a nearer end. -/
theorem after_cases (r : Request) (c : Cursor) :
    (∃ k ≤ c.remaining, r.read.after c = c.advance k) ∨
      ∃ n, r = truncate n ∧ c.position < n ∧ n ≤ c.stop ∧ r.read.after c = c.endAt n := by
  cases hr : r.width? with
  | some k =>
      left
      by_cases h : k ≤ c.remaining
      · refine ⟨k, h, ?_⟩
        rcases read_of_le hr h with ⟨a, ha, -⟩ | ⟨f, -, -, -, he⟩
        · exact Reader.after_of_ok ha
        · exact Reader.after_of_error he
      · exact ⟨0, Nat.zero_le _, Reader.after_of_error (read_of_lt hr (by omega))⟩
  | none =>
      obtain ⟨n, rfl⟩ | rfl := eq_of_width?_eq_none hr
      · by_cases hn : c.position < n ∧ n ≤ c.stop
        · have ht := Reader.truncate_of_lt hn.1 hn.2
          exact .inr ⟨n, rfl, hn.1, hn.2, Reader.after_of_ok (Reader.bind_ok ht _)⟩
        · have ht := Reader.truncate_of_not hn
          exact .inl ⟨0, Nat.zero_le _, Reader.after_of_error (Reader.bind_error ht _)⟩
      · exact .inl (forward_descriptors.moves c)

theorem after_liesIn {buffer : List UInt8} (h : c.LiesIn buffer) (r : Request) :
    (r.read.after c).LiesIn buffer := by
  rcases after_cases r c with ⟨k, hk, e⟩ | ⟨n, -, hn, hn', e⟩
  · exact e ▸ h.advance hk
  · exact e ▸ h.endAt hn hn'

theorem position_le_after (r : Request) (c : Cursor) :
    c.position ≤ (r.read.after c).position := by
  rcases after_cases r c with ⟨k, -, e⟩ | ⟨n, -, -, -, e⟩
  · rw [e]
    exact Nat.le_add_right ..
  · rw [e, Cursor.position_endAt]

theorem stop_after_eq (h : ∀ n, r ≠ truncate n) : (r.read.after c).stop = c.stop := by
  rcases after_cases r c with ⟨k, hk, e⟩ | ⟨n, hn, -⟩
  · rw [e, Cursor.stop_advance hk]
  · exact absurd hn (h n)

theorem stop_after_le (r : Request) (c : Cursor) : (r.read.after c).stop ≤ c.stop := by
  rcases after_cases r c with ⟨k, hk, e⟩ | ⟨n, -, hn, hn', e⟩
  · rw [e, Cursor.stop_advance hk]
  · rw [e, Cursor.stop_endAt hn hn']
    exact hn'

end Request

/-! ### What a request may do -/

/-- A cursor and the bytes it was made over. -/
structure Placed where
  buffer : List UInt8
  cursor : Cursor
  deriving DecidableEq

/-- What a request does to a cursor in its buffer. -/
structure Request.Obeys (r : Request) (p : Placed) : Prop where
  position_le : p.cursor.position ≤ (r.read.after p.cursor).position
  stop_le : (r.read.after p.cursor).stop ≤ p.cursor.stop
  /-- Only an end that is asked for moves the end. -/
  stop_eq : (∀ n, r ≠ .truncate n) → (r.read.after p.cursor).stop = p.cursor.stop
  /-- A read of a fixed width gives what the next bytes of the buffer say, and passes them. -/
  takes : ∀ k a d, r.width? = some k → r.read p.cursor = .ok a d →
    ∃ taken, slice? p.buffer p.cursor.position k = some taken ∧ r.Says taken a ∧
      d.position = p.cursor.position + k ∧ d.stop = p.cursor.stop
  /-- It wants for bytes just if there are fewer, and stays then. -/
  wants : ∀ k, r.width? = some k →
    ((∃ offset wanted available d,
        r.read p.cursor = .error (.overflow offset wanted available) d) ↔
      p.cursor.remaining < k) ∧
    ∀ offset wanted available d, r.read p.cursor = .error (.overflow offset wanted available) d →
      d = p.cursor ∧ offset = p.cursor.position ∧ wanted = k ∧
        available = p.cursor.remaining ∧ available < wanted
  /-- The window is ended at positions ahead of the cursor and within it, and nowhere else. -/
  truncates : ∀ n, r = .truncate n →
    ((∃ a d, r.read p.cursor = .ok a d) ↔ p.cursor.position < n ∧ n ≤ p.cursor.stop) ∧
    (∀ a d, r.read p.cursor = .ok a d → d.position = p.cursor.position ∧ d.stop = n) ∧
    ∀ e d, r.read p.cursor = .error e d → d = p.cursor
  /-- A start field that names no start is passed. -/
  misdates : ∀ f d, r.read p.cursor = .error (.invalidStart f) d →
    r = .start ∧ slice? p.buffer p.cursor.position 5 = some f.bytes ∧
      d.position = p.cursor.position + 5 ∧ d.stop = p.cursor.stop
  /-- Records fill the window, or one of them wants for bytes where the cursor is left. -/
  records : r = .descriptors →
    (∀ a d, r.read p.cursor = .ok a d → ∃ ds, a = .descriptors ds ∧
      Sequence Descriptor.Form ds p.cursor.window ∧ d.position = p.cursor.stop) ∧
    (∀ offset wanted available d, r.read p.cursor = .error (.overflow offset wanted available) d →
      offset = d.position ∧ available = d.remaining ∧ available < wanted)

namespace Request

variable {r : Request} {c d : Cursor} {p : Placed} {k : Nat}

theorem takes_of_ok (hp : p.cursor.LiesIn p.buffer) (hr : r.width? = some k) {a : Answer}
    (h : r.read p.cursor = .ok a d) :
    ∃ taken, slice? p.buffer p.cursor.position k = some taken ∧ r.Says taken a ∧
      d.position = p.cursor.position + k ∧ d.stop = p.cursor.stop := by
  by_cases hk : k ≤ p.cursor.remaining
  · rcases read_of_le hr hk with ⟨a', ha, hs⟩ | ⟨f, -, -, -, he⟩
    · rw [ha] at h
      obtain ⟨rfl, rfl⟩ := EStateM.Result.ok.inj h
      exact ⟨_, hp.slice?_eq hk, hs, rfl, Cursor.stop_advance hk⟩
    · rw [he] at h
      cases h
  · rw [read_of_lt hr (by omega)] at h
    cases h

theorem wants_of_width (hr : r.width? = some k) :
    ((∃ offset wanted available d, r.read c = .error (.overflow offset wanted available) d) ↔
      c.remaining < k) ∧
    ∀ offset wanted available d, r.read c = .error (.overflow offset wanted available) d →
      d = c ∧ offset = c.position ∧ wanted = k ∧ available = c.remaining ∧ available < wanted := by
  by_cases hk : k ≤ c.remaining
  · have hne : ∀ offset wanted available d,
        r.read c ≠ .error (.overflow offset wanted available) d := by
      intro offset wanted available d h
      rcases read_of_le hr hk with ⟨a, ha, -⟩ | ⟨f, -, -, -, he⟩
      · rw [ha] at h
        cases h
      · rw [he] at h
        cases h
    refine ⟨⟨?_, fun hlt => by omega⟩, fun o w a d h => absurd h (hne o w a d)⟩
    rintro ⟨o, w, a, d, h⟩
    exact absurd h (hne o w a d)
  · have hlt : c.remaining < k := by omega
    have h := read_of_lt hr hlt
    refine ⟨⟨fun _ => hlt, fun _ => ⟨_, _, _, _, h⟩⟩, ?_⟩
    intro o w a d h'
    rw [h] at h'
    cases h'
    exact ⟨rfl, rfl, rfl, rfl, hlt⟩

theorem truncates_iff (c : Cursor) (n : Nat) :
    ((∃ a d, (truncate n).read c = .ok a d) ↔ c.position < n ∧ n ≤ c.stop) ∧
    (∀ a d, (truncate n).read c = .ok a d → d.position = c.position ∧ d.stop = n) ∧
    ∀ e d, (truncate n).read c = .error e d → d = c := by
  by_cases hn : c.position < n ∧ n ≤ c.stop
  · have h : (truncate n).read c = .ok .truncated (c.endAt n) :=
      Reader.bind_ok (Reader.truncate_of_lt hn.1 hn.2) _
    refine ⟨⟨fun _ => hn, fun _ => ⟨_, _, h⟩⟩, ?_, ?_⟩
    · intro a d h'
      rw [h] at h'
      cases h'
      exact ⟨rfl, Cursor.stop_endAt hn.1 hn.2⟩
    · intro e d h'
      rw [h] at h'
      cases h'
  · have h := Reader.bind_error (Reader.truncate_of_not hn) fun _ => pure Answer.truncated
    refine ⟨⟨?_, fun hn' => absurd hn' hn⟩, ?_, ?_⟩
    · rintro ⟨a, d, h'⟩
      cases h.symm.trans h'
    · intro a d h'
      cases h.symm.trans h'
    · intro e d h'
      cases h.symm.trans h'
      rfl

theorem onlyOverflows_descriptors : OnlyOverflows descriptors.read :=
  (OnlyOverflows.many _ (OnlyOverflows.u8.bind fun _ => OnlyOverflows.u8.bind fun length =>
    (OnlyOverflows.bytes length.toNat).map _)).map Answer.descriptors

theorem misdates_of_error (hp : p.cursor.LiesIn p.buffer) {f : StartField}
    (h : r.read p.cursor = .error (.invalidStart f) d) :
    r = start ∧ slice? p.buffer p.cursor.position 5 = some f.bytes ∧
      d.position = p.cursor.position + 5 ∧ d.stop = p.cursor.stop := by
  cases hr : r.width? with
  | some k =>
      by_cases hk : k ≤ p.cursor.remaining
      · rcases read_of_le hr hk with ⟨a, ha, -⟩ | ⟨f', rfl, hf, -, he⟩
        · rw [ha] at h
          cases h
        · obtain rfl := Option.some.inj hr
          rw [he] at h
          cases h
          exact ⟨rfl, hf ▸ hp.slice?_eq hk, rfl, Cursor.stop_advance hk⟩
      · rw [read_of_lt hr (by omega)] at h
        cases h
  | none =>
      have ho : OnlyOverflows r.read := by
        obtain ⟨n, rfl⟩ | rfl := eq_of_width?_eq_none hr
        · exact (OnlyOverflows.truncate n).bind fun _ => OnlyOverflows.pure _
        · exact onlyOverflows_descriptors
      obtain ⟨_, _, _, he⟩ := ho _ _ _ h
      cases he

theorem records_of_ok {a : Answer} (h : descriptors.read c = .ok a d) :
    ∃ ds, a = .descriptors ds ∧ Sequence Descriptor.Form ds c.window ∧ d.position = c.stop := by
  obtain ⟨ds, d', hread, hp⟩ := Reader.bind_eq_ok.mp h
  obtain ⟨rfl, rfl⟩ := Reader.pure_eq_ok.mp hp
  obtain ⟨hs, rfl⟩ := Descriptor.readsAll.eq_ok_iff.mp hread
  exact ⟨ds, rfl, hs, rfl⟩

/-- Every request obeys wherever a cursor lies in its buffer. -/
theorem obeys (hp : p.cursor.LiesIn p.buffer) (r : Request) : r.Obeys p where
  position_le := position_le_after r p.cursor
  stop_le := stop_after_le r p.cursor
  stop_eq h := stop_after_eq h
  takes _ _ _ hr h := takes_of_ok hp hr h
  wants _ hr := wants_of_width hr
  truncates n h := by
    subst h
    exact truncates_iff p.cursor n
  misdates _ _ h := misdates_of_error hp h
  records h := by
    subst h
    exact ⟨fun a d hok => records_of_ok hok,
      fun o w a d he => forward_descriptors.reports p.cursor d o w a he⟩

end Request

/-! ### Runs -/

/-- A request to one of the cursors. -/
structure Call where
  place : Nat
  request : Request

/-- The cursor that a request hands out, with the bytes it is made over. -/
def Request.handed (r : Request) (c : Cursor) : List Placed :=
  match r.read c with
  | .ok (.inner d) _ => [⟨d.window, d⟩]
  | _ => []

/-- The cursors after a call, whether or not it succeeds; one that is handed out comes last. -/
def Call.run (call : Call) (cursors : List Placed) : List Placed :=
  match cursors[call.place]? with
  | none => cursors
  | some p =>
    cursors.set call.place ⟨p.buffer, call.request.read.after p.cursor⟩ ++
      call.request.handed p.cursor

/-- The cursors after calls, from a single one over a buffer. -/
def cursorsAfter (buffer : List UInt8) (calls : List Call) : List Placed :=
  calls.foldl (fun cursors call => call.run cursors) [⟨buffer, .ofBytes buffer⟩]

/-- A cursor at a later moment: over the same bytes, further on, with no later end. -/
structure Placed.Continues (p q : Placed) : Prop where
  buffer_eq : q.buffer = p.buffer
  position_le : p.cursor.position ≤ q.cursor.position
  stop_le : q.cursor.stop ≤ p.cursor.stop

/-- Only a request for one hands out a cursor, and it stands at the start of its bytes. -/
theorem Request.eq_sub_of_inner {r : Request} {c d e : Cursor} (h : r.read c = .ok (.inner d) e) :
    ∃ n, r = .sub n ∧ n ≤ c.remaining ∧ d = .ofBytes (c.window.take n) := by
  cases r with
  | sub n =>
      by_cases hn : n ≤ c.remaining
      · have hsub : Reader.sub n c = .ok (.ofBytes (c.window.take n)) (c.advance n) :=
          Reader.bind_ok (Reader.bytes_of_le hn) _
        have he := Reader.bind_ok hsub fun inner => pure (Answer.inner inner)
        cases he.symm.trans h
        exact ⟨n, rfl, hn, rfl⟩
      · rw [read_of_lt (r := .sub n) rfl (by omega)] at h
        cases h
  | u8 | u16 | u24 | u32 | bytes n | truncate n | start | duration | descriptors =>
      obtain ⟨_, _, -, hp⟩ := Reader.bind_eq_ok.mp h
      cases (Reader.pure_eq_ok.mp hp).1

theorem Request.liesIn_of_mem_handed {r : Request} {c : Cursor} {q : Placed}
    (h : q ∈ r.handed c) : q.cursor.LiesIn q.buffer := by
  unfold Request.handed at h
  split at h
  · next d e hread =>
      obtain rfl := List.mem_singleton.mp h
      obtain ⟨n, -, -, rfl⟩ := eq_sub_of_inner hread
      exact Cursor.liesIn_ofBytes _
  · cases h

theorem Call.run_liesIn {cursors : List Placed} (h : ∀ p ∈ cursors, p.cursor.LiesIn p.buffer)
    (call : Call) : ∀ p ∈ call.run cursors, p.cursor.LiesIn p.buffer := by
  unfold Call.run
  cases hc : cursors[call.place]? with
  | none => exact h
  | some p =>
      intro q hq
      rcases List.mem_append.mp hq with hq | hq
      · rcases List.mem_or_eq_of_mem_set hq with hq | rfl
        · exact h q hq
        · exact Request.after_liesIn (h p (List.mem_of_getElem? hc)) call.request
      · exact Request.liesIn_of_mem_handed hq

theorem Call.run_continues {cursors : List Placed} {place : Nat} {p : Placed}
    (h : cursors[place]? = some p) (call : Call) :
    ∃ q, (call.run cursors)[place]? = some q ∧ p.Continues q := by
  have hl : place < cursors.length := (List.getElem?_eq_some_iff.mp h).1
  unfold Call.run
  cases hc : cursors[call.place]? with
  | none => exact ⟨p, h, rfl, Nat.le_refl _, Nat.le_refl _⟩
  | some p' =>
      rw [List.getElem?_append_left (by rwa [List.length_set])]
      by_cases hp : call.place = place
      · subst hp
        obtain rfl := Option.some.inj (hc.symm.trans h)
        exact ⟨_, List.getElem?_set_self hl, rfl, Request.position_le_after _ _,
          Request.stop_after_le _ _⟩
      · rw [List.getElem?_set_ne hp]
        exact ⟨p, h, rfl, Nat.le_refl _, Nat.le_refl _⟩

section

variable (buffer : List UInt8) (calls : List Call)

theorem cursorsAfter_append (later : List Call) :
    cursorsAfter buffer (calls ++ later) =
      later.foldl (fun cursors call => call.run cursors) (cursorsAfter buffer calls) :=
  List.foldl_append

theorem cursorsAfter_liesIn : ∀ p ∈ cursorsAfter buffer calls, p.cursor.LiesIn p.buffer := by
  induction calls using List.reverseRecOn with
  | nil =>
      intro p hp
      obtain rfl := List.mem_singleton.mp hp
      exact Cursor.liesIn_ofBytes buffer
  | append_singleton calls call ih =>
      rw [cursorsAfter_append]
      exact call.run_liesIn ih

variable {buffer calls}

theorem cursorsAfter_continues {place : Nat} {p : Placed}
    (h : (cursorsAfter buffer calls)[place]? = some p) (later : List Call) :
    ∃ q, (cursorsAfter buffer (calls ++ later))[place]? = some q ∧ p.Continues q := by
  induction later using List.reverseRecOn with
  | nil => exact ⟨p, by rwa [List.append_nil], rfl, Nat.le_refl _, Nat.le_refl _⟩
  | append_singleton later call ih =>
      obtain ⟨q, hq, hpq⟩ := ih
      obtain ⟨q', hq', hqq'⟩ := Call.run_continues hq call
      refine ⟨q', ?_, hqq'.buffer_eq.trans hpq.buffer_eq,
        hpq.position_le.trans hqq'.position_le, hqq'.stop_le.trans hpq.stop_le⟩
      rw [← List.append_assoc, cursorsAfter_append]
      exact hq'

/-- A cursor that is handed out comes last, over the next bytes of the buffer. -/
theorem cursorsAfter_sub {place n : Nat} {p : Placed} {d e : Cursor}
    (h : (cursorsAfter buffer calls)[place]? = some p)
    (hd : (Request.sub n).read p.cursor = .ok (.inner d) e) :
    ∃ taken, slice? p.buffer p.cursor.position n = some taken ∧
      (cursorsAfter buffer (calls ++ [⟨place, .sub n⟩]))[(cursorsAfter buffer calls).length]? =
        some ⟨taken, .ofBytes taken⟩ := by
  obtain ⟨_, he, hn, rfl⟩ := Request.eq_sub_of_inner hd
  cases he
  have hp := cursorsAfter_liesIn buffer calls p (List.mem_of_getElem? h)
  refine ⟨_, hp.slice?_eq hn, ?_⟩
  rw [cursorsAfter_append]
  change (Call.run _ _)[_]? = _
  rw [Call.run, h]
  change (List.set _ _ _ ++ Request.handed _ _)[_]? = _
  rw [Request.handed, hd, List.getElem?_append_right (by rw [List.length_set]), List.length_set,
    Nat.sub_self]
  rfl

/-- After every run, each cursor lies in its buffer, reading it by offsets never fails to have a
result, every request obeys, and later calls only take it further on and its end nearer. -/
theorem cursors_stay_within {place : Nat} {p : Placed}
    (h : (cursorsAfter buffer calls)[place]? = some p) :
    p.cursor.LiesIn p.buffer ∧
    (∀ n, (p.cursor.bounds p.buffer).bytes? n =
        some (Cursor.boundsOf p.buffer (Reader.bytes n p.cursor)) ∧
      (p.cursor.bounds p.buffer).truncate? n =
        some (Cursor.boundsOf p.buffer (Reader.truncate n p.cursor))) ∧
    (∀ r : Request, r.Obeys p) ∧
    (∀ n d e, (Request.sub n).read p.cursor = .ok (.inner d) e →
      ∃ taken, slice? p.buffer p.cursor.position n = some taken ∧
        (cursorsAfter buffer (calls ++ [⟨place, .sub n⟩]))[(cursorsAfter buffer calls).length]? =
          some ⟨taken, .ofBytes taken⟩) ∧
    ∀ later, ∃ q, (cursorsAfter buffer (calls ++ later))[place]? = some q ∧ p.Continues q := by
  have hp := cursorsAfter_liesIn buffer calls p (List.mem_of_getElem? h)
  exact ⟨hp, fun n => ⟨hp.bytes?_eq n, hp.truncate?_eq n⟩, fun r => Request.obeys hp r,
    fun n d e hd => cursorsAfter_sub h hd, fun later => cursorsAfter_continues h later⟩

end

/-- A cursor over part of a window, ended early and read up to its end. -/
theorem cursors_stay_within_nested :
    (cursorsAfter [1, 2, 3, 4, 5, 6, 7, 8]
        [⟨0, .u16⟩, ⟨0, .sub 5⟩, ⟨1, .truncate 4⟩, ⟨1, .u24⟩, ⟨1, .u16⟩])[1]? =
      some ⟨[3, 4, 5, 6, 7], ⟨3, [6]⟩⟩ ∧
    (⟨3, [6]⟩ : Cursor).LiesIn [3, 4, 5, 6, 7] ∧ Request.u16.Obeys ⟨[3, 4, 5, 6, 7], ⟨3, [6]⟩⟩ := by
  have h : (cursorsAfter [1, 2, 3, 4, 5, 6, 7, 8]
      [⟨0, .u16⟩, ⟨0, .sub 5⟩, ⟨1, .truncate 4⟩, ⟨1, .u24⟩, ⟨1, .u16⟩])[1]? =
      some ⟨[3, 4, 5, 6, 7], ⟨3, [6]⟩⟩ := by decide
  have hw := cursors_stay_within h
  exact ⟨h, hw.1, hw.2.2.1 .u16⟩

end Multiplex.Section
