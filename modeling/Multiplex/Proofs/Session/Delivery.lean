import Multiplex.Proofs.Section.Limits
import Multiplex.Proofs.Section.Sealing
import Multiplex.Proofs.Session.Turns

/-!
# What a read delivers

A read asks the device in rounds: it waits until there is something, and then takes it. A `Delivery`
says that a device hands over some data in one of the rounds, and the read gives these data as far
as its buffer goes. The buffer for sections takes 4096 bytes, while a section can be written in up to
4098. A section that does not fit loses its end, and is not decoded.

Main statements:

* `run_read_of_delivery`: a read gives what the device hands over, as far as it fits;
* `readSection_of_delivery`: what becomes of a written section that a device hands over.
-/

namespace Multiplex.Session

open Multiplex.Device Multiplex.Demux Multiplex.Calendar

variable {σ α : Type}

/-- A device hands over data in one of the rounds of a read, before the time that is left is over and
while the filter is open. In the rounds before there was nothing yet, or what was there could not be
taken after all. -/
inductive Delivery (P : Platform σ) (f : Filter) (node : Node) (data : List UInt8) :
    (rounds : Nat) → (left? : Option Nat) → World σ → Prop
  | taken {rounds : Nat} {left? : Option Nat} {w w₁ w₂ : World σ} (timely : left? ≠ some 0)
      (live : w.isLive f = true) (ready : (wait P node left?).run w = (.ok .ready, w₁))
      (live₁ : w₁.isLive f = true) (fetched : (fetch P node).run w₁ = (.ok data, w₂)) :
      Delivery P f node data (rounds + 1) left? w
  | idle {rounds elapsed : Nat} {left? : Option Nat} {w w₁ : World σ} (timely : left? ≠ some 0)
      (live : w.isLive f = true) (waited : (wait P node left?).run w = (.ok (.idle elapsed), w₁))
      (later : Delivery P f node data rounds (left?.map (· - elapsed)) w₁) :
      Delivery P f node data (rounds + 1) left? w
  | again {rounds : Nat} {left? : Option Nat} {w w₁ w₂ : World σ} {cause : SystemError}
      (timely : left? ≠ some 0) (live : w.isLive f = true)
      (ready : (wait P node left?).run w = (.ok .ready, w₁)) (live₁ : w₁.isLive f = true)
      (missed : (fetch P node).run w₁ = (.error cause, w₂)) (transient : cause.isTransient = true)
      (later : Delivery P f node data rounds left? w₂) :
      Delivery P f node data (rounds + 1) left? w

/-- A device hands over data to a read of an open filter, as long as it has anything to say. -/
def Delivers (P : Platform σ) (f : Filter) (timeout? : Option Duration) (data : List UInt8)
    (w : World σ) : Prop :=
  ∃ nodes, w.nodes? f = some nodes ∧
    Delivery P f nodes.source data (P.patience nodes.source w.device)
      (timeout?.map (·.totalNanos)) { w with busy? := some nodes.demux.number }

section

variable (P : Platform σ) {w w' w₁ w₂ : World σ} {f : Filter} {node : Node} {data : List UInt8}

/-! ### Rounds -/

theorem run_checkLive (hl : w.isLive f = true) : (checkLive f).run.run w = (.ok (), w) := by
  unfold checkLive
  rw [run_run_get_bind, hl]
  rfl

section

variable {rounds : Nat} {left? : Option Nat} (timely : left? ≠ some 0) (live : w.isLive f = true)

include timely live

/-- A round without data. -/
theorem run_readRounds_idle {elapsed : Nat}
    (waited : (wait P node left?).run w = (.ok (.idle elapsed), w')) :
    (readRounds P f node (rounds + 1) left?).run.run w =
      (readRounds P f node rounds (left?.map (· - elapsed))).run.run w' := by
  rw [readRounds, run_bind_ok (run_checkLive live)]
  dsimp only
  rw [if_neg timely, run_lift_bind waited]

/-- A round in which there is something to take. -/
theorem run_readRounds_ready {answer : Except SystemError (List UInt8)}
    (ready : (wait P node left?).run w = (.ok .ready, w₁)) (live₁ : w₁.isLive f = true)
    (fetched : (fetch P node).run w₁ = (answer, w₂)) :
    (readRounds P f node (rounds + 1) left?).run.run w =
      (match answer with
        | .ok bytes => return some bytes
        | .error cause =>
          if cause.isTransient then readRounds P f node rounds left?
          else throw (Failure.command "read" cause) : Attempt σ _).run.run w₂ := by
  rw [readRounds, run_bind_ok (run_checkLive live)]
  dsimp only
  rw [if_neg timely, run_lift_bind ready]
  dsimp only
  rw [run_bind_ok (run_checkLive live₁)]
  refine (run_lift_bind fetched _).trans ?_
  cases answer with
  | ok | error => rfl

end

theorem run_readRounds_of_delivery {rounds : Nat} {left? : Option Nat}
    (hd : Delivery P f node data rounds left? w) :
    ((readRounds P f node rounds left?).run.run w).1 = .ok (some data) := by
  -- Whatever a round without data takes of the time left, the delivery goes on from there.
  induction hd with
  | taken timely live ready live₁ fetched =>
      rw [run_readRounds_ready P timely live ready live₁ fetched]
      rfl
  | idle timely live waited later ih =>
      rw [run_readRounds_idle P timely live waited]
      exact ih
  | again timely live ready live₁ missed transient later ih =>
      rw [run_readRounds_ready P timely live ready live₁ missed]
      dsimp only
      rw [if_pos transient]
      exact ih

/-! ### Reads -/

/-- What is done after the use of a filter does not change what it gave. -/
theorem run_withNodes_some {nodes : FilterNodes} (hn : w.nodes? f = some nodes)
    (op : FilterNodes → Attempt σ α) :
    ((withNodes P f op).run.run w).1 =
      ((op nodes).run.run { w with busy? := some nodes.demux.number }).1 := by
  unfold withNodes
  rw [run_run_get_bind, hn]
  rfl

theorem fst_run_bind_ok {β : Type} {a : Attempt σ α} {x : α} (ha : (a.run.run w).1 = .ok x)
    (g : α → β) : ((do return g (← a) : Attempt σ β).run.run w).1 = .ok (g x) := by
  rw [run_bind_ok (Prod.ext ha rfl)]
  rfl

/-- A read gives what the device hands over, as far as it fits. -/
theorem run_read_of_delivery {timeout? : Option Duration} (hd : Delivers P f timeout? data w)
    (size : Nat) : ((read P f size timeout?).run.run w).1 = .ok (some (data.take size)) := by
  obtain ⟨nodes, hn, hd⟩ := hd
  have hr := run_readRounds_of_delivery P hd
  unfold read
  rw [run_withNodes_some P hn, run_run_get_bind]
  exact fst_run_bind_ok hr _

/-- A section is read by decoding the bytes that are read. -/
theorem run_readSection_of_bytes {timeout? : Option Duration}
    (hr : ((readRawSection P f timeout?).run.run w).1 = .ok (some data)) :
    ((readSection P f timeout?).run.run w).1 =
      ((Section.decode data).map some).mapError .decode := by
  unfold readSection
  rw [run_bind_ok (Prod.ext hr rfl)]
  dsimp only
  cases Section.decode data with
  | ok | error => rfl

/-! ### Reads of written sections -/

/-- The first byte of what is written names the table. -/
theorem headD_of_encode {s : Section} {raw : List UInt8} (he : s.encode = .ok raw) (b : UInt8) :
    raw.headD b = s.header.tableId.byte := by
  obtain ⟨rows, -, -, rfl⟩ := Section.encode_eq_ok_iff.mp he
  rfl

section

variable {s : Section} {raw : List UInt8} {timeout? : Option Duration}

/-- A section that is longer than the buffer is not decoded from the part that was read. -/
theorem run_readSection_of_cut {s' : Section} (he : s.encode = .ok raw)
    (hs : Section.Spelled s' raw) (hl : sectionBufferSize < raw.length)
    (hd : Delivers P f timeout? raw w) :
    ((readSection P f timeout?).run.run w).1 = .error (.decode (.malformed
      s.header.tableId.byte (.overflow 3 (raw.length - 3) (sectionBufferSize - 3)))) := by
  have hr : ((readRawSection P f timeout?).run.run w).1 =
      .ok (some (raw.take sectionBufferSize)) := run_read_of_delivery P hd sectionBufferSize
  have hdec : Section.decode (raw.take sectionBufferSize) = .error (.malformed
      s.header.tableId.byte (.overflow 3 (raw.length - 3) (sectionBufferSize - 3))) := by
    rw [← headD_of_encode he]
    exact Section.decode_take_of_spelled hs hl
  rw [run_readSection_of_bytes P hr, hdec]
  rfl

/-- Let a device hand over what is written of a section to a read of an open filter. If it is at most
4096 bytes long, all of it is read, and the section that is decoded from it. If it is longer, which
can be by two bytes, the read ends after 4096 bytes, and what was read is too short for its length
field. -/
theorem readSection_of_delivery
    (schedule : ∀ b, s.header.tableId = .eitSchedule b → 0x50 ≤ b ∧ b ≤ 0x6F)
    (layout : s.body.layout = s.header.tableId.layout) (he : s.encode = .ok raw)
    (hd : Delivers P f timeout? raw w) :
    (raw.length ≤ sectionBufferSize →
      ((readRawSection P f timeout?).run.run w).1 = .ok (some raw) ∧
      ∃ s', Section.decode raw = .ok s' ∧
        ((readSection P f timeout?).run.run w).1 = .ok (some s')) ∧
    (sectionBufferSize < raw.length →
      raw.length ≤ 4098 ∧
      ((readRawSection P f timeout?).run.run w).1 = .ok (some (raw.take sectionBufferSize)) ∧
      ((readSection P f timeout?).run.run w).1 = .error (.decode (.malformed
        s.header.tableId.byte (.overflow 3 (raw.length - 3) (sectionBufferSize - 3))))) := by
  obtain ⟨s', hs⟩ := Section.exists_spelled_of_encode schedule layout he
  have hr : ((readRawSection P f timeout?).run.run w).1 =
      .ok (some (raw.take sectionBufferSize)) := run_read_of_delivery P hd sectionBufferSize
  constructor
  · intro hl
    have hdec := Section.decode_append_of_spelled hs []
    rw [List.append_nil] at hdec
    rw [List.take_of_length_le hl] at hr
    refine ⟨hr, s', hdec, ?_⟩
    rw [run_readSection_of_bytes P hr, hdec]
    rfl
  · intro hl
    exact ⟨hs.length_le, hr, run_readSection_of_cut P he hs hl hd⟩

end

/-! ### Calls that nobody interrupts -/

theorem run_meanwhile_of_gates {call : Call} (hg : P.gates call = []) (w : World σ) :
    (meanwhile P call).run w = (.ok (), w) := by
  have h : ∀ depth, (interrupt P depth call).run w = (.ok (), w) := by
    intro depth
    cases depth with
    | zero | succ =>
        unfold interrupt
        rw [hg]
        rfl
  exact h _

theorem run_onDevice {call : σ → α × σ} {x : α} {device : σ} (hc : call w.device = (x, device)) :
    (onDevice call).run w = (x, { w with device }) := by
  change ((call w.device).1, { w with device := (call w.device).2 }) = _
  rw [hc]

theorem run_wait_of_gates (hg : P.gates (.wait node) = []) {left? : Option Nat}
    {answer : Except SystemError Waited} {device : σ}
    (ha : P.wait node left? w.device = (answer, device)) :
    (wait P node left?).run w =
      (answer, { w with device, trace := w.trace ++ [.waited node answer] }) := by
  unfold wait
  rw [run_act_bind (run_meanwhile_of_gates P hg w)]
  dsimp only
  rw [run_act_bind (run_onDevice ha)]
  rfl

theorem run_fetch_of_gates (hg : P.gates (.read node) = [])
    {answer : Except SystemError (List UInt8)} {device : σ}
    (ha : P.read node w.device = (answer, device)) :
    (fetch P node).run w =
      (answer, { w with device, trace := w.trace ++ [.fetched node answer] }) := by
  unfold fetch
  rw [run_act_bind (run_meanwhile_of_gates P hg w)]
  dsimp only
  rw [run_act_bind (run_onDevice ha)]
  rfl

end

/-! ### A device that broadcasts a section -/

/-- A device that has nothing yet at first, and then what can be taken only on the second try: a
section. -/
def broadcasting (s : Section) : Platform Nat where
  gates _ := []
  openNode _ n := (.ok (), n)
  openings _ _ := 1
  run _ c n := (.ok (blank c), n)
  close _ n := (.ok (), n)
  letGo _ n := n
  wait _ _ n := if n = 0 then (.ok (.idle 1000000), 1) else (.ok .ready, n)
  read _ n := if n = 1 then (.error .wouldBlock, 2) else (s.encode.mapError fun _ => .missing, n)
  patience _ _ := 3

/-- A frontend, a manager, and a filter for the sections of a network. -/
def tuning : List Operation :=
  [.openFrontend 0 0, .newManager 0 0, .newSectionFilter 0 (.ofTable 16 0x40)]

/-- The filter for the sections of a network. -/
def networks : Filter := ⟨0, ⟨0, 0⟩, .sections 16 0x40⟩

/-- Two milliseconds. -/
def briefly : Duration := ⟨0, 2000000, by decide⟩

theorem delivers_broadcasting {s : Section} {raw : List UInt8} (he : s.encode = .ok raw)
    {w : World Nat} {nodes : FilterNodes} (hn : w.nodes? networks = some nodes)
    (hd : w.device = 0) : Delivers (broadcasting s) networks (some briefly) raw w := by
  have live : w.isLive networks = true := by
    unfold World.isLive
    rw [hn]
    rfl
  have late : ∀ left?,
      (broadcasting s).wait nodes.source left? w.device = (.ok (.idle 1000000), 1) := by
    intro left?
    rw [hd]
    rfl
  have found : (broadcasting s).read nodes.source 2 = (.ok raw, 2) := by
    change (s.encode.mapError fun _ => SystemError.missing, 2) = _
    rw [he]
    rfl
  refine ⟨nodes, hn, .idle (by decide) live (run_wait_of_gates _ rfl (late _)) ?_⟩
  refine .again (by decide) live (run_wait_of_gates _ rfl rfl) live
    (run_fetch_of_gates _ rfl rfl) rfl ?_
  exact .taken (by decide) live (run_wait_of_gates _ rfl rfl) live
    (run_fetch_of_gates _ rfl found)

/-- A section of a network whose length field is as great as it can be. -/
def brimful : Section where
  header := ⟨.nitActual, 0x3039, 2, true, 0, 0⟩
  body := .nit ⟨List.replicate 15 ⟨0x80, List.replicate 255 0⟩ ++ [⟨0x80, List.replicate 225 0⟩],
    []⟩
  crc := 0

theorem exists_encode_brimful : ∃ raw, brimful.encode = .ok raw ∧ raw.length = 4098 := by
  have fits : brimful.measures.find? (·.exceeds) = none := by decide +kernel
  have size : brimful.body.size = 4086 := by decide +kernel
  obtain ⟨raw, he, hl⟩ := Section.exists_encode_of_fits fits
  rw [size] at hl
  exact ⟨raw, he, hl⟩

theorem delivers_brimful {raw : List UInt8} (he : brimful.encode = .ok raw) :
    Delivers (broadcasting brimful) networks (some briefly) raw
      (runAll (broadcasting brimful) tuning (World.fresh 0)).2 := by
  have hn : (runAll (broadcasting brimful) tuning (World.fresh 0)).2.nodes? networks =
      some ⟨⟨2, .demux, 0, 0⟩, none⟩ := by
    decide +kernel
  exact delivers_broadcasting he hn (by decide +kernel)

/-- A long section is read as it is, and the longest one without its last two bytes. -/
theorem readSection_of_delivery_brimful :
    (∃ s', ((readSection (broadcasting (.crowded 15)) networks (some briefly)).run.run
      (runAll (broadcasting (.crowded 15)) tuning (World.fresh 0)).2).1 = .ok (some s')) ∧
    ((readSection (broadcasting brimful) networks (some briefly)).run.run
      (runAll (broadcasting brimful) tuning (World.fresh 0)).2).1 =
        .error (.decode (.malformed 0x40 (.overflow 3 4095 4093))) := by
  constructor
  · have fits : (Section.crowded 15).measures.find? (·.exceeds) = none := by decide +kernel
    have size : (Section.crowded 15).body.size = 3865 := by decide +kernel
    obtain ⟨raw, he, hl⟩ := Section.exists_encode_of_fits fits
    rw [size] at hl
    have hn : (runAll (broadcasting (.crowded 15)) tuning (World.fresh 0)).2.nodes? networks =
        some ⟨⟨2, .demux, 0, 0⟩, none⟩ := by
      decide +kernel
    have hd := delivers_broadcasting he hn (by decide +kernel)
    obtain ⟨short, -⟩ := readSection_of_delivery _ (by rintro b ⟨⟩) rfl he hd
    have hshort : raw.length ≤ sectionBufferSize := by
      rw [hl]
      decide
    obtain ⟨-, s', -, hs⟩ := short hshort
    exact ⟨s', hs⟩
  · obtain ⟨raw, he, hl⟩ := exists_encode_brimful
    obtain ⟨-, long⟩ := readSection_of_delivery _ (by rintro b ⟨⟩) rfl he (delivers_brimful he)
    rw [hl] at long
    obtain ⟨-, -, hs⟩ := long (by decide)
    exact hs

/-- A device hands over a section that can be written and decoded, but neither are all of its bytes
read nor is it. -/
theorem exists_cut_section : ∃ (s : Section) (raw : List UInt8) (s' : Section),
    s.body.layout = s.header.tableId.layout ∧ (∀ b, s.header.tableId ≠ .eitSchedule b) ∧
    s.encode = .ok raw ∧ Section.decode raw = .ok s' ∧
    let P := broadcasting s
    let w := (runAll P tuning (World.fresh 0)).2
    Delivers P networks (some briefly) raw w ∧
      ((readRawSection P networks (some briefly)).run.run w).1 ≠ .ok (some raw) ∧
      ((readSection P networks (some briefly)).run.run w).1 ≠ .ok (some s') := by
  obtain ⟨raw, he, hl⟩ := exists_encode_brimful
  obtain ⟨s', hs⟩ := Section.exists_spelled_of_encode (by rintro b ⟨⟩) rfl he
  have hdec := Section.decode_append_of_spelled hs []
  rw [List.append_nil] at hdec
  have hd := delivers_brimful he
  have hlong : sectionBufferSize < raw.length := by
    rw [hl]
    decide
  refine ⟨brimful, raw, s', rfl, by rintro b ⟨⟩, he, hdec, hd, ?_, ?_⟩
  · have hr := run_read_of_delivery _ hd sectionBufferSize
    unfold readRawSection
    rw [hr]
    intro h
    have hlen := congrArg List.length (Option.some.inj (Except.ok.inj h))
    rw [List.length_take] at hlen
    omega
  · rw [run_readSection_of_cut _ he hs hlong hd]
    rintro ⟨⟩

end Multiplex.Session
