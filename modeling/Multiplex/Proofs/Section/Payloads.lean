import Multiplex.Proofs.Section.Reading
import Multiplex.Proofs.Text.Dump
import Multiplex.Section.Meaning

/-!
# The payloads of the known kinds

What the payload of a descriptor says, without a reader: each kind `Says` a meaning by a payload
that is spelled in its form. Which payloads have a meaning is a matter of lengths alone, those of
the whole payload and those that it gives itself; `Kind.Fits` says which. All others are dumped.

Main statements:

* `Kind.read_eq_ok_iff`: what the reader of a kind accepts, and as what;
* `Kind.exists_says_iff`: a payload says something just if it fits;
* `meaning_by_kind`: a descriptor means what its kind says, or is dumped whole.
-/

namespace Multiplex.Section

open Multiplex.Wire Multiplex.Text

variable {α : Type}

/-- The tag of a kind. -/
def Kind.tag : Kind → UInt8
  | networkName => 0x40
  | serviceList => 0x41
  | service => 0x48
  | shortEvent => 0x4D
  | content => 0x54
  | parentalRating => 0x55
  | terrestrialDelivery => 0x5A
  | privateDataSpecifier => 0x5F
  | defaultAuthority => 0x73

theorem Kind.ofTag?_eq_some_iff {tag : UInt8} {kind : Kind} :
    Kind.ofTag? tag = some kind ↔ kind.tag = tag := by
  constructor
  · intro h
    unfold Kind.ofTag? at h
    split_ifs at h <;> · cases h; symm; assumption
  · rintro rfl
    cases kind <;> rfl

/-! ### The grammar -/

/-- A text behind its length. -/
inductive TextForm : Wire.Form String
  | mk {length : UInt8} {bytes : List UInt8} (fits : bytes.length = length.toNat) :
      TextForm (broadcastText bytes) (length :: bytes)

/-- A code of three bytes. -/
inductive CodeForm : Wire.Form String
  | mk {bytes : List UInt8} (three : bytes.length = 3) :
      CodeForm (String.ofList (decodeUtf8 bytes)) bytes

/-- A service of a list. -/
inductive ListedService.Form : Wire.Form ListedService
  | mk (id : UInt16) (serviceType : UInt8) :
      ListedService.Form ⟨id, serviceType⟩ (big16 id ++ [serviceType])

/-- A genre: two levels of four bits, and a byte of the broadcaster's own. -/
inductive Genre.Form : Wire.Form Genre
  | mk (levels user : UInt8) : Genre.Form ⟨levels / 16, levels % 16, user⟩ [levels, user]

/-- A rating of a country. -/
inductive CountryRating.Form : Wire.Form CountryRating
  | mk {country : String} {code : List UInt8} (rating : UInt8) (h : CodeForm country code) :
      CountryRating.Form ⟨country, rating⟩ (code ++ [rating])

/-- The parameters of a terrestrial channel: a frequency in tens of hertz, three bytes of bit
fields, and four of no meaning. -/
inductive TerrestrialDelivery.Form : Wire.Form TerrestrialDelivery
  | mk (frequency : UInt32) (b0 b1 b2 : UInt8) {unused : List UInt8} (h : unused.length = 4) :
      TerrestrialDelivery.Form
        { centreFrequencyHz := frequency.toNat * 10
          bandwidthMhz := bandwidth? (b0.toNat / 0x20)
          highPriority := b0.toNat / 0x10 % 2 = 1
          timeSlicing := b0.toNat / 0x08 % 2 = 0
          mpeFec := b0.toNat / 0x04 % 2 = 0
          constellation := ["QPSK", "16-QAM", "64-QAM"].getD (b1.toNat / 0x40) "reserved"
          hierarchy := b1.toNat / 0x08 % 8
          codeRateHp := codeRate (b1.toNat % 8)
          codeRateLp := codeRate (b2.toNat / 0x20)
          guardInterval := ["1/32", "1/16", "1/8"].getD (b2.toNat / 0x08 % 4) "1/4"
          transmissionMode := ["2k", "8k", "4k"].getD (b2.toNat / 0x02 % 4) "reserved"
          otherFrequency := b2.toNat % 2 = 1 }
        (big32 frequency ++ [b0, b1, b2] ++ unused)

/-- What a payload says under a kind. Names are the whole payload and lists fill it; the others have
a form that starts it, and what is behind that is ignored. -/
inductive Kind.Says : Kind → List UInt8 → Meaning → Prop
  | networkName (payload : List UInt8) :
      Says networkName payload (.networkName (broadcastText payload))
  | serviceList {services : List ListedService} {payload : List UInt8}
      (h : Sequence ListedService.Form services payload) :
      Says serviceList payload (.serviceList services)
  | service (serviceType : UInt8) {provider name : String} {u v : List UInt8}
      (hp : TextForm provider u) (hn : TextForm name v) (rest : List UInt8) :
      Says service ([serviceType] ++ u ++ v ++ rest) (.service serviceType provider name)
  | shortEvent {language name text : String} {code u v : List UInt8} (hl : CodeForm language code)
      (hn : TextForm name u) (ht : TextForm text v) (rest : List UInt8) :
      Says shortEvent (code ++ u ++ v ++ rest) (.shortEvent language name text)
  | content {genres : List Genre} {payload : List UInt8} (h : Sequence Genre.Form genres payload) :
      Says content payload (.content genres)
  | parentalRating {ratings : List CountryRating} {payload : List UInt8}
      (h : Sequence CountryRating.Form ratings payload) :
      Says parentalRating payload (.parentalRating ratings)
  | terrestrialDelivery {delivery : TerrestrialDelivery} {u : List UInt8}
      (h : delivery.Form u) (rest : List UInt8) :
      Says terrestrialDelivery (u ++ rest) (.terrestrialDelivery delivery)
  | privateDataSpecifier (value : UInt32) (rest : List UInt8) :
      Says privateDataSpecifier (big32 value ++ rest) (.privateDataSpecifier value)
  | defaultAuthority (payload : List UInt8) :
      Says defaultAuthority payload (.defaultAuthority (broadcastText payload))

/-- The lengths that the payload of a kind must have. The second of two texts begins where the
first one's length says, and both end within the payload. -/
def Kind.Fits (payload : List UInt8) : Kind → Prop
  | networkName => True
  | serviceList => 3 ∣ payload.length
  | service => ∃ n m : UInt8, payload[1]? = some n ∧ payload[2 + n.toNat]? = some m ∧
      3 + n.toNat + m.toNat ≤ payload.length
  | shortEvent => ∃ n m : UInt8, payload[3]? = some n ∧ payload[4 + n.toNat]? = some m ∧
      5 + n.toNat + m.toNat ≤ payload.length
  | content => 2 ∣ payload.length
  | parentalRating => 4 ∣ payload.length
  | terrestrialDelivery => 11 ≤ payload.length
  | privateDataSpecifier => 4 ≤ payload.length
  | defaultAuthority => True

/-! ### The readers -/

theorem reads_text : Reads TextForm readText := by
  refine (Reads.u8.bind fun length => (Reads.bytes length.toNat).map broadcastText).congr
    fun s u => ?_
  constructor
  · rintro ⟨length, _, _, rfl, rfl, bytes, rfl, rfl, h⟩
    exact .mk h
  · rintro ⟨h⟩
    exact ⟨_, _, _, rfl, rfl, _, rfl, rfl, h⟩

theorem reads_code : Reads CodeForm readCode := by
  refine ((Reads.bytes 3).map fun bytes => String.ofList (decodeUtf8 bytes)).congr fun s u => ?_
  constructor
  · rintro ⟨bytes, rfl, rfl, h⟩
    exact .mk h
  · rintro ⟨h⟩
    exact ⟨_, rfl, rfl, h⟩

theorem ListedService.reads : Reads ListedService.Form ListedService.read := by
  refine (Reads.u16.bind fun id => Reads.u8.map (ListedService.mk id)).congr fun s u => ?_
  constructor
  · rintro ⟨id, _, _, rfl, rfl, serviceType, rfl, rfl⟩
    exact .mk id serviceType
  · rintro ⟨id, serviceType⟩
    exact ⟨id, _, _, rfl, rfl, serviceType, rfl, rfl⟩

theorem Genre.reads : Reads Genre.Form Genre.read := by
  refine (Reads.u8.bind fun levels => Reads.u8.map (Genre.mk (levels / 16) (levels % 16))).congr
    fun g u => ?_
  constructor
  · rintro ⟨levels, _, _, rfl, rfl, user, rfl, rfl⟩
    exact .mk levels user
  · rintro ⟨levels, user⟩
    exact ⟨levels, [levels], _, rfl, rfl, user, rfl, rfl⟩

theorem CountryRating.reads : Reads CountryRating.Form CountryRating.read := by
  refine (reads_code.bind fun country => Reads.u8.map (CountryRating.mk country)).congr
    fun r u => ?_
  constructor
  · rintro ⟨country, code, _, rfl, h, rating, rfl, rfl⟩
    exact .mk rating h
  · rintro ⟨rating, h⟩
    exact ⟨_, _, _, rfl, h, rating, rfl, rfl⟩

theorem TerrestrialDelivery.reads : Reads TerrestrialDelivery.Form TerrestrialDelivery.read := by
  refine (Reads.u32.bind fun frequency => Reads.u8.bind fun b0 => Reads.u8.bind fun b1 =>
    Reads.u8.bind fun b2 => (Reads.bytes 4).map _).congr fun t u => ?_
  constructor
  · rintro ⟨frequency, _, _, rfl, rfl, b0, _, _, rfl, rfl, b1, _, _, rfl, rfl, b2, _, _, rfl, rfl,
      unused, rfl, rfl, h⟩
    have hf := TerrestrialDelivery.Form.mk frequency b0 b1 b2 h
    rw [List.append_assoc] at hf
    exact hf
  · rintro ⟨frequency, b0, b1, b2, h⟩
    exact ⟨frequency, big32 frequency, _, List.append_assoc .., rfl, b0, [b0], _, rfl, rfl, b1,
      [b1], _, rfl, rfl, b2, [b2], _, rfl, rfl, _, rfl, rfl, h⟩

/-- What a reader accepts that leaves the rest of its window alone. -/
theorem exists_ok_iff_of_reads {F : Wire.Form α} {r : Reader α} (h : Reads F r) {a : α}
    {w : List UInt8} :
    (∃ c, r (.ofBytes w) = .ok a c) ↔ ∃ u rest, w = u ++ rest ∧ F a u := by
  constructor
  · rintro ⟨c, hc⟩
    obtain ⟨u, rest, hw, hu, -⟩ := (h ..).mp hc
    exact ⟨u, rest, hw, hu⟩
  · rintro ⟨u, rest, hw, hu⟩
    exact ⟨_, (h ..).mpr ⟨u, rest, hw, hu, rfl⟩⟩

theorem ListedService.Form.length_eq {s : ListedService} {u : List UInt8} (h : s.Form u) :
    u.length = 3 := by
  cases h
  rfl

theorem Genre.Form.length_eq {g : Genre} {u : List UInt8} (h : g.Form u) : u.length = 2 := by
  cases h
  rfl

theorem CountryRating.Form.length_eq {r : CountryRating} {u : List UInt8} (h : r.Form u) :
    u.length = 4 := by
  obtain ⟨rating, ⟨three⟩⟩ := h
  rw [List.length_append, three]
  rfl

/-- The items of a list to its end. -/
theorem exists_items_iff {F : Wire.Form α} {item : Reader α} {k : Nat} (hk : k ≠ 0)
    (h : Reads F item) (hl : ∀ a u, F a u → u.length = k) (f : List α → Meaning) {m : Meaning}
    {w : List UInt8} :
    (∃ c, (do return f (← items item) : Reader Meaning) (.ofBytes w) = .ok m c) ↔
      ∃ as, m = f as ∧ Sequence F as w := by
  have hne : ∀ a u, F a u → u ≠ [] := by
    intro a u hu hnil
    rw [← hl a u hu, hnil] at hk
    exact hk rfl
  have hread := (h.manyToEnd hne).map f
  constructor
  · rintro ⟨c, hc⟩
    exact (hread.eq_ok_iff.mp hc).1
  · intro hw
    exact ⟨_, hread.eq_ok_iff.mpr ⟨hw, rfl⟩⟩

/-- A payload is read as what it says. -/
theorem Kind.read_eq_ok_iff (kind : Kind) {payload : List UInt8} {m : Meaning} :
    (∃ c, Meaning.read payload kind (.ofBytes payload) = .ok m c) ↔ kind.Says payload m := by
  cases kind with
  | networkName | defaultAuthority =>
      constructor
      · rintro ⟨c, h⟩
        obtain ⟨rfl, -⟩ := Reader.pure_eq_ok.mp h
        constructor
      · rintro ⟨⟩
        exact ⟨_, rfl⟩
  | serviceList =>
      refine (exists_items_iff (by decide) ListedService.reads
        (fun _ _ => ListedService.Form.length_eq) Meaning.serviceList).trans ?_
      constructor
      · rintro ⟨services, rfl, h⟩
        exact .serviceList h
      · intro h
        cases h with
        | serviceList h => exact ⟨_, rfl, h⟩
  | content =>
      refine (exists_items_iff (by decide) Genre.reads (fun _ _ => Genre.Form.length_eq)
        Meaning.content).trans ?_
      constructor
      · rintro ⟨genres, rfl, h⟩
        exact .content h
      · intro h
        cases h with
        | content h => exact ⟨_, rfl, h⟩
  | parentalRating =>
      refine (exists_items_iff (by decide) CountryRating.reads
        (fun _ _ => CountryRating.Form.length_eq) Meaning.parentalRating).trans ?_
      constructor
      · rintro ⟨ratings, rfl, h⟩
        exact .parentalRating h
      · intro h
        cases h with
        | parentalRating h => exact ⟨_, rfl, h⟩
  | service =>
      refine (exists_ok_iff_of_reads (Reads.u8.bind fun serviceType => reads_text.bind
        fun provider => reads_text.map (Meaning.service serviceType provider))).trans ?_
      constructor
      · rintro ⟨_, rest, rfl, serviceType, _, _, rfl, rfl, provider, u, v, rfl, hp, name, rfl, hn⟩
        have h := Kind.Says.service serviceType hp hn rest
        simp only [List.append_assoc] at h ⊢
        exact h
      · intro h
        cases h with
        | service serviceType hp hn rest =>
            exact ⟨_, rest, rfl, serviceType, _, _, List.append_assoc .., rfl, _, _, _, rfl, hp,
              _, rfl, hn⟩
  | shortEvent =>
      refine (exists_ok_iff_of_reads (reads_code.bind fun language => reads_text.bind
        fun name => reads_text.map (Meaning.shortEvent language name))).trans ?_
      constructor
      · rintro ⟨_, rest, rfl, language, code, _, rfl, hl, name, u, v, rfl, hn, text, rfl, ht⟩
        have h := Kind.Says.shortEvent hl hn ht rest
        simp only [List.append_assoc] at h ⊢
        exact h
      · intro h
        cases h with
        | shortEvent hl hn ht rest =>
            exact ⟨_, rest, rfl, _, _, _, List.append_assoc .., hl, _, _, _, rfl, hn, _, rfl, ht⟩
  | terrestrialDelivery =>
      refine (exists_ok_iff_of_reads
        (TerrestrialDelivery.reads.map Meaning.terrestrialDelivery)).trans ?_
      constructor
      · rintro ⟨u, rest, rfl, delivery, rfl, h⟩
        exact .terrestrialDelivery h rest
      · intro h
        cases h with
        | terrestrialDelivery h rest => exact ⟨_, rest, rfl, _, rfl, h⟩
  | privateDataSpecifier =>
      refine (exists_ok_iff_of_reads (Reads.u32.map Meaning.privateDataSpecifier)).trans ?_
      constructor
      · rintro ⟨u, rest, rfl, value, rfl, rfl⟩
        exact .privateDataSpecifier value rest
      · intro h
        cases h with
        | privateDataSpecifier value rest => exact ⟨_, rest, rfl, value, rfl, rfl⟩

/-! ### Which payloads say something -/

/-- Whole items of `k` bytes fill a payload just if `k` divides its length. -/
theorem exists_sequence_iff_dvd {F : Wire.Form α} {k : Nat}
    (hF : ∀ u, (∃ a, F a u) ↔ u.length = k) (w : List UInt8) :
    (∃ as, Sequence F as w) ↔ k ∣ w.length := by
  constructor
  · rintro ⟨as, h⟩
    induction h with
    | nil => exact dvd_zero k
    | cons ha _ ih =>
        rw [List.length_append, (hF _).mp ⟨_, ha⟩]
        exact Dvd.dvd.add (dvd_refl k) ih
  · rintro ⟨n, hn⟩
    induction n generalizing w with
    | zero => exact ⟨[], List.length_eq_zero_iff.mp hn ▸ .nil⟩
    | succ n ih =>
        rw [Nat.mul_succ] at hn
        obtain ⟨a, ha⟩ := (hF (w.take k)).mpr (by rw [List.length_take]; omega)
        obtain ⟨as, has⟩ := ih (w.drop k) (by rw [List.length_drop]; omega)
        have h := Sequence.cons ha has
        rw [List.take_append_drop] at h
        exact ⟨a :: as, h⟩

/-- A form of `k` bytes begins a payload just if there are so many. -/
theorem exists_prefix_iff_le {F : Wire.Form α} {k : Nat}
    (hF : ∀ u, (∃ a, F a u) ↔ u.length = k) (w : List UInt8) :
    (∃ a u rest, w = u ++ rest ∧ F a u) ↔ k ≤ w.length := by
  constructor
  · rintro ⟨a, u, rest, rfl, h⟩
    rw [List.length_append, (hF u).mp ⟨a, h⟩]
    exact Nat.le_add_right ..
  · intro h
    obtain ⟨a, ha⟩ := (hF (w.take k)).mpr (List.length_take_of_le h)
    exact ⟨a, _, _, (List.take_append_drop ..).symm, ha⟩

theorem ListedService.exists_form_iff (u : List UInt8) :
    (∃ s : ListedService, s.Form u) ↔ u.length = 3 := by
  constructor
  · rintro ⟨s, h⟩
    exact h.length_eq
  · intro h
    obtain ⟨a, b, c, rfl⟩ := List.length_eq_three.mp h
    obtain ⟨id, hid⟩ := exists_big16 (show [a, b].length = 2 from rfl)
    have hf := ListedService.Form.mk id c
    rw [← hid] at hf
    exact ⟨_, hf⟩

theorem Genre.exists_form_iff (u : List UInt8) : (∃ g : Genre, g.Form u) ↔ u.length = 2 := by
  constructor
  · rintro ⟨g, h⟩
    exact h.length_eq
  · intro h
    obtain ⟨levels, user, rfl⟩ := List.length_eq_two.mp h
    exact ⟨_, .mk levels user⟩

theorem CountryRating.exists_form_iff (u : List UInt8) :
    (∃ r : CountryRating, r.Form u) ↔ u.length = 4 := by
  constructor
  · rintro ⟨r, h⟩
    exact h.length_eq
  · intro h
    match u, h with
    | [a, b, c, rating], _ =>
        have hc : [a, b, c].length = 3 := rfl
        exact ⟨_, .mk rating (.mk hc)⟩

theorem TerrestrialDelivery.exists_form_iff (u : List UInt8) :
    (∃ t : TerrestrialDelivery, t.Form u) ↔ u.length = 11 := by
  constructor
  · rintro ⟨t, h⟩
    obtain @⟨frequency, b0, b1, b2, unused, h⟩ := h
    rw [List.length_append, List.length_append, length_big32, h]
    rfl
  · intro h
    have hfour : (u.take 4).length = 4 := by
      rw [List.length_take]
      omega
    have hseven : (u.drop 4).length = 7 := by
      rw [List.length_drop]
      omega
    obtain ⟨frequency, hf⟩ := exists_big32 hfour
    match hu : u.drop 4, hseven with
    | b0 :: b1 :: b2 :: unused, hl =>
        have hunused : unused.length = 4 := by simpa using hl
        have ht := Form.mk frequency b0 b1 b2 hunused
        have e : u = big32 frequency ++ [b0, b1, b2] ++ unused := by
          rw [← hf, List.append_assoc]
          change u = u.take 4 ++ (b0 :: b1 :: b2 :: unused)
          rw [← hu, List.take_append_drop]
        exact ⟨_, e ▸ ht⟩

theorem exists_eq_big32_iff (u : List UInt8) : (∃ w, u = big32 w) ↔ u.length = 4 := by
  constructor
  · rintro ⟨w, rfl⟩
    exact length_big32 w
  · exact exists_big32

/-- A text can be read where a length stands, if it ends within the bytes. -/
theorem exists_text {w : List UInt8} {k : Nat} {n : UInt8} (h : w[k]? = some n)
    (hw : k + 1 + n.toNat ≤ w.length) :
    ∃ a u, TextForm a u ∧ w.drop k = u ++ w.drop (k + 1 + n.toNat) := by
  obtain ⟨hk, hn⟩ := List.getElem?_eq_some_iff.mp h
  have fits : ((w.drop (k + 1)).take n.toNat).length = n.toNat := by
    rw [List.length_take, List.length_drop]
    omega
  have e : w.drop (k + 1 + n.toNat) = (w.drop (k + 1)).drop n.toNat := (List.drop_drop ..).symm
  refine ⟨_, _, .mk fits, ?_⟩
  rw [List.drop_eq_getElem_cons hk, hn, e, List.cons_append, List.take_append_drop]

/-- Two texts behind `k` bytes: where the second one begins is for the first one's length to say. -/
theorem exists_texts_iff (k : Nat) (w : List UInt8) :
    (∃ front a u b v rest, w = front ++ u ++ v ++ rest ∧ front.length = k ∧ TextForm a u ∧
      TextForm b v) ↔
    ∃ n m : UInt8, w[k]? = some n ∧ w[k + 1 + n.toNat]? = some m ∧
      k + 2 + n.toNat + m.toNat ≤ w.length := by
  constructor
  · rintro ⟨front, a, u, b, v, rest, rfl, rfl, hu, hv⟩
    obtain @⟨n, x, hx⟩ := hu
    obtain @⟨m, y, hy⟩ := hv
    refine ⟨n, m, ?_, ?_, ?_⟩
    · simp
    · -- The second length stands behind the first text.
      have hl : front.length + 1 + n.toNat = (front ++ n :: x).length := by
        simp [hx]
        omega
      rw [List.append_assoc, hl, List.getElem?_append_right (Nat.le_refl _), Nat.sub_self]
      rfl
    · simp [hx, hy]
      omega
  · rintro ⟨n, m, hn, hm, hw⟩
    obtain ⟨a, u, hu, eu⟩ := exists_text hn (by omega)
    obtain ⟨b, v, hv, ev⟩ := exists_text hm (by omega)
    refine ⟨w.take k, a, u, b, v, w.drop (k + 1 + n.toNat + 1 + m.toNat), ?_, ?_, hu, hv⟩
    · rw [List.append_assoc, ← ev, List.append_assoc, ← eu, List.take_append_drop]
    · rw [List.length_take]
      omega

/-- A payload says something under a kind just if its lengths fit. -/
theorem Kind.exists_says_iff (kind : Kind) (payload : List UInt8) :
    (∃ m, kind.Says payload m) ↔ kind.Fits payload := by
  cases kind with
  | networkName => exact ⟨fun _ => trivial, fun _ => ⟨_, .networkName payload⟩⟩
  | defaultAuthority => exact ⟨fun _ => trivial, fun _ => ⟨_, .defaultAuthority payload⟩⟩
  | serviceList =>
      refine Iff.trans ?_ (exists_sequence_iff_dvd ListedService.exists_form_iff _)
      constructor
      · rintro ⟨m, h⟩
        cases h with
        | serviceList h => exact ⟨_, h⟩
      · rintro ⟨services, h⟩
        exact ⟨_, .serviceList h⟩
  | content =>
      refine Iff.trans ?_ (exists_sequence_iff_dvd Genre.exists_form_iff _)
      constructor
      · rintro ⟨m, h⟩
        cases h with
        | content h => exact ⟨_, h⟩
      · rintro ⟨genres, h⟩
        exact ⟨_, .content h⟩
  | parentalRating =>
      refine Iff.trans ?_ (exists_sequence_iff_dvd CountryRating.exists_form_iff _)
      constructor
      · rintro ⟨m, h⟩
        cases h with
        | parentalRating h => exact ⟨_, h⟩
      · rintro ⟨ratings, h⟩
        exact ⟨_, .parentalRating h⟩
  | service =>
      refine Iff.trans ?_ (exists_texts_iff 1 payload)
      constructor
      · rintro ⟨m, h⟩
        cases h with
        | service serviceType hp hn rest => exact ⟨_, _, _, _, _, rest, rfl, rfl, hp, hn⟩
      · rintro ⟨front, a, u, b, v, rest, rfl, hl, hu, hv⟩
        obtain ⟨serviceType, rfl⟩ := List.length_eq_one_iff.mp hl
        exact ⟨_, .service serviceType hu hv rest⟩
  | shortEvent =>
      refine Iff.trans ?_ (exists_texts_iff 3 payload)
      constructor
      · rintro ⟨m, h⟩
        cases h with
        | shortEvent hl hn ht rest =>
            obtain ⟨three⟩ := hl
            exact ⟨_, _, _, _, _, rest, rfl, three, hn, ht⟩
      · rintro ⟨front, a, u, b, v, rest, rfl, hl, hu, hv⟩
        exact ⟨_, .shortEvent (.mk hl) hu hv rest⟩
  | terrestrialDelivery =>
      refine Iff.trans ?_ (exists_prefix_iff_le TerrestrialDelivery.exists_form_iff payload)
      constructor
      · rintro ⟨m, h⟩
        cases h with
        | terrestrialDelivery h rest => exact ⟨_, _, rest, rfl, h⟩
      · rintro ⟨delivery, u, rest, rfl, h⟩
        exact ⟨_, .terrestrialDelivery h rest⟩
  | privateDataSpecifier =>
      refine Iff.trans ?_ (exists_prefix_iff_le exists_eq_big32_iff payload)
      constructor
      · rintro ⟨m, h⟩
        cases h with
        | privateDataSpecifier value rest => exact ⟨_, _, rest, rfl, rfl⟩
      · rintro ⟨value, u, rest, rfl, rfl⟩
        exact ⟨_, .privateDataSpecifier value rest⟩

/-! ### Meanings -/

theorem Kind.Says.ne_raw {kind : Kind} {payload : List UInt8} {m : Meaning}
    (h : kind.Says payload m) (dump : String) : m ≠ .raw dump := by
  rintro rfl
  cases h

/-- A descriptor of a known kind means what its payload says, and is dumped if that is nothing. -/
theorem meaning_cases (d : Descriptor) {kind : Kind} (h : kind.tag = d.tag) :
    (kind.Fits d.payload ∧ kind.Says d.payload d.meaning) ∨
      (¬ kind.Fits d.payload ∧ d.meaning = .raw (hexDump d.payload)) := by
  have hk := Kind.ofTag?_eq_some_iff.mpr h
  unfold Descriptor.meaning
  rw [hk]
  dsimp only
  cases hr : Meaning.read d.payload kind (.ofBytes d.payload) with
  | ok m c =>
      have hs := (Kind.read_eq_ok_iff kind).mp ⟨c, hr⟩
      exact .inl ⟨(kind.exists_says_iff _).mp ⟨m, hs⟩, hs⟩
  | error e c =>
      refine .inr ⟨fun hf => ?_, rfl⟩
      -- A payload that fits says something, and that would have been read.
      obtain ⟨m, hm⟩ := (kind.exists_says_iff _).mpr hf
      obtain ⟨c', hc⟩ := (Kind.read_eq_ok_iff kind).mpr hm
      rw [hr] at hc
      cases hc

theorem meaning_of_unknown (d : Descriptor) (h : ∀ kind : Kind, kind.tag ≠ d.tag) :
    d.meaning = .raw (hexDump d.payload) := by
  have hk : Kind.ofTag? d.tag = none := by
    cases ht : Kind.ofTag? d.tag with
    | none => rfl
    | some kind => exact absurd (Kind.ofTag?_eq_some_iff.mp ht) (h kind)
  unfold Descriptor.meaning
  rw [hk]

/-- A descriptor is dumped just if its tag is of no kind or its payload does not fit the kind; the
dump is of the whole payload and can be read back to it. Any other descriptor means what its kind
says. -/
theorem meaning_by_kind (d : Descriptor) :
    ((∃ dump, d.meaning = .raw dump) ↔
      ∀ kind : Kind, kind.tag = d.tag → ¬ kind.Fits d.payload) ∧
    (∀ dump, d.meaning = .raw dump →
      IsDump d.payload dump ∧ readDump? dump.toList = some d.payload) ∧
    ∀ kind : Kind, kind.tag = d.tag → kind.Fits d.payload → kind.Says d.payload d.meaning := by
  refine ⟨⟨?_, ?_⟩, ?_, ?_⟩
  · rintro ⟨dump, hd⟩ kind hk hf
    rcases meaning_cases d hk with ⟨-, hs⟩ | ⟨hn, -⟩
    · exact hs.ne_raw dump hd
    · exact hn hf
  · intro h
    by_cases hk : ∃ kind : Kind, kind.tag = d.tag
    · obtain ⟨kind, hk⟩ := hk
      rcases meaning_cases d hk with ⟨hf, -⟩ | ⟨-, hd⟩
      · exact absurd hf (h kind hk)
      · exact ⟨_, hd⟩
    · exact ⟨_, meaning_of_unknown d fun kind hkind => hk ⟨kind, hkind⟩⟩
  · intro dump hd
    have e : dump = hexDump d.payload := by
      by_cases hk : ∃ kind : Kind, kind.tag = d.tag
      · obtain ⟨kind, hk⟩ := hk
        rcases meaning_cases d hk with ⟨-, hs⟩ | ⟨-, hd'⟩
        · exact absurd hd (hs.ne_raw dump)
        · exact Meaning.raw.inj (hd.symm.trans hd')
      · exact Meaning.raw.inj
          (hd.symm.trans (meaning_of_unknown d fun kind hkind => hk ⟨kind, hkind⟩))
    rw [e]
    exact ⟨isDump_hexDump _, readDump?_hexDump _⟩
  · intro kind hk hf
    rcases meaning_cases d hk with ⟨-, hs⟩ | ⟨hn, -⟩
    · exact hs
    · exact absurd hf hn

/-- A service with a byte behind its texts, and one whose second text breaks off. -/
theorem meaning_by_kind_cutName :
    Kind.service.Says [0x01, 0x01, 0x41, 0x01, 0x42, 0xFF]
        (Descriptor.meaning ⟨0x48, [0x01, 0x01, 0x41, 0x01, 0x42, 0xFF]⟩) ∧
      ∃ dump, Descriptor.meaning ⟨0x48, [0x01, 0x01, 0x41, 0x02, 0x42]⟩ = .raw dump ∧
        readDump? dump.toList = some [0x01, 0x01, 0x41, 0x02, 0x42] := by
  constructor
  · apply (meaning_by_kind ⟨0x48, [0x01, 0x01, 0x41, 0x01, 0x42, 0xFF]⟩).2.2 .service rfl
    exact ⟨0x01, 0x01, rfl, rfl, by decide⟩
  · obtain ⟨hraw, hdump, -⟩ := meaning_by_kind ⟨0x48, [0x01, 0x01, 0x41, 0x02, 0x42]⟩
    have hcut : ∀ kind : Kind, kind.tag = 0x48 →
        ¬ kind.Fits [0x01, 0x01, 0x41, 0x02, 0x42] := by
      intro kind hk hf
      obtain rfl : Kind.service = kind := Option.some.inj (Kind.ofTag?_eq_some_iff.mpr hk)
      obtain ⟨n, m, hn, hm, hl⟩ := hf
      cases hn
      cases hm
      exact absurd hl (by decide)
    obtain ⟨dump, hd⟩ := hraw.mpr hcut
    exact ⟨dump, hd, (hdump dump hd).2⟩

end Multiplex.Section
