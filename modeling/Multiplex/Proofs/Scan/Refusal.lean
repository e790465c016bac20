import Multiplex.Proofs.Scan.Layout

/-!
# Texts that are no scan tables

A text is a scan table unless one of its lines is bad: the line has none of the forms, or it is an
entry without a channel above it. What counts is the first bad line, whatever comes behind it. `Cut`
says what the lines of a text are, `Form` and `Says` what a line can say, and `Bad` which lines are
bad; none of them refers to the reading.

Main statements:

* `cut_iff`, `Line.read?_eq_some_iff`: lines, and what they say, are read as they are declared;
* `Table.readFrom_cases`, `take?_eq_none_iff`: reading ends at the first bad line;
* `parse_by_lines`: which texts are scan tables, and what they and the others come to.
-/

namespace Multiplex.Text

/-! ### The lines of a text -/

/-- What can end a line. A line feed behind a carriage return takes it into the end. -/
def EndsLine (raw ending : List Char) : Prop :=
  ending = ['\n'] ∧ raw.getLast? ≠ some '\r' ∨ ending = ['\r', '\n']

/-- A text is cut into lines, each with an end but perhaps the last, which is not empty then. -/
inductive Cut : List Char → List (List Char) → Prop
  | nothing : Cut [] []
  | last {raw : List Char} (filled : raw ≠ []) (single : '\n' ∉ raw) : Cut raw [raw]
  | ended {raw ending text : List Char} {raws : List (List Char)} (single : '\n' ∉ raw)
      (ends : EndsLine raw ending) (rest : Cut text raws) :
      Cut (raw ++ ending ++ text) (raw :: raws)

variable {c : Char} {text raw ending : List Char} {raws : List (List Char)}

theorem EndsLine.cons (h : EndsLine raw ending) (apart : c = '\r' → raw = [] → ending ≠ ['\n']) :
    EndsLine (c :: raw) ending := by
  refine h.imp_left fun ⟨he, hr⟩ => ⟨he, ?_⟩
  cases raw with
  | nil => simpa using fun hc => apart hc rfl he
  | cons d raw => rwa [List.getLast?_cons_cons]

theorem EndsLine.of_cons (h : EndsLine (c :: raw) ending) : EndsLine raw ending := by
  refine h.imp_left fun ⟨he, hr⟩ => ⟨he, fun hl => hr ?_⟩
  rw [List.getLast?_cons, hl]
  rfl

/-- A line and its end are taken off together. -/
theorem lines_append_ending (single : '\n' ∉ raw) (ends : EndsLine raw ending) :
    lines (raw ++ ending ++ text) = raw :: lines text := by
  induction raw with
  | nil =>
      obtain ⟨rfl, -⟩ | rfl := ends
      · simp [lines]
      · simp [lines]
  | cons c raw ih =>
      simp only [List.mem_cons, not_or] at single
      have apart : c = '\r' → (raw ++ ending ++ text).head? ≠ some '\n' := by
        rintro rfl
        cases raw with
        | nil =>
            obtain ⟨-, hr⟩ | rfl := ends
            · simp at hr
            · simp
        | cons d raw => simpa using (List.ne_of_not_mem_cons single.2).symm
      exact lines_cons_of_ne (Ne.symm single.1) apart (ih single.2 ends.of_cons)

theorem eq_nil_of_lines (h : lines text = []) : text = [] := by
  fun_cases lines text with
  | case1 => rfl
  | case2 => simp [lines] at h
  | case3 => simp [lines] at h
  | case4 => simp_all [lines]
  | case5 => simp_all [lines]

theorem cut_lines (text : List Char) : Cut text (lines text) := by
  fun_induction lines text with
  | case1 => exact .nothing
  | case2 rest ih => exact @Cut.ended [] ['\r', '\n'] rest _ (by simp) (.inr rfl) ih
  | case3 rest unbroken ih => exact @Cut.ended [] ['\n'] rest _ (by simp) (.inl ⟨rfl, by simp⟩) ih
  | case4 c rest unbroken hc he ih =>
      obtain rfl := eq_nil_of_lines he
      exact .last (by simp) (by simpa using Ne.symm hc)
  | case5 c rest unbroken hc line after hl ih =>
      rw [hl] at ih
      cases ih with
      | last filled single => exact .last (by simp) (by simp [Ne.symm hc, single])
      | @ended _ ending text _ single ends more =>
          refine @Cut.ended (c :: line) ending text after (by simp [Ne.symm hc, single])
            (ends.cons ?_) more
          rintro hr rfl rfl
          exact unbroken text hr rfl

/-- The lines of a text are what it is cut into. -/
theorem cut_iff : Cut text raws ↔ lines text = raws := by
  constructor
  · intro h
    induction h with
    | nothing => rfl
    | last filled single => exact lines_of_not_mem single filled
    | ended single ends rest ih => rw [lines_append_ending single ends, ih]
  · rintro rfl
    exact cut_lines text

/-! ### Texts without blanks at their ends -/

/-- What is left of a text without the blanks at its ends. -/
def TrimsTo (raw text : List Char) : Prop :=
  Trimmed text ∧ ∃ before after, raw = before ++ text ++ after ∧
    (∀ c ∈ before, isBlank c) ∧ ∀ c ∈ after, isBlank c

theorem trimEnd_append_blanks (text : List Char) :
    ∃ after, text = trimEnd text ++ after ∧ ∀ c ∈ after, isBlank c := by
  refine ⟨(text.reverse.takeWhile isBlank).reverse, ?_, fun c hc => ?_⟩
  · rw [trimEnd, trimStart, ← List.reverse_append, List.takeWhile_append_dropWhile,
      List.reverse_reverse]
  · exact List.mem_takeWhile_imp (List.mem_reverse.mp hc)

theorem head?_trimStart (text : List Char) : ∀ c ∈ (trimStart text).head?, isBlank c = false := by
  intro c hc
  have h := List.head?_dropWhile_not isBlank text
  rw [← trimStart, Option.mem_def.mp hc] at h
  exact h

theorem trimmed_trim (text : List Char) : Trimmed (trim text) := by
  constructor
  · intro c hc
    obtain ⟨after, he, -⟩ := trimEnd_append_blanks (trimStart text)
    refine head?_trimStart text c ?_
    rw [he, List.head?_append, ← trim, Option.mem_def.mp hc]
    rfl
  · intro c hc
    rw [trim, trimEnd, List.getLast?_reverse] at hc
    exact head?_trimStart _ c hc

theorem Trimmed.trimEnd_of_suffix (h : Trimmed raw) (hs : text <:+ raw) : trimEnd text = text := by
  obtain ⟨before, rfl⟩ := hs
  rw [trimEnd, trimStart_of_head?, List.reverse_reverse]
  intro c hc
  refine h.last c ?_
  rw [List.head?_reverse] at hc
  rw [List.getLast?_append, Option.mem_def.mp hc]
  rfl

theorem trimsTo_iff : TrimsTo raw text ↔ trim raw = text := by
  constructor
  · rintro ⟨trimmed, before, after, rfl, hb, ha⟩
    rw [trim_append hb ha, trimmed.trim_eq]
  · rintro rfl
    obtain ⟨after, he, ha⟩ := trimEnd_append_blanks (trimStart raw)
    refine ⟨trimmed_trim raw, raw.takeWhile isBlank, after, ?_, fun c => List.mem_takeWhile_imp, ha⟩
    rw [List.append_assoc, trim, ← he, trimStart, List.takeWhile_append_dropWhile]

end Multiplex.Text

namespace Multiplex.Scan

open Multiplex.Text

/-! ### What lines can say -/

/-- What a text without blanks at its ends says. -/
inductive Form : Line → List Char → Prop
  /-- Nothing. -/
  | nothing : Form .blank []
  /-- A comment. -/
  | comment {mark : Char} (marked : mark = ';' ∨ mark = '#') (rest : List Char) :
      Form .blank (mark :: rest)
  /-- A name in brackets, with nothing behind the first closing bracket. -/
  | header {inside name : List Char} (unclosed : ']' ∉ inside) (trimmed : TrimsTo inside name) :
      Form (.header (String.ofList name)) ('[' :: (inside ++ [']']))
  /-- A key, spaces and tabulators, an equals sign, and a value behind spaces and tabulators. -/
  | entry {key before after value : List Char} (named : key ≠ [])
      (chars : ∀ c ∈ key, c.isAlphanum ∨ c = '_') (opened : ∀ c ∈ before, c = ' ' ∨ c = '\t')
      (closed : ∀ c ∈ after, c = ' ' ∨ c = '\t') (tight : ∀ c ∈ value.head?, c ≠ ' ' ∧ c ≠ '\t') :
      Form (.entry (String.ofList key) (String.ofList value))
        (key ++ before ++ '=' :: (after ++ value))

/-- What a raw line says. -/
def Says (line : Line) (raw : List Char) : Prop := ∃ text, TrimsTo raw text ∧ Form line text

/-- A line that is bad behind some others: it has none of the forms, or it is an entry and none of
the others starts a channel. -/
def Bad (above : List (List Char)) (raw : List Char) : Prop :=
  (∀ line, ¬Says line raw) ∨
    (∃ key value, Says (.entry key value) raw) ∧ ∀ r ∈ above, ∀ name, ¬Says (.header name) r

/-- A channel as it is kept when its entries are set one after the other. -/
def Channel.kept (c : Channel) : Channel :=
  c.entries.foldl (fun kept e => kept.insert e.1 e.2) ⟨c.name, []⟩

variable {raw text : List Char} {raws above below : List (List Char)} {line : Line}
  {said : List Line} {t t' : Table}

theorem isKeyChar_iff_or {c : Char} : isKeyChar c = true ↔ c.isAlphanum ∨ c = '_' := by
  simp [isKeyChar]

theorem isSpace_iff {c : Char} : isSpace c = true ↔ c = ' ' ∨ c = '\t' := by
  simp [isSpace]

theorem form_of_readHeader? (h : readHeader? text = some line) : Form line text := by
  unfold readHeader? at h
  split at h
  · next rest =>
      split_ifs at h with hr
      obtain rfl := Option.some.inj h
      have unclosed : ']' ∉ rest.takeWhile (· != ']') := fun hm => by
        simpa using List.mem_takeWhile_imp hm
      have split : rest = rest.takeWhile (· != ']') ++ [']'] := by
        rw [← hr, List.takeWhile_append_dropWhile]
      generalize rest.takeWhile (· != ']') = inside at unclosed split ⊢
      subst split
      exact .header unclosed (trimsTo_iff.mpr rfl)
  · cases h

theorem form_of_readEntry? (trimmed : Trimmed text) (h : readEntry? text = some line) :
    Form line text := by
  unfold readEntry? at h
  dsimp only at h
  split at h
  · next value hv =>
      split_ifs at h with hk
      obtain rfl := Option.some.inj h
      have split : text =
          text.takeWhile isKeyChar ++ (text.dropWhile isKeyChar).takeWhile isSpace ++
            '=' :: (value.takeWhile isSpace ++ value.dropWhile isSpace) := by
        rw [List.takeWhile_append_dropWhile, ← hv, List.append_assoc,
          List.takeWhile_append_dropWhile, List.takeWhile_append_dropWhile]
      have kept : trimEnd (value.dropWhile isSpace) = value.dropWhile isSpace := by
        refine trimmed.trimEnd_of_suffix ?_
        refine .trans (List.dropWhile_suffix isSpace) (.trans (List.suffix_cons '=' value) ?_)
        rw [← hv]
        exact .trans (List.dropWhile_suffix isSpace) (List.dropWhile_suffix isKeyChar)
      have tight : ∀ c ∈ (value.dropWhile isSpace).head?, c ≠ ' ' ∧ c ≠ '\t' := by
        intro c hc
        have hn := List.head?_dropWhile_not isSpace value
        rw [Option.mem_def.mp hc] at hn
        simpa [isSpace] using hn
      have form := @Form.entry (text.takeWhile isKeyChar)
        ((text.dropWhile isKeyChar).takeWhile isSpace) (value.takeWhile isSpace)
        (value.dropWhile isSpace) (List.isEmpty_eq_false_iff.mp (Bool.eq_false_iff.mpr hk))
        (fun c hc => isKeyChar_iff_or.mp (List.mem_takeWhile_imp hc))
        (fun c hc => isSpace_iff.mp (List.mem_takeWhile_imp hc))
        (fun c hc => isSpace_iff.mp (List.mem_takeWhile_imp hc)) tight
      rw [← split] at form
      rwa [kept]
  · cases h

theorem readTrimmed?_eq_some_iff (trimmed : Trimmed text) :
    readTrimmed? text = some line ↔ Form line text := by
  constructor
  · intro h
    unfold readTrimmed? at h
    split at h
    · obtain rfl := Option.some.inj h
      exact .nothing
    · split_ifs at h with hm
      · obtain rfl := Option.some.inj h
        exact .comment hm _
      · simp only [Option.orElse_eq_orElse, Option.orElse_eq_or, Option.or_eq_some_iff] at h
        rcases h with h | ⟨-, h⟩
        · exact form_of_readHeader? h
        · exact form_of_readEntry? trimmed h
  · intro h
    cases h with
    | nothing => rfl
    | comment marked rest => rw [readTrimmed?, if_pos marked]
    | header unclosed ht =>
        rw [readTrimmed?, if_neg (by decide), readHeader?_of_closed unclosed, trimsTo_iff.mp ht]
        rfl
    | @entry key before after value named chars opened closed tight =>
        have hk : ∀ c ∈ key, isKeyChar c := fun c hc => isKeyChar_iff_or.mpr (chars c hc)
        have hs : ∀ c ∈ after, isSpace c := fun c hc => isSpace_iff.mpr (closed c hc)
        have first : (after ++ value).dropWhile isSpace = value := by
          rw [List.dropWhile_append_of_pos hs]
          cases value with
          | nil => rfl
          | cons c value => exact List.dropWhile_cons_of_neg (by simpa [isSpace] using tight c rfl)
        have last : trimEnd value = value := trimmed.trimEnd_of_suffix
          ⟨key ++ before ++ '=' :: after, by simp⟩
        have read : readEntry? (key ++ before ++ '=' :: (after ++ value)) =
            some (.entry (String.ofList key) (String.ofList value)) := by
          rw [readEntry?_of_key named hk fun c hc => isSpace_iff.mpr (opened c hc), first, last]
        cases key with
        | nil => exact absurd rfl named
        | cons c key =>
            rw [← read]
            exact readTrimmed?_of_isKeyChar (hk c (by simp))

/-- What a line says is read. -/
theorem Line.read?_eq_some_iff : Line.read? raw = some line ↔ Says line raw := by
  rw [Line.read?, readTrimmed?_eq_some_iff (trimmed_trim raw)]
  constructor
  · exact fun h => ⟨_, trimsTo_iff.mpr rfl, h⟩
  · rintro ⟨text, ht, h⟩
    rwa [trimsTo_iff.mp ht]

/-! ### Reading lines -/

/-- The table with what a raw line says. -/
def Table.take? (t : Table) (raw : List Char) : Option Table := (Line.read? raw).bind t.add?

theorem Table.take?_of_meaning (h : Says line raw) (t : Table) : t.take? raw = t.add? line := by
  rw [take?, Line.read?_eq_some_iff.mpr h, Option.bind_some]

/-- Raw lines are taken as what they say. -/
theorem foldlM_take?_eq_some_iff : raws.foldlM Table.take? t = some t' ↔
    ∃ said, List.Forall₂ Says said raws ∧ said.foldlM Table.add? t = some t' := by
  induction raws generalizing t with
  | nil => simp
  | cons raw raws ih =>
      simp only [List.foldlM_cons, Option.bind_eq_bind, Option.bind_eq_some_iff, ih,
        List.forall₂_cons_right_iff]
      constructor
      · rintro ⟨t₁, ht, said, hs, hf⟩
        obtain ⟨line, hl, ha⟩ := Option.bind_eq_some_iff.mp ht
        exact ⟨line :: said, ⟨line, said, Line.read?_eq_some_iff.mp hl, hs, rfl⟩, by simp [ha, hf]⟩
      · rintro ⟨_, ⟨line, said, hl, hs, rfl⟩, hf⟩
        obtain ⟨t₁, ha, hf⟩ := Option.bind_eq_some_iff.mp hf
        exact ⟨t₁, (Table.take?_of_meaning hl t).trans ha, said, hs, hf⟩

/-- Lines that can be taken are passed over. -/
theorem Table.readFrom_append (h : above.foldlM Table.take? t = some t') (number : Nat)
    (rest : List (List Char)) :
    t.readFrom number (above ++ rest) = t'.readFrom (number + above.length) rest := by
  induction above generalizing t number with
  | nil =>
      obtain rfl := Option.some.inj h
      rfl
  | cons raw above ih =>
      obtain ⟨t₁, ht, h⟩ := Option.bind_eq_some_iff.mp h
      rw [List.cons_append, Table.readFrom_cons ht, ih h, List.length_cons, Nat.add_assoc,
        Nat.add_comm 1]

theorem Table.readFrom_of_take?_eq_none (h : t.take? raw = none) (number : Nat)
    (below : List (List Char)) :
    t.readFrom number (raw :: below) = .error (.malformedLine number (String.ofList raw)) := by
  rw [take?] at h
  rw [readFrom, h]

/-- Reading ends well if all lines can be taken, and otherwise at the first that cannot. -/
theorem Table.readFrom_cases (t : Table) (number : Nat) (raws : List (List Char)) :
    (∃ t', raws.foldlM Table.take? t = some t' ∧ t.readFrom number raws = .ok t') ∨
    ∃ above raw below t', raws = above ++ raw :: below ∧ above.foldlM Table.take? t = some t' ∧
      t'.take? raw = none ∧ t.readFrom number raws =
        .error (.malformedLine (number + above.length) (String.ofList raw)) := by
  induction raws generalizing t number with
  | nil => exact .inl ⟨t, rfl, rfl⟩
  | cons raw raws ih =>
      cases h : t.take? raw with
      | none =>
          exact .inr ⟨[], raw, raws, t, rfl, rfl, h, readFrom_of_take?_eq_none h number raws⟩
      | some t₁ =>
          have step := Table.readFrom_cons h number raws
          obtain ⟨t', hf, hr⟩ | ⟨above, raw', below, t', rfl, hf, hn, hr⟩ := ih t₁ (number + 1)
          · exact .inl ⟨t', by simp [h, hf], step.trans hr⟩
          · refine .inr ⟨raw :: above, raw', below, t', rfl, by simp [h, hf], hn, ?_⟩
            rw [step, hr, List.length_cons, Nat.add_assoc, Nat.add_comm 1]

/-! ### Bad lines -/

theorem Says.unique {line' : Line} (h : Says line raw) (h' : Says line' raw) : line = line' :=
  Option.some.inj ((Line.read?_eq_some_iff.mpr h).symm.trans (Line.read?_eq_some_iff.mpr h'))

theorem mem_iff_of_forall₂ (h : List.Forall₂ Says said raws) :
    line ∈ said ↔ ∃ raw ∈ raws, Says line raw := by
  induction h with
  | nil => simp
  | @cons line' raw _ _ hl _ ih =>
      have same : line = line' ↔ Says line raw :=
        ⟨by rintro rfl; exact hl, fun h => h.unique hl⟩
      simp [ih, same]

/-- Only an entry can be refused by a table, and only by one without channels. -/
theorem Table.add?_eq_none_iff :
    t.add? line = none ↔ t.channels = [] ∧ ∃ key value, line = .entry key value := by
  cases line with
  | blank | header => simp [add?]
  | entry key value =>
      rw [add?, ← List.getLast?_eq_none_iff]
      cases t.channels.getLast? <;> simp

theorem Table.add?_channels_eq_nil_iff (h : t.add? line = some t') :
    t'.channels = [] ↔ t.channels = [] ∧ ∀ name, line ≠ .header name := by
  cases line with
  | blank =>
      obtain rfl := Option.some.inj h
      simp
  | header name =>
      obtain rfl := Option.some.inj h
      simp
  | entry key value =>
      have filled : t.channels ≠ [] := fun hn => by
        rw [add?_eq_none_iff.mpr ⟨hn, key, value, rfl⟩] at h
        cases h
      rw [add?] at h
      split at h
      · cases h
      · obtain rfl := Option.some.inj h
        simp [filled]

/-- A table has no channels as long as no line has started one. -/
theorem channels_eq_nil_iff (h : said.foldlM Table.add? t = some t') :
    t'.channels = [] ↔ t.channels = [] ∧ ∀ name, Line.header name ∉ said := by
  induction said generalizing t with
  | nil =>
      obtain rfl := Option.some.inj h
      simp
  | cons line said ih =>
      obtain ⟨t₁, ht, h⟩ := Option.bind_eq_some_iff.mp h
      rw [ih h, Table.add?_channels_eq_nil_iff ht]
      simp only [List.mem_cons, not_or, forall_and, and_assoc, ne_eq, eq_comm]

/-- The lines that cannot be taken behind some others are the bad ones. -/
theorem take?_eq_none_iff (h : above.foldlM Table.take? Table.empty = some t) :
    t.take? raw = none ↔ Bad above raw := by
  obtain ⟨said, hs, hf⟩ := foldlM_take?_eq_some_iff.mp h
  cases hl : Line.read? raw with
  | none =>
      have unread : ∀ line, ¬Says line raw := fun line h => by
        rw [Line.read?_eq_some_iff.mpr h] at hl
        cases hl
      simp [Table.take?, hl, Bad, unread]
  | some line =>
      have told := Line.read?_eq_some_iff.mp hl
      have entry : (∃ key value, line = .entry key value) ↔
          ∃ key value, Says (.entry key value) raw :=
        exists₂_congr fun key value => ⟨by rintro rfl; exact told, told.unique⟩
      have unstarted : t.channels = [] ↔ ∀ r ∈ above, ∀ name, ¬Says (.header name) r := by
        rw [channels_eq_nil_iff hf]
        simp only [mem_iff_of_forall₂ hs, not_exists, not_and, Table.empty, true_and]
        exact ⟨fun h r hr name => h name r hr, fun h name r hr => h r hr name⟩
      have read : ¬∀ line, ¬Says line raw := fun h => h line told
      rw [Table.take?_of_meaning told, Table.add?_eq_none_iff, entry, unstarted, Bad, and_comm]
      simp only [read, false_or]

/-- Behind lines that were taken there is no bad one among them. -/
theorem not_bad_of_foldlM (h : (above ++ raw :: below).foldlM Table.take? Table.empty = some t) :
    ¬Bad above raw := by
  rw [List.foldlM_append] at h
  obtain ⟨t₁, ht, h⟩ := Option.bind_eq_some_iff.mp h
  obtain ⟨t₂, ht', -⟩ := Option.bind_eq_some_iff.mp h
  rw [← take?_eq_none_iff ht, ht']
  simp

/-! ### Channels as they are written -/

theorem Channel.kept_append (c : Channel) (key value : String) :
    Channel.kept { c with entries := c.entries ++ [(key, value)] } = c.kept.insert key value := by
  rw [Channel.kept, Channel.kept, List.foldl_append]
  rfl

/-- What one more line adds to the channels that were written. -/
theorem exists_written_of_add? {written : List Channel}
    (h : Table.add? ⟨written.map Channel.kept⟩ line = some t) :
    ∃ written' : List Channel, t = ⟨written'.map Channel.kept⟩ ∧
      written'.flatMap Channel.lines =
        written.flatMap Channel.lines ++ [line].filter (· ≠ .blank) := by
  cases line with
  | blank =>
      obtain rfl := Option.some.inj h
      exact ⟨written, rfl, by simp⟩
  | header name =>
      obtain rfl := Option.some.inj h
      exact ⟨written ++ [⟨name, []⟩], by simp [Channel.kept], by simp [Channel.lines]⟩
  | entry key value =>
      rcases List.eq_nil_or_concat written with rfl | ⟨before, c, rfl⟩
      · cases h
      · have taken : Table.add? ⟨(before ++ [c]).map Channel.kept⟩ (.entry key value) =
            some ⟨before.map Channel.kept ++ [c.kept.insert key value]⟩ := by
          simp [Table.add?]
        rw [List.concat_eq_append] at h
        obtain rfl := Option.some.inj (taken.symm.trans h)
        refine ⟨before ++ [{ c with entries := c.entries ++ [(key, value)] }], ?_, ?_⟩
        · rw [List.map_append, List.map_singleton, Channel.kept_append]
        · simp [Channel.lines]

/-- The lines of a table write channels, and the table has these as they are kept. -/
theorem exists_written_of_foldlM {written : List Channel}
    (h : said.foldlM Table.add? ⟨written.map Channel.kept⟩ = some t) :
    ∃ written' : List Channel, t = ⟨written'.map Channel.kept⟩ ∧
      written'.flatMap Channel.lines =
        written.flatMap Channel.lines ++ said.filter (· ≠ .blank) := by
  induction said generalizing written with
  | nil =>
      obtain rfl := Option.some.inj h
      exact ⟨written, rfl, by simp⟩
  | cons line said ih =>
      obtain ⟨t₁, ht, h⟩ := Option.bind_eq_some_iff.mp h
      obtain ⟨written₁, rfl, hw₁⟩ := exists_written_of_add? ht
      obtain ⟨written', rfl, hw⟩ := ih h
      refine ⟨written', rfl, ?_⟩
      rw [hw, hw₁, List.append_assoc, ← List.filter_append, List.singleton_append]

/-- A text is refused if and only if one of its lines is bad. The failure has the number and the
text of the first bad line, whatever comes behind it. A text that is not refused is read as what its
lines say: the channels that they start, in order, and for each of these the entries up to the next
one, set one after the other. -/
theorem parse_by_lines (text : String) : ∃ raws, Cut text.toList raws ∧
    ((∃ failure, Table.parse text = .error failure) ↔
      ∃ above raw below, raws = above ++ raw :: below ∧ Bad above raw) ∧
    (∀ failure, Table.parse text = .error failure → ∃ above raw below,
      raws = above ++ raw :: below ∧ Bad above raw ∧
      (∀ above' raw' below', above = above' ++ raw' :: below' → ¬Bad above' raw') ∧
      failure = .malformedLine (above.length + 1) (String.ofList raw) ∧
      ∀ (other : String) (rest : List (List Char)), Cut other.toList (above ++ raw :: rest) →
        Table.parse other = .error failure) ∧
    ∀ t, Table.parse text = .ok t → ∃ (said : List Line) (written : List Channel),
      List.Forall₂ Says said raws ∧
      said.filter (· ≠ .blank) = written.flatMap Channel.lines ∧
      t = ⟨written.map Channel.kept⟩ := by
  refine ⟨Text.lines text.toList, cut_lines _, ?_⟩
  have read : ∀ other : String, Table.parse other =
      Table.empty.readFrom 1 (Text.lines other.toList) := fun _ => rfl
  rcases Table.readFrom_cases Table.empty 1 (Text.lines text.toList) with
    ⟨t, hf, hr⟩ | ⟨above, raw, below, t₁, hl, hf, hn, hr⟩
  · rw [read, hr]
    refine ⟨?_, by simp, ?_⟩
    · simp only [reduceCtorEq, exists_false, false_iff]
      rintro ⟨above, raw, below, hl, bad⟩
      exact not_bad_of_foldlM (hl ▸ hf) bad
    · rintro _ ⟨⟩
      obtain ⟨said, hs, hf⟩ := foldlM_take?_eq_some_iff.mp hf
      obtain ⟨written, rfl, hw⟩ := @exists_written_of_foldlM said t [] hf
      exact ⟨said, written, hs, hw.symm, rfl⟩
  · have bad := (take?_eq_none_iff hf).mp hn
    rw [read, hr]
    refine ⟨by simpa using ⟨above, raw, ⟨below, hl⟩, bad⟩, ?_, by simp⟩
    rintro _ ⟨⟩
    refine ⟨above, raw, below, hl, bad, ?_, by rw [Nat.add_comm], ?_⟩
    · rintro above' raw' below' rfl
      exact not_bad_of_foldlM hf
    · intro other rest cut
      rw [read, cut_iff.mp cut, Table.readFrom_append hf, Table.readFrom_of_take?_eq_none hn]

/-- A name ends at the first closing bracket, and what is behind it makes the line bad. -/
example : Table.parse "; A\r\n[B]\r\n k = v\r\n[a]b]\nk" = .error (.malformedLine 4 "[a]b]") := rfl

end Multiplex.Scan
