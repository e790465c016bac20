import Multiplex.Scan.Table
import Mathlib

/-!
# The layout of scan tables

A scan table is read the same whatever its layout: the case of the letters in keys, the blanks
around lines and names, the spaces around equals signs, empty lines, comments and the kind of the
line ends. `Spells` says which texts stand for a line, and `Writes` how a whole text is made of
them; neither refers to the reading.

Main statement:

* `parse_of_writes`: a text that writes channels is read as these channels, in order.
-/

namespace Multiplex.Text

/-! ### Blanks at the ends -/

/-- A text that neither starts nor ends with a blank. -/
structure Trimmed (text : List Char) : Prop where
  first : ∀ c ∈ text.head?, isBlank c = false
  last : ∀ c ∈ text.getLast?, isBlank c = false

instance (text : List Char) : Decidable (Trimmed text) :=
  decidable_of_iff (text.head?.all (!isBlank ·) ∧ text.getLast?.all (!isBlank ·)) <| by
    simp only [Option.all_eq_true, Bool.not_eq_true']
    exact ⟨fun h => ⟨h.1, h.2⟩, fun h => ⟨h.1, h.2⟩⟩

variable {c : Char} {text before after : List Char}

theorem trimStart_of_head? (h : ∀ c ∈ text.head?, isBlank c = false) : trimStart text = text := by
  cases text with
  | nil => rfl
  | cons c text => exact List.dropWhile_cons_of_neg (by simpa using h)

theorem Trimmed.trimEnd_eq (h : Trimmed text) : trimEnd text = text := by
  rw [trimEnd, trimStart_of_head? (by simpa using h.last), List.reverse_reverse]

theorem Trimmed.trim_eq (h : Trimmed text) : trim text = text := by
  rw [trim, trimStart_of_head? h.first, h.trimEnd_eq]

theorem not_mem_of_blank (hc : isBlank c = false) (h : ∀ c ∈ text, isBlank c) : c ∉ text :=
  fun hm => by simp [h c hm] at hc

theorem trimStart_eq_nil (h : ∀ c ∈ text, isBlank c) : trimStart text = [] :=
  List.dropWhile_eq_nil_iff.2 h

theorem trimEnd_eq_nil (h : ∀ c ∈ text, isBlank c) : trimEnd text = [] :=
  List.rdropWhile_eq_nil_iff.2 h

theorem trimEnd_append (xs ys : List Char) :
    trimEnd (xs ++ ys) = if (trimEnd ys).isEmpty then trimEnd xs else xs ++ trimEnd ys := by
  simp only [trimEnd, trimStart, List.reverse_append, List.dropWhile_append, List.isEmpty_reverse]
  split <;> simp

/-- Blanks are lost at the end only behind the last other character. -/
theorem trimEnd_append_cons (hc : isBlank c = false) (xs ys : List Char) :
    trimEnd (xs ++ c :: ys) = xs ++ c :: trimEnd ys := by
  have single : trimEnd [c] = [c] := by simp [trimEnd, trimStart, hc]
  have rest : trimEnd (c :: ys) = c :: trimEnd ys := by
    rw [← List.singleton_append, trimEnd_append, single]
    split <;> simp_all
  rw [trimEnd_append, rest]
  simp

theorem trim_cons (hc : isBlank c = false) (text : List Char) :
    trim (c :: text) = c :: trimEnd text := by
  rw [trim, trimStart_of_head? (by simpa using hc)]
  exact trimEnd_append_cons hc [] text

theorem trim_append (hb : ∀ c ∈ before, isBlank c) (ha : ∀ c ∈ after, isBlank c)
    (text : List Char) : trim (before ++ text ++ after) = trim text := by
  have start : trimStart (before ++ text) = trimStart text := by
    simp [trimStart, List.dropWhile_append_of_pos hb]
  rw [trim, trimStart, List.dropWhile_append, ← trimStart, start]
  split
  · next he =>
      rw [← trimStart, trimStart_eq_nil ha, trim, List.isEmpty_iff.1 he]
  · rw [trimEnd_append, trimEnd_eq_nil ha]
    rfl

/-! ### Lines -/

theorem lines_cons_of_ne {line : List Char} {rest : List (List Char)} (hc : c ≠ '\n')
    (hr : c = '\r' → text.head? ≠ some '\n') (h : lines text = line :: rest) :
    lines (c :: text) = (c :: line) :: rest := by
  have unbroken : ∀ rest, c = '\r' → text = '\n' :: rest → False := by
    rintro rest rfl rfl
    exact hr rfl rfl
  simp only [lines.eq_3 c text unbroken, if_neg hc, h]

theorem lines_of_not_mem (hn : '\n' ∉ text) (he : text ≠ []) : lines text = [text] := by
  induction text with
  | nil => contradiction
  | cons c text ih =>
      simp only [List.mem_cons, not_or] at hn
      cases text with
      | nil => simp [lines, Ne.symm hn.1]
      | cons d text =>
          exact lines_cons_of_ne (Ne.symm hn.1) (fun _ h => hn.2 (List.mem_of_mem_head? h))
            (ih hn.2 (by simp))

/-- The line in front of a line feed comes out, perhaps without a carriage return at its end. -/
theorem lines_append_lineFeed (hn : '\n' ∉ text) (rest : List Char) :
    ∃ line, lines (text ++ '\n' :: rest) = line :: lines rest ∧
      (text = line ∨ text = line ++ ['\r']) := by
  induction text with
  | nil => exact ⟨[], by simp [lines], .inl rfl⟩
  | cons c text ih =>
      simp only [List.mem_cons, not_or] at hn
      obtain ⟨line, hl, ht⟩ := ih hn.2
      by_cases hr : c = '\r' ∧ text = []
      · obtain ⟨rfl, rfl⟩ := hr
        exact ⟨[], by simp [lines], .inr rfl⟩
      · have hd : c = '\r' → (text ++ '\n' :: rest).head? ≠ some '\n' := by
          rintro rfl
          cases text with
          | nil => simp at hr
          | cons d text =>
              have hne : d ≠ '\n' := (List.ne_of_not_mem_cons hn.2).symm
              simpa using hne
        exact ⟨c :: line, lines_cons_of_ne (Ne.symm hn.1) hd hl,
          ht.imp (by rintro rfl; rfl) (by rintro rfl; rfl)⟩

end Multiplex.Text

namespace Multiplex.Scan

open Multiplex.Text

/-! ### Texts of a table -/

/-- A character of a key as it is kept. -/
def IsUpperKeyChar (c : Char) : Prop := c.isUpper ∨ c.isDigit ∨ c = '_'

instance : DecidablePred IsUpperKeyChar :=
  fun c => inferInstanceAs (Decidable (c.isUpper ∨ c.isDigit ∨ c = '_'))

/-- What a line says can be written. No line has a line feed in it, so a name or a value with one
is written by no text. -/
def Line.Writable : Line → Prop
  | blank => True
  | header name => Trimmed name.toList ∧ ']' ∉ name.toList
  | entry key value =>
    key ≠ "" ∧ (∀ c ∈ key.toList, IsUpperKeyChar c) ∧ Trimmed value.toList

instance : DecidablePred Line.Writable
  | .blank => .isTrue trivial
  | .header name => inferInstanceAs (Decidable (Trimmed name.toList ∧ ']' ∉ name.toList))
  | .entry key value =>
    have : Decidable (∀ c ∈ key.toList, IsUpperKeyChar c) := List.decidableBAll _ _
    inferInstanceAs
      (Decidable (key ≠ "" ∧ (∀ c ∈ key.toList, IsUpperKeyChar c) ∧ Trimmed value.toList))

/-- The lines that say what a channel is. -/
def Channel.lines (c : Channel) : List Line :=
  .header c.name :: c.entries.map fun (key, value) => .entry key value

/-- A channel can be written: its lines can, and no key occurs twice. -/
structure Channel.Writable (c : Channel) : Prop where
  lines : ∀ line ∈ c.lines, line.Writable
  keys : (c.entries.map (·.1)).Nodup

instance : DecidablePred Channel.Writable := fun c =>
  decidable_of_iff ((∀ line ∈ c.lines, line.Writable) ∧ (c.entries.map (·.1)).Nodup)
    ⟨fun h => ⟨h.1, h.2⟩, fun h => ⟨h.1, h.2⟩⟩

/-- A text that stands for a line, without blanks around it. -/
inductive Spells : Line → List Char → Prop
  /-- Nothing. -/
  | nothing : Spells .blank []
  /-- A comment. -/
  | comment {mark : Char} (marked : mark = ';' ∨ mark = '#') (rest : List Char) :
      Spells .blank (mark :: rest)
  /-- A name in brackets, with blanks around it. -/
  | header {name : String} {before after : List Char} (opened : ∀ c ∈ before, isBlank c)
      (closed : ∀ c ∈ after, isBlank c) :
      Spells (.header name) ('[' :: (before ++ name.toList ++ after ++ [']']))
  /-- A key in any case and a value, with spaces around the sign between them. -/
  | entry {key value : String} {word before after : List Char}
      (cased : word.map upperAscii = key.toList) (opened : ∀ c ∈ before, c = ' ' ∨ c = '\t')
      (closed : ∀ c ∈ after, c = ' ' ∨ c = '\t') :
      Spells (.entry key value) (word ++ before ++ '=' :: (after ++ value.toList))

/-- A raw line, without a line feed in it: blanks, what stands for the line, and blanks. -/
inductive Raw (line : Line) : List Char → Prop
  | between {before text after : List Char} (opened : ∀ c ∈ before, isBlank c)
      (spelled : Spells line text) (closed : ∀ c ∈ after, isBlank c)
      (single : '\n' ∉ before ++ text ++ after) : Raw line (before ++ text ++ after)

/-- A text that consists of lines, each with an end but perhaps the last. -/
inductive Writes : List Line → List Char → Prop
  /-- The last line without an end. -/
  | last {line : Line} {raw : List Char} (written : Raw line raw) : Writes [line] raw
  /-- A line with an end and more lines. -/
  | ended {line : Line} {raw ending : List Char} {said : List Line} {text : List Char}
      (written : Raw line raw) (ends : ending = ['\n'] ∨ ending = ['\r', '\n'])
      (rest : Writes said text) : Writes (line :: said) (raw ++ ending ++ text)

/-! ### The characters of a line -/

variable {c : Char} {word before after value text raw : List Char} {line : Line}

theorem eq_underscore_iff : c = '_' ↔ c.toNat = 95 :=
  ⟨by rintro rfl; rfl, fun h => Char.toNat_inj.1 h⟩

theorem isKeyChar_iff : isKeyChar c = true ↔
    65 ≤ c.toNat ∧ c.toNat ≤ 90 ∨ 97 ≤ c.toNat ∧ c.toNat ≤ 122 ∨
      48 ≤ c.toNat ∧ c.toNat ≤ 57 ∨ c.toNat = 95 := by
  simp [isKeyChar, Char.isAlphanum, Char.isAlpha, Char.isUpper, Char.isLower, Char.isDigit,
    UInt32.le_iff_toNat_le, eq_underscore_iff, or_assoc]

theorem isUpperKeyChar_iff : IsUpperKeyChar c ↔
    65 ≤ c.toNat ∧ c.toNat ≤ 90 ∨ 48 ≤ c.toNat ∧ c.toNat ≤ 57 ∨ c.toNat = 95 := by
  simp [IsUpperKeyChar, Char.isUpper, Char.isDigit, UInt32.le_iff_toNat_le, eq_underscore_iff]

/-- What stands for a character of a key as it is kept is a character of a key. -/
theorem isKeyChar_of_upperAscii (h : IsUpperKeyChar (upperAscii c)) : isKeyChar c = true := by
  rw [isKeyChar_iff]
  by_cases hc : 97 ≤ c.toNat ∧ c.toNat ≤ 122
  · exact .inr (.inl hc)
  · rw [upperAscii, if_neg hc, isUpperKeyChar_iff] at h
    omega

theorem upperAscii_of_upper (h : IsUpperKeyChar c) : upperAscii c = c := by
  rw [isUpperKeyChar_iff] at h
  rw [upperAscii, if_neg]
  omega

theorem upperKey_of_upper {key : String} (h : ∀ c ∈ key.toList, IsUpperKeyChar c) :
    upperKey key = key := by
  have same : key.toList.map upperAscii = key.toList.map id :=
    List.map_congr_left fun c hc => upperAscii_of_upper (h c hc)
  rw [upperKey, same, List.map_id, String.ofList_toList]

theorem isBlank_of_isKeyChar (h : isKeyChar c = true) : isBlank c = false := by
  simp only [isKeyChar_iff] at h
  simp only [isBlank, Bool.or_eq_false_iff, Bool.and_eq_false_iff, decide_eq_false_iff_not,
    beq_eq_false_iff_ne]
  omega

theorem isBlank_of_isSpace (h : isSpace c = true) : isBlank c = true := by
  obtain rfl | rfl : c = ' ' ∨ c = '\t' := by simpa [isSpace] using h
  · rfl
  · rfl

theorem isKeyChar_of_isSpace (h : isSpace c = true) : isKeyChar c = false := by
  obtain rfl | rfl : c = ' ' ∨ c = '\t' := by simpa [isSpace] using h
  · rfl
  · rfl

/-! ### Single lines -/

theorem readHeader?_of_closed (h : ']' ∉ text) :
    readHeader? ('[' :: (text ++ [']'])) = some (.header (String.ofList (trim text))) := by
  have inside : ∀ c ∈ text, (c != ']') = true := fun c hc => by
    simpa using ne_of_mem_of_not_mem hc h
  simp [readHeader?, List.dropWhile_append_of_pos inside, List.takeWhile_append_of_pos inside]

theorem readEntry?_of_key (hne : word ≠ []) (hk : ∀ c ∈ word, isKeyChar c)
    (hs : ∀ c ∈ before, isSpace c) : readEntry? (word ++ before ++ '=' :: value) =
      some (.entry (String.ofList word) (String.ofList (trimEnd (value.dropWhile isSpace)))) := by
  -- the key stops at the first space or, without spaces, at the sign
  have stop : (before ++ '=' :: value).takeWhile isKeyChar = [] ∧
      (before ++ '=' :: value).dropWhile isKeyChar = before ++ '=' :: value := by
    cases before with
    | nil => exact ⟨rfl, rfl⟩
    | cons c before => simp [isKeyChar_of_isSpace (hs c (by simp))]
  have key : (word ++ before ++ '=' :: value).takeWhile isKeyChar = word := by
    rw [List.append_assoc, List.takeWhile_append_of_pos hk, stop.1, List.append_nil]
  have rest : ((word ++ before ++ '=' :: value).dropWhile isKeyChar).dropWhile isSpace =
      '=' :: value := by
    rw [List.append_assoc, List.dropWhile_append_of_pos hk, stop.2,
      List.dropWhile_append_of_pos hs]
    rfl
  simp only [ readEntry?, key, rest, List.isEmpty_iff, if_neg hne]

theorem readTrimmed?_of_isKeyChar (hc : isKeyChar c = true) :
    readTrimmed? (c :: text) = readEntry? (c :: text) := by
  have mark : ¬(c = ';' ∨ c = '#') := by rintro (rfl | rfl) <;> simp [isKeyChar] at hc
  have bracket : readHeader? (c :: text) = none := by
    rw [readHeader?]
    rintro rest ⟨⟩
    simp [isKeyChar] at hc
  rw [readTrimmed?, if_neg mark, bracket]
  rfl

/-- A value without blanks at its ends comes out from between spaces and blanks. -/
theorem trimEnd_dropWhile_isSpace (hs : ∀ c ∈ before, isSpace c) (hv : Trimmed value) :
    trimEnd ((trimEnd (before ++ value)).dropWhile isSpace) = value := by
  rw [trimEnd_append, hv.trimEnd_eq]
  cases value with
  | nil => simp [trimEnd_eq_nil fun c hc => isBlank_of_isSpace (hs c hc), trimEnd_eq_nil]
  | cons c value =>
      have hc : isSpace c = false := by
        rw [Bool.eq_false_iff]
        intro h
        simpa [isBlank_of_isSpace h] using hv.first c rfl
      simp [List.dropWhile_append_of_pos hs, hc, hv.trimEnd_eq]

/-- Only the upper case of a key counts. -/
theorem Table.add?_entry_congr {key word : String} (h : upperKey word = upperKey key)
    (t : Table) (value : String) : t.add? (.entry word value) = t.add? (.entry key value) := by
  simp [Table.add?, Channel.insert, h]

/-- A table takes a line the same whatever text stands for it. -/
theorem Spells.add?_readTrimmed? (h : Spells line text) (ok : line.Writable) (t : Table) :
    (readTrimmed? (trim text)).bind t.add? = t.add? line := by
  cases h with
  | nothing => rfl
  | @comment mark marked rest =>
      have hm : isBlank mark = false := by obtain rfl | rfl := marked <;> rfl
      rw [trim_cons hm, readTrimmed?, if_pos marked]
      rfl
  | @header name before after opened closed =>
      obtain ⟨trimmed, unclosed⟩ := ok
      have inside : ']' ∉ before ++ name.toList ++ after := by
        simp only [List.mem_append, not_or]
        exact ⟨⟨not_mem_of_blank rfl opened, unclosed⟩, not_mem_of_blank rfl closed⟩
      have tight : trim ('[' :: (before ++ name.toList ++ after ++ [']'])) =
          '[' :: (before ++ name.toList ++ after ++ [']']) := by
        rw [trim_cons rfl, trimEnd_append_cons rfl]
        rfl
      rw [tight, readTrimmed?, if_neg (by decide), readHeader?_of_closed inside,
        trim_append opened closed, trimmed.trim_eq, String.ofList_toList]
      rfl
  | @entry key value word before after cased opened closed =>
      obtain ⟨hne, chars, trimmed⟩ := ok
      have hk : ∀ c ∈ word, isKeyChar c := fun c hc =>
        isKeyChar_of_upperAscii (chars _ (cased ▸ List.mem_map_of_mem hc))
      have upper : upperKey (String.ofList word) = upperKey key := by
        rw [upperKey, String.toList_ofList, cased, String.ofList_toList, upperKey_of_upper chars]
      cases word with
      | nil => exact absurd (by simpa using cased.symm) hne
      | cons c word =>
          have tight : trim (c :: word ++ before ++ '=' :: (after ++ value.toList)) =
              c :: word ++ before ++ '=' :: trimEnd (after ++ value.toList) := by
            rw [trim, trimStart_of_head? (by simpa using isBlank_of_isKeyChar (hk c (by simp))),
              trimEnd_append_cons rfl]
          rw [tight, List.cons_append, List.cons_append,
            readTrimmed?_of_isKeyChar (hk c (by simp)), ← List.cons_append, ← List.cons_append,
            readEntry?_of_key (by simp) hk (by simpa [isSpace] using opened),
            trimEnd_dropWhile_isSpace (by simpa [isSpace] using closed) trimmed,
            String.ofList_toList]
          exact Table.add?_entry_congr upper t value

theorem Raw.add?_read? (h : Raw line raw) (ok : line.Writable) (t : Table) :
    (Line.read? raw).bind t.add? = t.add? line := by
  cases h with
  | between opened spelled closed single =>
      rw [Line.read?, trim_append opened closed, spelled.add?_readTrimmed? ok]

theorem Raw.not_mem (h : Raw line raw) : '\n' ∉ raw := by
  cases h
  assumption

/-! ### Whole texts -/

variable {said : List Line} {t t' : Table}

theorem Table.readFrom_cons (h : (Line.read? raw).bind t.add? = some t') (number : Nat)
    (rest : List (List Char)) :
    t.readFrom number (raw :: rest) = t'.readFrom (number + 1) rest := by
  rw [Table.readFrom, h]

/-- A carriage return at the end of a line says nothing. -/
theorem read?_append_return (raw : List Char) : Line.read? (raw ++ ['\r']) = Line.read? raw := by
  have same : trim (raw ++ ['\r']) = trim raw :=
    @trim_append [] ['\r'] (by simp) (List.all_eq_true.1 rfl) raw
  rw [Line.read?, Line.read?, same]

/-- The line in front of a line end says what was written. -/
theorem exists_lines_append {ending : List Char} (hn : '\n' ∉ raw)
    (ends : ending = ['\n'] ∨ ending = ['\r', '\n']) (rest : List Char) :
    ∃ line, Text.lines (raw ++ ending ++ rest) = line :: Text.lines rest ∧
      Line.read? line = Line.read? raw := by
  obtain rfl | rfl := ends
  · obtain ⟨line, hl, rfl | rfl⟩ := lines_append_lineFeed hn rest
    · exact ⟨raw, by simpa using hl, rfl⟩
    · exact ⟨line, by simpa using hl, (read?_append_return line).symm⟩
  · have hr : '\n' ∉ raw ++ ['\r'] := by simpa using hn
    obtain ⟨line, hl, ht⟩ := lines_append_lineFeed hr rest
    refine ⟨line, by simpa using hl, ?_⟩
    rw [← read?_append_return raw]
    obtain h | h := ht
    · rw [h]
    · rw [h, read?_append_return]

/-- A written text is read as its lines are taken one after the other. -/
theorem Table.readFrom_of_writes (h : Writes said text) (ok : ∀ line ∈ said, line.Writable)
    (number : Nat) (ht : said.foldlM Table.add? t = some t') :
    t.readFrom number (Text.lines text) = .ok t' := by
  -- over the lines of the text, for the table that the lines above have made
  induction h generalizing t number with
  | @last line raw written =>
      have taken := written.add?_read? (ok line (by simp)) t
      have hline : t.add? line = some t' := by simpa using ht
      by_cases he : raw = []
      · subst he
        obtain rfl : t = t' := Option.some.inj (taken.trans hline)
        rfl
      · rw [lines_of_not_mem written.not_mem he, readFrom_cons (taken.trans hline)]
        rfl
  | @ended line raw ending said text written ends rest ih =>
      have taken := written.add?_read? (ok line (by simp)) t
      obtain ⟨shown, hl, hr⟩ := exists_lines_append written.not_mem ends text
      rw [List.foldlM_cons] at ht
      obtain ⟨t₁, h₁, ht⟩ := Option.bind_eq_some_iff.1 ht
      rw [hl, readFrom_cons (hr ▸ taken.trans h₁)]
      exact ih (fun line hm => ok line (List.mem_cons_of_mem _ hm)) _ ht

theorem foldlM_filter_blank (said : List Line) (t : Table) :
    (said.filter (· ≠ .blank)).foldlM Table.add? t = said.foldlM Table.add? t := by
  induction said generalizing t with
  | nil => rfl
  | cons line said ih =>
      by_cases h : line = .blank
      · subst h
        exact ih t
      · rw [List.filter_cons_of_pos (by simpa using h), List.foldlM_cons, List.foldlM_cons]
        exact bind_congr ih

theorem setEntry_of_not_mem {key value : String} {entries : List (String × String)}
    (h : key ∉ entries.map (·.1)) : setEntry key value entries = entries ++ [(key, value)] := by
  induction entries with
  | nil => rfl
  | cons e entries ih =>
      simp only [List.map_cons, List.mem_cons, not_or] at h
      rw [setEntry, if_neg (Ne.symm h.1), ih h.2, List.cons_append]

/-- Entries with new keys go behind the others of the last channel. -/
theorem foldlM_entries (done : List Channel) (c : Channel) (entries : List (String × String))
    (ok : ∀ e ∈ entries, (Line.entry e.1 e.2).Writable)
    (fresh : ((c.entries ++ entries).map (·.1)).Nodup) :
    (entries.map fun e => Line.entry e.1 e.2).foldlM Table.add? ⟨done ++ [c]⟩ =
      some ⟨done ++ [{ c with entries := c.entries ++ entries }]⟩ := by
  induction entries generalizing c with
  | nil => simp
  | cons e entries ih =>
      obtain ⟨key, value⟩ := e
      obtain ⟨-, upper, -⟩ := ok (key, value) (by simp)
      have hkey : key ∉ c.entries.map (·.1) := fun hm => by
        rw [List.map_append, List.nodup_append] at fresh
        exact fresh.2.2 key hm key (by simp) rfl
      have added : c.insert key value = { c with entries := c.entries ++ [(key, value)] } := by
        rw [Channel.insert, upperKey_of_upper upper, setEntry_of_not_mem hkey]
      have taken : Table.add? ⟨done ++ [c]⟩ (.entry key value) =
          some ⟨done ++ [c.insert key value]⟩ := by
        simp [Table.add?]
      rw [List.map_cons, List.foldlM_cons, taken, added]
      have later := ih { c with entries := c.entries ++ [(key, value)] }
        (fun e he => ok e (List.mem_cons_of_mem _ he)) (by simpa using fresh)
      simpa using later

theorem Channel.Writable.foldlM_lines {c : Channel} (h : c.Writable) (done : List Channel) :
    c.lines.foldlM Table.add? ⟨done⟩ = some ⟨done ++ [c]⟩ := by
  rw [Channel.lines, List.foldlM_cons]
  exact foldlM_entries done ⟨c.name, []⟩ c.entries
    (fun e he => h.lines _ (List.mem_cons_of_mem _ (List.mem_map_of_mem he))) h.keys

theorem foldlM_channels (channels : List Channel) (ok : ∀ c ∈ channels, c.Writable)
    (done : List Channel) :
    (channels.flatMap Channel.lines).foldlM Table.add? ⟨done⟩ = some ⟨done ++ channels⟩ := by
  induction channels generalizing done with
  | nil => simp
  | cons c channels ih =>
      rw [List.flatMap_cons, List.foldlM_append, (ok c (by simp)).foldlM_lines,
        List.append_cons done c channels]
      exact ih (fun c hc => ok c (List.mem_cons_of_mem _ hc)) _

/-- A text that writes channels is read as these channels, in order. -/
theorem parse_of_writes {channels : List Channel} {said : List Line} {text : String}
    (ok : ∀ c ∈ channels, c.Writable) (written : Writes said text.toList)
    (meant : said.filter (· ≠ .blank) = channels.flatMap Channel.lines) :
    Table.parse text = .ok ⟨channels⟩ := by
  have hs : ∀ line ∈ said, line.Writable := by
    intro line hl
    by_cases hb : line = .blank
    · subst hb
      trivial
    · have hm : line ∈ channels.flatMap Channel.lines :=
        meant ▸ List.mem_filter.2 ⟨hl, by simpa using hb⟩
      obtain ⟨c, hc, hm⟩ := List.mem_flatMap.1 hm
      exact (ok c hc).lines line hm
  refine Table.readFrom_of_writes written hs 1 ?_
  rw [← foldlM_filter_blank, meant]
  exact foldlM_channels channels ok []

/-- Two channels. The first one's name and value have signs in them that mean something elsewhere. -/
def uneven : List Channel :=
  [⟨"A=1;#", [("FREQ_1", "12[x]=\r;y"), ("9", "")]⟩, ⟨"", [("K", "#")]⟩]

/-- A text of these channels in which no two lines have the same layout. -/
def unevenText : String :=
  "; Astra 19.2\r\n \t\n\u3000[ A=1;#\u00a0]\r\n\tFreq_1\t = \t12[x]=\r;y \u0085\n  # [B]\r\n" ++
    "9=\n[]\nk =#"

theorem parse_of_writes_uneven :
    (∀ c ∈ uneven, c.Writable) ∧
    (∃ said, Writes said unevenText.toList ∧
      said.filter (· ≠ .blank) = uneven.flatMap Channel.lines) ∧
    Table.parse unevenText = .ok ⟨uneven⟩ := by
  have ok : ∀ c ∈ uneven, c.Writable := by decide
  have written : Writes [.blank, .blank, .header "A=1;#", .entry "FREQ_1" "12[x]=\r;y", .blank,
      .entry "9" "", .header "", .entry "K" "#"] unevenText.toList :=
    .ended (@Raw.between _ [] "; Astra 19.2".toList [] (by simp) (.comment (.inl rfl) _)
      (by simp) (by decide)) (.inr rfl) <|
    .ended (@Raw.between _ [' ', '\t'] [] [] (List.all_eq_true.1 rfl) .nothing (by simp)
      (by decide)) (.inl rfl) <|
    .ended (@Raw.between _ ['\u3000'] _ [] (List.all_eq_true.1 rfl)
      (@Spells.header "A=1;#" [' '] ['\u00a0'] (List.all_eq_true.1 rfl) (List.all_eq_true.1 rfl))
      (by simp) (by decide)) (.inr rfl) <|
    .ended (@Raw.between _ ['\t'] _ [' ', '\u0085'] (List.all_eq_true.1 rfl)
      (@Spells.entry "FREQ_1" "12[x]=\r;y" "Freq_1".toList ['\t', ' '] [' ', '\t'] (by decide)
        (by simp) (by simp)) (List.all_eq_true.1 rfl) (by decide)) (.inl rfl) <|
    .ended (@Raw.between _ [' ', ' '] "# [B]".toList [] (List.all_eq_true.1 rfl)
      (.comment (.inr rfl) _) (by simp) (by decide)) (.inr rfl) <|
    .ended (@Raw.between _ [] _ [] (by simp)
      (@Spells.entry "9" "" ['9'] [] [] (by decide) (by simp) (by simp)) (by simp)
      (by decide)) (.inl rfl) <|
    .ended (@Raw.between _ [] _ [] (by simp) (@Spells.header "" [] [] (by simp) (by simp))
      (by simp) (by decide)) (.inl rfl) <|
    .last (@Raw.between _ [] _ [] (by simp)
      (@Spells.entry "K" "#" ['k'] [' '] [] (by decide) (by simp) (by simp)) (by simp)
      (by decide))
  exact ⟨ok, ⟨_, written, rfl⟩, parse_of_writes ok written rfl⟩

end Multiplex.Scan
