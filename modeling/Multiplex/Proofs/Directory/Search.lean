import Multiplex.Directory.Pattern
import Multiplex.Proofs.Directory.Paths

/-!
# Searches below plain paths

A pattern that ends in a name's start and an asterisk, with nothing special before, leads to the
entries of one directory: the parts before the last are followed like a path (`Leads.search_parts`),
and the entries are matched with the rest.
-/

namespace Multiplex.Directory

variable {t : Tree} {f g : Found} {place place' : Place} {name base front : String}
  {text stem : List Char}

/-! ### Plain patterns -/

/-- A text that is a path, and a pattern for nothing else than itself. -/
def Plain (text : List Char) : Prop := ∀ c ∈ text, c ≠ '*' ∧ c ≠ '?' ∧ c ≠ '[' ∧ c ≠ '\x00'

-- By going through the text. There is also an instance that goes through all characters there are.
instance (text : List Char) : Decidable (Plain text) := List.decidableBAll _ text

/-- The pattern for what starts with a text. -/
def startsWith (stem : List Char) : Pattern := stem.map .char ++ [.run]

theorem readTokens_cons {c : Char} (hc : c ≠ '*' ∧ c ≠ '?' ∧ c ≠ '[') (position : Nat)
    (atStart : Bool) (rest : List Char) : readTokens position atStart (c :: rest) =
      (Token.char c :: ·) <$> readTokens (position + 1) (c == '/') rest := by
  obtain ⟨h1, h2, h3⟩ := hc
  rw [readTokens]
  · simp_all
  · simp_all
  · simp_all
  · simp_all
  · simp_all

theorem readTokens_plain (h : Plain text) (position : Nat) (atStart : Bool) :
    readTokens position atStart text = .ok (text.map .char) := by
  induction text generalizing position atStart with
  | nil => rw [readTokens]; rfl
  | cons c rest ih =>
      obtain ⟨hc, hr⟩ := List.forall_mem_cons.mp h
      rw [readTokens_cons ⟨hc.1, hc.2.1, hc.2.2.1⟩, ih hr]
      rfl

theorem readTokens_startsWith (h : Plain stem) (position : Nat) (atStart : Bool) :
    readTokens position atStart (stem ++ ['*']) = .ok (startsWith stem) := by
  induction stem generalizing position atStart with
  | nil =>
      rw [List.nil_append, readTokens]
      · rw [readTokens]
        rfl
      · simp
      · simp
  | cons c rest ih =>
      obtain ⟨hc, hr⟩ := List.forall_mem_cons.mp h
      rw [List.cons_append, readTokens_cons ⟨hc.1, hc.2.1, hc.2.2.1⟩, ih hr]
      rfl

theorem fit_nil_cons (c : Char) (name : List Char) : Pattern.fit [] (c :: name) = .fails := by
  rw [Pattern.fit]

theorem fit_run (name : List Char) : Pattern.fit [.run] name = .fits := by
  induction name with
  | nil => simp [Pattern.fit, Token.isRun]
  | cons c name ih =>
      rw [Pattern.fit.eq_def]
      simp [Token.isRun, fit_nil_cons, ih]

theorem fit_char_nil (c : Char) (rest : Pattern) : Pattern.fit (.char c :: rest) [] = .isShort := by
  rw [Pattern.fit.eq_def]
  rfl

theorem fit_char_cons (c d : Char) (rest : Pattern) (name : List Char) :
    Pattern.fit (.char c :: rest) (d :: name) = if d = c then rest.fit name else .fails := by
  rw [Pattern.fit.eq_def]
  simp [Token.isRun, Token.accepts]

theorem fit_startsWith (stem name : List Char) :
    Pattern.fit (startsWith stem) name = .fits ↔ stem <+: name := by
  induction stem generalizing name with
  | nil => simp [startsWith, fit_run]
  | cons c stem ih =>
      rw [startsWith, List.map_cons, List.cons_append, ← startsWith]
      cases name with
      | nil => simp [fit_char_nil]
      | cons d name =>
          rw [fit_char_cons, List.cons_prefix_cons]
          split_ifs with h
          · simp [ih, h]
          · simp [Ne.symm h]

theorem literal?_plain (name : List Char) :
    Pattern.literal? (name.map .char) = some (String.ofList name) := by
  have chars : (name.map Token.char).mapM Token.literal? = some name := by
    induction name with
    | nil => rfl
    | cons c name ih => simp [ih, Token.literal?]
  rw [Pattern.literal?, chars, Option.map_some]

theorem literal?_startsWith (stem : List Char) : Pattern.literal? (startsWith stem) = none := by
  have wild : (startsWith stem).mapM Token.literal? = none := by
    induction stem with
    | nil => rfl
    | cons c stem ih =>
        rw [startsWith, List.map_cons, List.cons_append, ← startsWith, List.mapM_cons, ih]
        rfl
  rw [Pattern.literal?, wild, Option.map_none]

/-! ### Following a pattern -/

/-- What a search has found is at a place. Its path may only be the one to where the search starts
if it is written as that. -/
structure Leads (t : Tree) (f : Found) (place : Place) : Prop where
  located : t.locate f.path = .ok place
  kind : f.isFolder = t.isFolder place
  start : f.path = "." ∨ ¬isHere f.path

/-- A part of a path that leads somewhere. -/
structure IsStep (name : String) : Prop where
  part : IsPart name
  clean : '\x00' ∉ name.toList
  filled : name ≠ ""

theorem IsName.isStep (h : IsName name) : IsStep name := ⟨h.part, h.clean, h.filled⟩

theorem Leads.place_eq_here (lead : Leads t f place) (here : f.path = ".") : place = t.here := by
  have h : t.locate "." = .ok place := here ▸ lead.located
  have passable := Tree.passable_of_locate h
  have step : t.step t.here "." = .ok place := by
    rw [Tree.locate_of_passable passable] at h
    exact (bind_pure (t.step t.here ".")).symm.trans h
  exact Except.ok.inj (step.symm.trans (Tree.step_still (Tree.isFolder_of_step step) (.inr rfl)))

theorem isHere_iff_of_isStep (hn : IsStep name) : isHere name ↔ name = "." := by
  have parts := leadingParts_append (.inl rfl : IsFront "".toList) hn.part
  rw [if_neg (by simp [hn.filled]), String.empty_append] at parts
  rw [isHere, parts, beq_iff_eq]
  exact List.singleton_inj

/-- A path goes on with a front and a name. -/
theorem Leads.exists_front (lead : Leads t f place) : ∃ front,
    IsFront front.toList ∧ t.frontPlace front = .ok place ∧ '\x00' ∉ front.toList ∧
      front.utf8ByteSize ≤ f.path.utf8ByteSize + 1 ∧
      ∀ name, IsStep name → f.pathTo name = front ++ name ∧
        (f.pathTo name = "." ∨ ¬isHere (f.pathTo name)) := by
  have passable := Tree.passable_of_locate lead.located
  rcases lead.start with here | away
  · refine ⟨"", .inl rfl, ?_, by simp, Nat.zero_le _, fun name hn => ?_⟩
    · rw [lead.place_eq_here here]
      rfl
    · rw [Found.pathTo, if_pos (by rw [here]; decide), String.empty_append,
        isHere_iff_of_isStep hn]
      exact ⟨rfl, Classical.em _⟩
  · refine ⟨frontOf f.path, isFront_frontOf _, Tree.frontPlace_frontOf lead.located, ?_,
      utf8ByteSize_frontOf_le _, fun name hn => ?_⟩
    · unfold frontOf
      split_ifs
      · exact passable.clean
      · simpa using passable.clean
    · rw [Found.pathTo, if_neg away, join_eq hn.part.head?_ne]
      exact ⟨rfl, .inr (not_isHere_append passable.filled away hn.part)⟩

theorem Leads.locate_pathTo (lead : Leads t f place) (hn : IsStep name)
    (short : f.path.utf8ByteSize + 1 + name.utf8ByteSize ≤ Tree.longestPath) :
    t.locate (f.pathTo name) = t.step place name := by
  obtain ⟨front, hf, hp, clean, hs, goes⟩ := lead.exists_front
  obtain ⟨he, -⟩ := goes name hn
  rw [he, Tree.locate_append hf hn.part, hp]
  · rfl
  · refine ⟨?_, ?_, ?_⟩
    · simp [clean, hn.clean]
    · simp [hn.filled]
    · rw [String.utf8ByteSize_append]
      omega

/-- To enter a part is to take the step. -/
theorem Leads.enter_cases (lead : Leads t f place) (hn : IsStep name)
    (short : f.path.utf8ByteSize + 1 + name.utf8ByteSize ≤ Tree.longestPath) :
    (∃ place' g, t.step place name = .ok place' ∧ t.enter? f name = some g ∧ Leads t g place' ∧
      g.path.utf8ByteSize ≤ f.path.utf8ByteSize + 1 + name.utf8ByteSize) ∨
    ∃ e, t.step place name = .error e ∧ t.enter? f name = none := by
  have located := lead.locate_pathTo hn short
  have allowed : (if name = "." ∨ name = ".." then f.isFolder else t.pathExists (f.pathTo name)) =
      (t.step place name).toBool := by
    split_ifs with dots
    · rw [lead.kind]
      cases hf : t.isFolder place with
      | false => simp [Tree.step, hf, Except.toBool]
      | true => rcases dots with rfl | rfl <;> simp [Tree.step, hf, Except.toBool]
    · rw [Tree.pathExists, located]
  rw [Tree.enter?, allowed]
  cases hs : t.step place name with
  | error e => exact .inr ⟨e, rfl, rfl⟩
  | ok place' =>
      obtain ⟨front, -, -, -, size, goes⟩ := lead.exists_front
      refine .inl ⟨place', t.foundAt (f.pathTo name), rfl, rfl, ⟨?_, ?_, (goes name hn).2⟩, ?_⟩
      · rw [Tree.foundAt, located, hs]
      · rw [Tree.foundAt, located, hs]
      · rw [Tree.foundAt, (goes name hn).1, String.utf8ByteSize_append]
        exact Nat.add_le_add_right size _

/-- The pattern for a part itself. -/
def literally (name : String) : Pattern := name.toList.map .char

theorem search_literally (name : String) (rest : List Pattern) (f : Found) :
    t.search (literally name :: rest) false f =
      ((t.enter? f name).map (t.search rest false)).getD [] := by
  have plain : literally name ≠ [.tree] := fun h => by
    unfold literally at h
    rcases List.map_eq_cons_iff.mp h with ⟨c, _, -, hc, -⟩
    cases hc
  rw [Tree.search, if_neg plain, if_neg (by simp), literally, literal?_plain, String.ofList_toList]

/-- A search goes along plain parts as a path does. -/
theorem Leads.search_parts (lead : Leads t f place) {parts : List String}
    (steps : ∀ part ∈ parts, IsStep part) (rest : List Pattern)
    (short : f.path.utf8ByteSize + (parts.map fun part => part.utf8ByteSize + 1).sum ≤
      Tree.longestPath) :
    (∃ place' g, parts.foldlM t.step place = .ok place' ∧ Leads t g place' ∧
      g.path.utf8ByteSize ≤
        f.path.utf8ByteSize + (parts.map fun part => part.utf8ByteSize + 1).sum ∧
      t.search (parts.map literally ++ rest) false f = t.search rest false g) ∨
    ∃ e, parts.foldlM t.step place = .error e ∧
      t.search (parts.map literally ++ rest) false f = [] := by
  induction parts generalizing f place with
  | nil => exact .inl ⟨place, f, rfl, lead, Nat.le_refl _, rfl⟩
  | cons part parts ih =>
      rw [List.map_cons, List.sum_cons] at short ⊢
      obtain ⟨hp, hr⟩ := List.forall_mem_cons.mp steps
      rw [List.foldlM_cons, List.map_cons, List.cons_append, search_literally]
      rcases lead.enter_cases hp (by omega) with ⟨place₁, g, hs, he, lead, size⟩ | ⟨e, hs, he⟩
      · rw [hs, he]
        rcases ih lead hr (by omega) with ⟨place', g', hf, lead', size', same⟩ | ⟨e, hf, same⟩
        · exact .inl ⟨place', g', hf, lead', by omega, same⟩
        · exact .inr ⟨e, hf, same⟩
      · rw [hs, he]
        exact .inr ⟨e, rfl, rfl⟩

/-! ### Entries -/

theorem mem_starts {α : Type} {l s : List α} : s ∈ Tree.starts l ↔ s ≠ [] ∧ s <+: l := by
  induction l generalizing s with
  | nil =>
      simp only [Tree.starts, List.not_mem_nil, List.prefix_nil, false_iff, not_and]
      exact id
  | cons a rest ih =>
      cases s with
      | nil => simp [Tree.starts]
      | cons b s =>
          simp only [Tree.starts, List.mem_cons, List.mem_map, ih, List.cons_prefix_cons]
          constructor
          · rintro (h | ⟨s', ⟨-, hs⟩, h⟩)
            · cases h
              simp
            · cases h
              simp [hs]
          · rintro ⟨-, rfl, hs⟩
            cases s with
            | nil => exact .inl rfl
            | cons c s => exact .inr ⟨_, ⟨by simp, hs⟩, rfl⟩

theorem has_iff : t.has place ↔ ∃ p ∈ t.listed, place <+: p := by
  simp [Tree.has]

theorem mem_below : place' ∈ t.below place ↔
    t.has place' ∧ ∃ names, names ≠ [] ∧ place' = place ++ names := by
  rw [has_iff]
  simp only [Tree.below, List.mem_eraseDups, List.mem_flatMap, List.mem_ite_nil_right,
    List.isPrefixOf_iff_prefix, List.mem_map, mem_starts]
  constructor
  · rintro ⟨p, hp, ⟨rest, rfl⟩, names, ⟨hne, hs⟩, rfl⟩
    rw [List.drop_left] at hs
    exact ⟨⟨_, hp, (List.prefix_append_right_inj place).mpr hs⟩, names, hne, rfl⟩
  · rintro ⟨⟨_, hp, rest, rfl⟩, names, hne, rfl⟩
    refine ⟨_, hp, ⟨names ++ rest, by simp⟩, names, ⟨hne, ?_⟩, rfl⟩
    rw [List.append_assoc, List.drop_left]
    exact List.prefix_append names rest

theorem mem_children : place' ∈ t.children place ↔
    t.has place' ∧ ∃ name, place' = place ++ [name] := by
  rw [Tree.children, List.mem_filter, mem_below, and_assoc]
  refine and_congr_right fun _ => ?_
  constructor
  · rintro ⟨⟨names, -, rfl⟩, hl⟩
    obtain ⟨name, rfl⟩ := List.length_eq_one_iff.mp (by simpa using hl)
    exact ⟨name, rfl⟩
  · rintro ⟨name, rfl⟩
    exact ⟨⟨[name], by simp, rfl⟩, by simp⟩

/-- A tree as systems have them: entries have names, and the search starts at directories. -/
structure Tree.Regular (t : Tree) : Prop where
  named : ∀ place ∈ t.listed, ∀ name ∈ place, IsName name
  root : t.isFolder []
  home : t.isFolder t.here

theorem Tree.Regular.isName (regular : t.Regular) (h : t.has (place ++ [name])) : IsName name := by
  obtain ⟨p, hp, rest, rfl⟩ := has_iff.mp h
  exact regular.named _ hp name (by simp)

/-- What is found in a directory is its entries. -/
theorem Leads.mem_listing (lead : Leads t f place)
    (short : f.path.utf8ByteSize ≤ Tree.longestPath) :
    g ∈ t.listing f t.children ↔ t.isFolder place ∧ ∃ name, t.has (place ++ [name]) ∧
      g = ⟨f.pathTo name, t.isFolder (place ++ [name])⟩ := by
  rw [Tree.listing, lead.located]
  simp only [lead.kind, List.mem_ite_nil_right, List.mem_filterMap, mem_children]
  refine and_congr_right fun _ => ?_
  constructor
  · rintro ⟨_, ⟨hh, name, rfl⟩, hg⟩
    refine ⟨name, hh, ?_⟩
    simpa [short, eq_comm] using hg
  · rintro ⟨name, hh, rfl⟩
    exact ⟨_, ⟨hh, name, rfl⟩, by simp [short]⟩

theorem Leads.nameOf?_pathTo (lead : Leads t f place) (hn : IsName name) :
    nameOf? (f.pathTo name) = some name := by
  obtain ⟨front, hf, -, -, -, goes⟩ := lead.exists_front
  rw [(goes name hn.isStep).1, nameOf?_append hf hn]

/-- The last part of the pattern finds the entries that start with the text. -/
theorem Leads.search_startsWith (lead : Leads t f place) (regular : t.Regular)
    (short : f.path.utf8ByteSize ≤ Tree.longestPath) (hd : stem.head? ≠ some '.') (name : String) :
    (∃ g ∈ t.search [startsWith stem] false f, nameOf? g.path = some name) ↔
      stem <+: name.toList ∧ t.isFolder place ∧ t.has (place ++ [name]) := by
  have wild : startsWith stem ≠ [.tree] := fun h => by
    simpa [startsWith] using congrArg List.getLast? h
  have undotted : (startsWith stem).head? ≠ some (.char '.') := by
    cases stem with
    | nil => simp [startsWith]
    | cons c stem => simpa [startsWith] using hd
  rw [Tree.search, if_neg wild, literal?_startsWith]
  simp only [Bool.false_eq_true, if_false, undotted, false_and, List.flatMap_nil, List.append_nil,
    List.mem_flatMap, List.mem_filter, lead.mem_listing short, Tree.search, List.mem_singleton]
  constructor
  · rintro ⟨g, ⟨_, ⟨⟨folder, name', hh, rfl⟩, hm⟩, rfl⟩, hg⟩
    rw [lead.nameOf?_pathTo (regular.isName hh)] at hg hm
    cases hg
    rw [Option.any_some, Pattern.matchesAll, beq_iff_eq, fit_startsWith] at hm
    exact ⟨hm, folder, hh⟩
  · rintro ⟨hm, folder, hh⟩
    have named := lead.nameOf?_pathTo (regular.isName hh)
    refine ⟨_, ⟨_, ⟨⟨folder, name, hh, rfl⟩, ?_⟩, rfl⟩, named⟩
    rw [named, Option.any_some, Pattern.matchesAll, beq_iff_eq, fit_startsWith]
    exact hm

/-! ### Searches -/

/-- The entries of a directory that start with a text can be found by it: a search for them below
the directory's path leads to these entries and to nothing else. -/
def Tree.FindsEntries (t : Tree) (base stem : String) : Prop :=
  ∃ paths, t.glob (join base (stem ++ "*")) = .ok paths ∧
    ∀ name, (∃ path ∈ paths, nameOf? path = some name) ↔
      stem.toList <+: name.toList ∧ IsPart name ∧ t.pathExists (join base name)

theorem Tree.step_eq_ok_iff (steps : name ≠ "." ∧ name ≠ "..") (hne : name ≠ "") :
    t.step place name = .ok place' ↔ t.isFolder place ∧ name.utf8ByteSize ≤ longestName ∧
      t.has (place ++ [name]) ∧ place' = place ++ [name] := by
  simp only [step, hne, steps, false_or, if_false, Bool.not_eq_true', gt_iff_lt]
  split_ifs with folder long there
  · simp [folder]
  · simp [Nat.not_le.mpr long]
  · rw [Bool.not_eq_false] at folder
    simp [folder, Nat.not_lt.mp long, there, eq_comm]
  · simp [there]

/-- There is something behind a front if the front leads to a directory with such an entry. -/
theorem Tree.Regular.pathExists_iff (regular : t.Regular) (hf : IsFront front.toList)
    (clean : '\x00' ∉ front.toList) (short : front.utf8ByteSize + longestName ≤ longestPath)
    (hp : IsPart name) (steps : name ≠ "." ∧ name ≠ "..") (hne : name ≠ "") :
    t.pathExists (front ++ name) ↔
      ∃ place, t.frontPlace front = .ok place ∧ t.isFolder place ∧ t.has (place ++ [name]) := by
  constructor
  · intro h
    cases hl : t.locate (front ++ name) with
    | error e =>
        rw [Tree.pathExists, hl] at h
        cases h
    | ok place' =>
        rw [locate_append hf hp (passable_of_locate hl)] at hl
        cases hfp : t.frontPlace front with
        | error e =>
            rw [hfp] at hl
            cases hl
        | ok place =>
            rw [hfp] at hl
            obtain ⟨folder, -, there, -⟩ := (step_eq_ok_iff steps hne).mp hl
            exact ⟨place, rfl, folder, there⟩
  · rintro ⟨place, hfp, folder, there⟩
    have named := regular.isName there
    have passable : Passable (front ++ name) := by
      refine ⟨by simp [clean, named.clean], by simp [hne], ?_⟩
      rw [String.utf8ByteSize_append]
      exact Nat.le_trans (Nat.add_le_add_left named.short _) short
    have step := (step_eq_ok_iff steps hne).mpr ⟨folder, named.short, there, rfl⟩
    rw [Tree.pathExists, locate_append hf hp passable, hfp]
    change (t.step place name).toBool
    rw [step]
    rfl

theorem mapM_readTokens (hf : IsFront text) (plain : Plain text) (hs : '/' ∉ stem)
    (hp : Plain stem) : (pieces (text ++ (stem ++ ['*']))).mapM (readTokens 0 true) =
      .ok (((pieces text).dropLast.map String.ofList).map literally ++ [startsWith stem]) := by
  have literals (pieces : List (List Char)) (h : ∀ piece ∈ pieces, Plain piece) :
      pieces.mapM (readTokens 0 true) = .ok ((pieces.map String.ofList).map literally) := by
    induction pieces with
    | nil => rfl
    | cons piece pieces ih =>
        obtain ⟨hp, hr⟩ := List.forall_mem_cons.mp h
        rw [List.mapM_cons, readTokens_plain hp, ih hr, List.map_cons, List.map_cons, literally,
          String.toList_ofList]
        rfl
  rw [pieces_append_name hf (by simp [hs]), List.mapM_append, literals, List.mapM_cons,
    readTokens_startsWith hp]
  · rfl
  · exact fun piece hm c hc => plain c (mem_of_mem_pieces (List.dropLast_subset _ hm) hc).1

/-- A search along a front finds what is behind it. -/
theorem Leads.search_front (lead : Leads t f place) (regular : t.Regular) {parts : List String}
    (steps : ∀ part ∈ parts, IsStep part) (hd : stem.head? ≠ some '.')
    (short : f.path.utf8ByteSize + (parts.map fun part => part.utf8ByteSize + 1).sum ≤
      Tree.longestPath) (name : String) :
    (∃ g ∈ t.search (parts.map literally ++ [startsWith stem]) false f,
        nameOf? g.path = some name) ↔
      stem <+: name.toList ∧ ∃ place', parts.foldlM t.step place = .ok place' ∧
        t.isFolder place' ∧ t.has (place' ++ [name]) := by
  rcases lead.search_parts steps [startsWith stem] short with
    ⟨place', g, hf, lead', size, same⟩ | ⟨e, hf, same⟩
  · rw [same, lead'.search_startsWith regular (by omega) hd, hf]
    simp
  · simp [same, hf]

theorem leads_foundAt {path : String} (h : t.locate path = .ok place)
    (start : path = "." ∨ ¬isHere path) : Leads t (t.foundAt path) place :=
  ⟨h, by rw [Tree.foundAt, h], start⟩

theorem Tree.Regular.leads_root (regular : t.Regular) : Leads t (t.foundAt "/") [] := by
  refine leads_foundAt ?_ (.inr (by decide))
  rw [Tree.locate_of_passable ⟨by decide, by decide, by decide⟩]
  have still : t.step [] "" = .ok [] := Tree.step_still regular.root (.inl rfl)
  change (t.step [] "" >>= fun place => t.step place "" >>= pure) = _
  rw [still]
  exact (bind_pure _).trans still

theorem Tree.Regular.leads_here (regular : t.Regular) : Leads t (t.foundAt ".") t.here := by
  refine leads_foundAt ?_ (.inl rfl)
  rw [Tree.locate_of_passable ⟨by decide, by decide, by decide⟩]
  change (t.step t.here "." >>= pure) = _
  exact (bind_pure _).trans (Tree.step_still regular.home (.inr rfl))

/-- Where the search for a pattern starts, and the parts that it goes along. -/
def searchStart : List Char → String × List (List Char)
  | '/' :: rest => ("/", pieces rest)
  | cs => (".", pieces cs)

theorem searchStart_of_relative (relative : text.head? ≠ some '/') :
    searchStart text = (".", pieces text) := by
  unfold searchStart
  split
  · exact absurd rfl relative
  · rfl

theorem Tree.glob_eq {pattern : String} {tokens : List Token} {patterns : List Pattern}
    (ok : readTokens 0 true pattern.toList = .ok tokens)
    (parts : (searchStart pattern.toList).2.mapM (readTokens 0 true) = .ok patterns) :
    t.glob pattern = .ok ((t.search patterns false
      (t.foundAt (searchStart pattern.toList).1)).map (·.path)) := by
  rw [glob, ok]
  change ((searchStart pattern.toList).2.mapM (readTokens 0 true) >>= _) = _
  rw [parts]
  rfl

theorem mem_frontParts {part : String} (h : part ∈ frontParts front) :
    ∃ piece ∈ (pieces front.toList).dropLast, part = String.ofList piece := by
  obtain ⟨piece, hp, rfl⟩ := List.mem_map.mp h
  exact ⟨piece, hp, rfl⟩

theorem isStep_of_mem (plain : Plain front.toList)
    (filled : ∀ piece ∈ (pieces front.toList).dropLast, piece ≠ []) {part : String}
    (h : part ∈ frontParts front) : IsStep part := by
  obtain ⟨piece, hp, rfl⟩ := mem_frontParts h
  have chars : ∀ c ∈ piece, c ∈ front.toList ∧ c ≠ '/' := fun c =>
    mem_of_mem_pieces (List.dropLast_subset _ hp)
  refine ⟨?_, ?_, by simpa using filled piece hp⟩
  · rw [IsPart, String.toList_ofList]
    exact fun h => (chars _ h).2 rfl
  · rw [String.toList_ofList]
    exact fun h => (plain _ (chars _ h).1).2.2.2 rfl

/-- The search for something behind a front starts where the front starts, and goes along its
parts. -/
theorem Tree.Regular.exists_start (regular : t.Regular) (hf : IsFront front.toList)
    (plain : Plain front.toList) (single : Single front.toList) :
    ∃ start text place, IsFront text.toList ∧ Plain text.toList ∧
      (∀ after, '/' ∉ after →
        searchStart (front.toList ++ after) = (start, pieces (text.toList ++ after))) ∧
      Leads t (t.foundAt start) place ∧
      t.frontPlace front = (frontParts text).foldlM t.step place ∧
      (∀ part ∈ frontParts text, IsStep part) ∧
      start.utf8ByteSize + text.utf8ByteSize ≤ front.utf8ByteSize + 1 := by
  by_cases absolute : front.toList.head? = some '/'
  · obtain ⟨rest, hr⟩ := List.head?_eq_some_iff.mp absolute
    have parts : frontParts front = "" :: frontParts (String.ofList rest) := by
      rw [frontParts, hr, pieces, if_pos rfl, List.dropLast_cons_of_ne_nil (pieces_ne_nil rest),
        List.map_cons, frontParts, String.toList_ofList]
    refine ⟨"/", String.ofList rest, [], ?_, ?_, ?_, regular.leads_root, ?_, ?_, ?_⟩
    · rw [String.toList_ofList]
      rw [hr] at hf
      obtain hf | ⟨_ | ⟨c, before⟩, hf⟩ := hf
      · cases hf
      · exact .inl (List.cons.inj hf).2
      · exact .inr ⟨before, (List.cons.inj hf).2⟩
    · rw [String.toList_ofList]
      exact fun c hc => plain c (by simp [hr, hc])
    · rw [hr, String.toList_ofList]
      exact fun _ _ => rfl
    · rw [Tree.frontPlace, isAbsolute, absolute, if_pos (by rfl), parts, List.foldlM_cons,
        Tree.step_still regular.root (.inl rfl)]
      rfl
    · refine fun part => isStep_of_mem (fun c hc => plain c ?_) ?_
      · rw [String.toList_ofList] at hc
        simp [hr, hc]
      · have filled := single.ne_nil_of_mem
        rwa [hr, pieces, if_pos rfl, List.dropLast_cons_of_ne_nil (pieces_ne_nil rest),
          List.tail_cons, ← String.toList_ofList (l := rest)] at filled
    · have split : front = "/" ++ String.ofList rest := by
        rw [← String.ofList_toList (s := front), hr, String.ofList_cons]
        rfl
      rw [split, String.utf8ByteSize_append]
      omega
  · refine ⟨".", front, t.here, hf, plain, fun after ha => ?_, regular.leads_here, ?_, ?_, ?_⟩
    · refine searchStart_of_relative ?_
      rw [List.head?_append]
      cases hh : front.toList.head? with
      | none => exact fun h => ha (List.mem_of_head? h)
      | some c => rwa [hh] at absolute
    · rw [Tree.frontPlace, isAbsolute, if_neg (by simpa using absolute)]
    · exact fun part => isStep_of_mem plain (single.ne_nil_of_relative absolute)
    · rw [Nat.add_comm]
      rfl

/-- A search behind a front finds the entries of the directory that the front leads to. -/
theorem Tree.Regular.glob_front {stem : String} (regular : t.Regular)
    (hf : IsFront front.toList) (plain : Plain front.toList) (single : Single front.toList)
    (short : front.utf8ByteSize + 1 ≤ longestPath) (hs : IsPart stem) (hp : Plain stem.toList)
    (hd : stem.toList.head? ≠ some '.') :
    ∃ paths, t.glob (front ++ (stem ++ "*")) = .ok paths ∧
      ∀ name, (∃ path ∈ paths, nameOf? path = some name) ↔ stem.toList <+: name.toList ∧
        ∃ place, t.frontPlace front = .ok place ∧ t.isFolder place ∧ t.has (place ++ [name]) := by
  obtain ⟨start, text, place, hf', plain', starts, lead, same, steps, size⟩ :=
    regular.exists_start hf plain single
  have pattern : (front ++ (stem ++ "*")).toList = front.toList ++ (stem.toList ++ ['*']) := by
    simp only [String.toList_append]
    rfl
  have ok : readTokens 0 true (front ++ (stem ++ "*")).toList =
      .ok (startsWith (front.toList ++ stem.toList)) := by
    rw [pattern, ← List.append_assoc]
    exact readTokens_startsWith (fun c hc => (List.mem_append.mp hc).elim (plain c) (hp c)) 0 true
  have slashless : '/' ∉ stem.toList ++ ['*'] := by simpa [IsPart] using hs
  have parts := mapM_readTokens hf' plain' hs hp
  have found := Tree.glob_eq (t := t) ok (by rw [pattern, starts _ slashless]; exact parts)
  rw [pattern, starts _ slashless] at found
  refine ⟨_, found, fun name => ?_⟩
  rw [same, ← lead.search_front regular steps hd]
  · simp only [List.mem_map, exists_exists_and_eq_and]
    rfl
  · rw [size_frontParts hf']
    exact Nat.le_trans size short

theorem plain_frontOf (plain : Plain base.toList) : Plain (frontOf base).toList := by
  unfold frontOf
  split_ifs
  · exact plain
  · intro c hc
    rw [String.toList_append] at hc
    rcases List.mem_append.mp hc with hc | hc
    · exact plain c hc
    · obtain rfl : c = '/' := by simpa using hc
      decide

theorem single_frontOf (single : Single base.toList) : Single (frontOf base).toList := by
  unfold frontOf
  split_ifs with h
  · exact single
  · rw [String.toList_append]
    refine List.isChain_append.mpr ⟨single, List.isChain_singleton _, fun c hc _ _ hs => ?_⟩
    subst hs
    exact absurd (.inr hc) h

theorem ne_of_startsWith (filled : stem ≠ []) (hd : stem.head? ≠ some '.')
    (starts : stem <+: name.toList) : name ≠ "" ∧ name ≠ "." ∧ name ≠ ".." := by
  obtain ⟨rest, hr⟩ := starts
  obtain ⟨c, stem, rfl⟩ := List.exists_cons_of_ne_nil filled
  refine ⟨?_, ?_, ?_⟩ <;> rintro rfl
  · cases hr
  · exact hd (congrArg List.head? hr)
  · exact hd (congrArg List.head? hr)

/-- Below a plain path, a search finds the entries of the directory. -/
theorem Tree.Regular.findsEntries {stem : String} (regular : t.Regular) (plain : Plain base.toList)
    (single : Single base.toList)
    (short : base.utf8ByteSize + 1 + longestName ≤ longestPath) (hs : IsPart stem)
    (hp : Plain stem.toList) (filled : stem.toList ≠ []) (hd : stem.toList.head? ≠ some '.') :
    t.FindsEntries base stem := by
  have hf := isFront_frontOf base
  have size := utf8ByteSize_frontOf_le base
  have far : (frontOf base).utf8ByteSize + 1 ≤ longestPath := by
    unfold longestName at short
    omega
  obtain ⟨paths, found, entries⟩ :=
    regular.glob_front hf (plain_frontOf plain) (single_frontOf single) far hs hp hd
  refine ⟨paths, ?_, fun name => ?_⟩
  · rw [join_eq, found]
    rw [String.toList_append, List.head?_append_of_ne_nil _ filled]
    exact hs.head?_ne
  · rw [entries]
    refine and_congr_right fun starts => ?_
    obtain ⟨hne, steps⟩ := ne_of_startsWith filled hd starts
    have there (hn : IsPart name) := regular.pathExists_iff (t := t) hf
      (fun h => (plain_frontOf plain _ h).2.2.2 rfl) (by omega) hn steps hne
    constructor
    · rintro ⟨place, hfp, folder, hh⟩
      have hn := (regular.isName hh).part
      rw [join_eq hn.head?_ne]
      exact ⟨hn, (there hn).mpr ⟨place, hfp, folder, hh⟩⟩
    · rintro ⟨hn, he⟩
      rw [join_eq hn.head?_ne] at he
      exact (there hn).mp he

end Multiplex.Directory
