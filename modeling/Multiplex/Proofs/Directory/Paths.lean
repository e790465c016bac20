import Multiplex.Directory.Tree
import Mathlib.Tactic

/-!
# Following paths

A path is followed part by part. What stands in front of its last name, `frontOf`, leads to a place,
and the name is one step from there (`Tree.locate_append`).
-/

namespace Multiplex.Directory

variable {text : List Char} {path front name base : String} {t : Tree} {place place' : Place}

/-! ### Parts -/

/-- A text between two slashes. -/
def IsPart (name : String) : Prop := '/' ∉ name.toList

/-- A text that a name can stand behind: nothing, or one with a slash at its end. -/
def IsFront (text : List Char) : Prop := text = [] ∨ ∃ rest, text = rest ++ ['/']

theorem pieces_ne_nil (text : List Char) : pieces text ≠ [] := by
  cases text with
  | nil => simp [pieces]
  | cons c rest =>
      rw [pieces]
      split
      · simp
      · split <;> simp

theorem pieces_cons {c : Char} (hc : c ≠ '/') (rest : List Char) :
    ∃ piece after, pieces rest = piece :: after ∧ pieces (c :: rest) = (c :: piece) :: after := by
  cases h : pieces rest with
  | nil => exact absurd h (pieces_ne_nil rest)
  | cons piece after => exact ⟨piece, after, rfl, by rw [pieces, if_neg hc, h]⟩

theorem pieces_of_not_mem (h : '/' ∉ text) : pieces text = [text] := by
  induction text with
  | nil => rfl
  | cons c rest ih =>
      obtain ⟨hc, hr⟩ := not_or.mp (mt List.mem_cons.mpr h)
      obtain ⟨piece, after, he, hp⟩ := pieces_cons (Ne.symm hc) rest
      rw [ih hr] at he
      cases he
      exact hp

theorem pieces_append_slash (before after : List Char) :
    pieces (before ++ '/' :: after) = pieces before ++ pieces after := by
  induction before with
  | nil => rfl
  | cons c rest ih =>
      by_cases hc : c = '/'
      · subst hc
        simp only [List.cons_append, pieces, if_true, ih]
      · obtain ⟨piece, more, he, hp⟩ := pieces_cons hc rest
        obtain ⟨piece', more', he', hp'⟩ := pieces_cons hc (rest ++ '/' :: after)
        rw [ih, he, List.cons_append] at he'
        cases he'
        rw [List.cons_append, hp', hp, List.cons_append]

/-- A name behind a front is one more part. -/
theorem pieces_append_name (hf : IsFront text) {name : List Char} (hn : '/' ∉ name) :
    pieces (text ++ name) = (pieces text).dropLast ++ [name] := by
  obtain rfl | ⟨rest, rfl⟩ := hf
  · exact pieces_of_not_mem hn
  · rw [List.append_assoc, List.singleton_append, pieces_append_slash, pieces_append_slash,
      pieces_of_not_mem hn, pieces_of_not_mem (List.not_mem_nil), List.dropLast_concat]

theorem mem_of_mem_pieces {piece : List Char} {c : Char} (h : piece ∈ pieces text)
    (hc : c ∈ piece) : c ∈ text ∧ c ≠ '/' := by
  induction text generalizing piece with
  | nil =>
      obtain rfl := List.mem_singleton.mp h
      cases hc
  | cons d rest ih =>
      by_cases hd : d = '/'
      · subst hd
        rw [pieces, if_pos rfl] at h
        rcases List.mem_cons.mp h with rfl | h
        · cases hc
        · exact (ih h hc).imp_left (List.mem_cons_of_mem _)
      · obtain ⟨piece', after, he, hp⟩ := pieces_cons hd rest
        rw [he] at ih
        rw [hp] at h
        rcases List.mem_cons.mp h with rfl | h
        · rcases List.mem_cons.mp hc with rfl | hc
          · exact ⟨List.mem_cons_self, hd⟩
          · exact (ih List.mem_cons_self hc).imp_left (List.mem_cons_of_mem _)
        · exact (ih (List.mem_cons_of_mem _ h) hc).imp_left (List.mem_cons_of_mem _)

/-- Between its pieces, a text has slashes only. -/
theorem size_pieces (text : List Char) :
    ((pieces text).map fun piece => (String.ofList piece).utf8ByteSize + 1).sum =
      (String.ofList text).utf8ByteSize + 1 := by
  induction text with
  | nil => rfl
  | cons c rest ih =>
      by_cases hc : c = '/'
      · subst hc
        rw [pieces, if_pos rfl, List.map_cons, List.sum_cons, ih, String.ofList_cons,
          String.utf8ByteSize_append, String.utf8ByteSize_singleton]
        change 0 + 1 + _ = 1 + _ + 1
        omega
      · obtain ⟨piece, after, he, hp⟩ := pieces_cons hc rest
        rw [he, List.map_cons, List.sum_cons] at ih
        rw [hp, List.map_cons, List.sum_cons, String.ofList_cons, String.ofList_cons,
          String.utf8ByteSize_append, String.utf8ByteSize_append]
        omega

/-- No two slashes stand next to each other. -/
def Single (text : List Char) : Prop := text.IsChain fun a b => a = '/' → b ≠ '/'

instance (text : List Char) : Decidable (Single text) :=
  inferInstanceAs (Decidable (text.IsChain fun a b => a = '/' → b ≠ '/'))

/-- Between single slashes there is something. -/
theorem Single.ne_nil_of_mem (h : Single text) :
    ∀ piece ∈ (pieces text).dropLast.tail, piece ≠ [] := by
  induction text with
  | nil => simp [pieces]
  | cons c rest ih =>
      have ih := ih h.of_cons
      by_cases hc : c = '/'
      · subst hc
        rw [pieces, if_pos rfl, List.dropLast_cons_of_ne_nil (pieces_ne_nil rest), List.tail_cons]
        cases rest with
        | nil => simp [pieces]
        | cons d rest =>
            have hd : d ≠ '/' := (List.isChain_cons_cons.mp h).1 rfl
            obtain ⟨piece, after, -, hp⟩ := pieces_cons hd rest
            rw [hp] at ih ⊢
            cases after with
            | nil => simp
            | cons e after =>
                rw [List.dropLast_cons_of_ne_nil (by simp)] at ih ⊢
                simpa using ih
      · obtain ⟨piece, after, he, hp⟩ := pieces_cons hc rest
        rw [he] at ih
        rw [hp]
        cases after with
        | nil => simp
        | cons e after =>
            rw [List.dropLast_cons_of_ne_nil (by simp), List.tail_cons] at ih ⊢
            exact ih

theorem Single.ne_nil_of_relative (h : Single text) (relative : text.head? ≠ some '/') :
    ∀ piece ∈ (pieces text).dropLast, piece ≠ [] := by
  have tail := h.ne_nil_of_mem
  cases text with
  | nil => simp [pieces]
  | cons c rest =>
      have hc : c ≠ '/' := fun hc => relative (congrArg some hc)
      obtain ⟨piece, after, -, hp⟩ := pieces_cons hc rest
      rw [hp] at tail ⊢
      cases after with
      | nil => simp
      | cons e after =>
          rw [List.dropLast_cons_of_ne_nil (by simp)] at tail ⊢
          simpa using tail

/-! ### Fronts -/

/-- What `join` puts in front of a name. -/
def frontOf (base : String) : String :=
  if base.isEmpty ∨ base.toList.getLast? = some '/' then base else base ++ "/"

/-- The parts of a front. -/
def frontParts (front : String) : List String :=
  (pieces front.toList).dropLast.map String.ofList

/-- The place that a front leads to. -/
def Tree.frontPlace (t : Tree) (front : String) : Except SystemError Place :=
  (frontParts front).foldlM t.step (if isAbsolute front then [] else t.here)

theorem isFront_frontOf (base : String) : IsFront (frontOf base).toList := by
  unfold frontOf
  split_ifs with h
  · obtain he | hl := h
    · exact .inl (by rw [String.isEmpty_iff.mp he]; rfl)
    · exact .inr (List.getLast?_eq_some_iff.mp hl)
  · exact .inr ⟨base.toList, by rw [String.toList_append]; rfl⟩

theorem join_eq (h : name.toList.head? ≠ some '/') : join base name = frontOf base ++ name := by
  unfold join frontOf
  by_cases he : base.isEmpty
  · rw [if_pos (.inr he), if_pos (.inl he), String.isEmpty_iff.mp he, String.empty_append]
  · by_cases hl : base.toList.getLast? = some '/'
    · rw [if_neg (by simp [h, he]), if_pos hl, if_pos (.inr hl)]
    · rw [if_neg (by simp [h, he]), if_neg hl, if_neg (by simp [he, hl])]

theorem isPart_empty : IsPart "" := List.not_mem_nil

theorem IsPart.head?_ne (h : IsPart name) : name.toList.head? ≠ some '/' :=
  fun hh => h (List.mem_of_head? hh)

theorem pieceTexts_append (hf : IsFront front.toList) (hn : IsPart name) :
    pieceTexts (front ++ name) = frontParts front ++ [name] := by
  rw [pieceTexts, String.toList_append, pieces_append_name hf hn, List.map_append, frontParts,
    List.map_singleton, String.ofList_toList]

theorem isAbsolute_append (hn : IsPart name) : isAbsolute (front ++ name) = isAbsolute front := by
  unfold isAbsolute
  rw [String.toList_append, List.head?_append]
  cases front.toList.head? with
  | none => simpa using hn.head?_ne
  | some c => rfl

/-- The parts of a path are the ones of its front, and perhaps an empty one at its end. -/
theorem pieceTexts_eq_or (path : String) : pieceTexts path = frontParts (frontOf path) ∨
    pieceTexts path = frontParts (frontOf path) ++ [""] := by
  have hf := isFront_frontOf path
  unfold frontOf at hf ⊢
  split_ifs at hf ⊢
  · refine .inr ?_
    rw [← pieceTexts_append hf isPart_empty, String.append_empty]
  · refine .inl ?_
    rw [frontParts, String.toList_append]
    change _ = ((pieces (path.toList ++ '/' :: [])).dropLast).map String.ofList
    rw [pieces_append_slash, pieces, List.dropLast_concat]
    rfl

theorem utf8ByteSize_frontOf_le (base : String) :
    (frontOf base).utf8ByteSize ≤ base.utf8ByteSize + 1 := by
  unfold frontOf
  split_ifs
  · omega
  · rw [String.utf8ByteSize_append]
    rfl

theorem size_frontParts (hf : IsFront front.toList) :
    ((frontParts front).map fun part => part.utf8ByteSize + 1).sum = front.utf8ByteSize := by
  rw [frontParts, List.map_map]
  obtain he | ⟨rest, he⟩ := hf
  · rw [String.toList_eq_nil_iff.mp he]
    rfl
  · have split : front = String.ofList rest ++ "/" := by
      rw [← String.ofList_toList (s := front), he, String.ofList_append]
    rw [he, pieces_append_slash, pieces, List.dropLast_concat]
    exact (size_pieces rest).trans (by rw [split, String.utf8ByteSize_append]; rfl)

/-! ### Parts that lead somewhere -/

/-- The parts among some that lead somewhere. -/
def leading (parts : List String) : List String :=
  parts.zipIdx.filterMap fun (part, i) =>
    if part = "" ∨ (part = "." ∧ i ≠ 0) then none else some part

theorem leadingParts_eq (path : String) : leadingParts path = leading (pieceTexts path) := rfl

theorem leading_append_singleton (parts : List String) (name : String) :
    leading (parts ++ [name]) =
      leading parts ++ if name = "" ∨ (name = "." ∧ parts ≠ []) then [] else [name] := by
  unfold leading
  rw [List.zipIdx_append, List.filterMap_append, List.zipIdx_singleton, List.filterMap_cons]
  simp only [Nat.zero_add, List.length_eq_zero_iff, ne_eq, List.filterMap_nil]
  split_ifs <;> rfl

theorem frontParts_eq_nil_iff (hf : IsFront front.toList) : frontParts front = [] ↔ front = "" := by
  rw [← String.toList_eq_nil_iff, frontParts, List.map_eq_nil_iff]
  obtain he | ⟨rest, he⟩ := hf
  · simp [he, pieces]
  · have := pieces_append_slash rest []
    rw [he, this, pieces, List.dropLast_concat]
    simp [pieces_ne_nil]

theorem leadingParts_append (hf : IsFront front.toList) (hn : IsPart name) :
    leadingParts (front ++ name) = leadingParts front ++
      if name = "" ∨ (name = "." ∧ front ≠ "") then [] else [name] := by
  have before : leadingParts front = leading (frontParts front) := by
    rw [leadingParts_eq, ← String.append_empty (s := front), pieceTexts_append hf isPart_empty,
      leading_append_singleton]
    simp
  rw [before, leadingParts_eq, pieceTexts_append hf hn, leading_append_singleton]
  simp only [ne_eq, frontParts_eq_nil_iff hf]

theorem leadingParts_frontOf (path : String) : leadingParts (frontOf path) = leadingParts path := by
  have hf := isFront_frontOf path
  have before := pieceTexts_append hf isPart_empty
  rw [String.append_empty] at before
  rw [leadingParts_eq, leadingParts_eq, before, leading_append_singleton]
  rcases pieceTexts_eq_or path with he | he
  · simp [he]
  · simp [he, leading_append_singleton]

theorem frontOf_ne_empty (filled : path ≠ "") : frontOf path ≠ "" := by
  unfold frontOf
  split_ifs
  · exact filled
  · exact fun h => filled (String.append_eq_empty_iff.mp h).1

/-- A path that leads somewhere else than to where one is does so with a name behind it, too. -/
theorem not_isHere_append (filled : path ≠ "") (away : ¬isHere path) (hn : IsPart name) :
    ¬isHere (frontOf path ++ name) := by
  simp only [isHere, beq_iff_eq] at away ⊢
  rw [leadingParts_append (isFront_frontOf path) hn, leadingParts_frontOf]
  split_ifs with h
  · rwa [List.append_nil]
  · intro he
    obtain ⟨-, hs⟩ := List.append_eq_singleton_iff.mp he |>.resolve_right (by simp [away])
    exact h (.inr ⟨List.singleton_inj.mp hs, frontOf_ne_empty filled⟩)

/-- What an entry of a directory can be called. -/
structure IsName (name : String) : Prop where
  part : IsPart name
  clean : '\x00' ∉ name.toList
  filled : name ≠ ""
  steps : name ≠ "." ∧ name ≠ ".."
  short : name.utf8ByteSize ≤ Tree.longestName

theorem nameOf?_append (hf : IsFront front.toList) (hn : IsName name) :
    nameOf? (front ++ name) = some name := by
  rw [nameOf?, leadingParts_append hf hn.part, if_neg (by simp [hn.filled, hn.steps])]
  simp [hn.steps]

instance (name : String) : Decidable (IsPart name) :=
  inferInstanceAs (Decidable ('/' ∉ name.toList))

instance (name : String) : Decidable (IsName name) :=
  decidable_of_iff (IsPart name ∧ '\x00' ∉ name.toList ∧ name ≠ "" ∧ (name ≠ "." ∧ name ≠ "..") ∧
      name.utf8ByteSize ≤ Tree.longestName)
    ⟨fun ⟨h1, h2, h3, h4, h5⟩ => ⟨h1, h2, h3, h4, h5⟩,
      fun ⟨h1, h2, h3, h4, h5⟩ => ⟨h1, h2, h3, h4, h5⟩⟩

/-! ### Following -/

/-- A path that can be followed at all. -/
structure Passable (path : String) : Prop where
  clean : '\x00' ∉ path.toList
  filled : path ≠ ""
  short : path.utf8ByteSize ≤ Tree.longestPath

theorem Tree.locate_of_passable (h : Passable path) : t.locate path =
    (pieceTexts path).foldlM t.step (if isAbsolute path then [] else t.here) := by
  have clean : path.toList.contains '\x00' = false := by simpa using h.clean
  have filled : path.isEmpty = false := by simpa using h.filled
  have short := Nat.not_lt.mpr h.short
  simp only [locate, clean, filled, short, Bool.false_eq_true, if_false]

theorem Tree.passable_of_locate (h : t.locate path = .ok place) : Passable path := by
  unfold locate at h
  split_ifs at h with clean filled short
  all_goals exact ⟨by simpa using clean, by simpa using filled, Nat.not_lt.mp short⟩

/-- A name behind a front is one step from where the front leads to. -/
theorem Tree.locate_append (hf : IsFront front.toList) (hn : IsPart name)
    (h : Passable (front ++ name)) :
    t.locate (front ++ name) = t.frontPlace front >>= fun place => t.step place name := by
  rw [locate_of_passable h, pieceTexts_append hf hn, isAbsolute_append hn, List.foldlM_append,
    frontPlace]
  simp

theorem Tree.isFolder_of_step (h : t.step place name = .ok place') : t.isFolder place := by
  unfold step at h
  split_ifs at h with hf
  all_goals simpa using hf

theorem Tree.step_still (h : t.isFolder place) (hn : name = "" ∨ name = ".") :
    t.step place name = .ok place := by
  simp [step, h, hn]

/-- The front of a path leads to where the path leads to. -/
theorem Tree.frontPlace_frontOf (h : t.locate path = .ok place) :
    t.frontPlace (frontOf path) = .ok place := by
  have passable := passable_of_locate h
  have same : isAbsolute (frontOf path) = isAbsolute path := by
    unfold frontOf
    split_ifs
    · rfl
    · unfold isAbsolute
      rw [String.toList_append, List.head?_append_of_ne_nil _ (by simpa using passable.filled)]
  rw [locate_of_passable passable] at h
  rw [frontPlace, same]
  rcases pieceTexts_eq_or path with he | he
  · rwa [← he]
  · rw [he, List.foldlM_append] at h
    generalize (frontParts (frontOf path)).foldlM t.step _ = found at h ⊢
    cases found with
    | error e => cases h
    | ok place₁ =>
        change [""].foldlM t.step place₁ = .ok place at h
        have hs : t.step place₁ "" = .ok place := by simpa using h
        rw [← hs, step_still (isFolder_of_step hs) (.inl rfl)]

end Multiplex.Directory
