import Multiplex.Directory.Tree

/-!
# Path patterns

Patterns for paths. A question mark stands for one character, an asterisk for any number of them,
and brackets for one character out of a set or, after an exclamation mark, out of none of it. Two
asterisks that fill a part of the path stand for any number of directories. A search follows a
pattern part by part and builds up the paths it finds; the parts without wildcards stay in them as
they are written.
-/

namespace Multiplex.Directory

/-- A part of a pattern. -/
inductive Token
  | char (c : Char)
  /-- One character. -/
  | any
  /-- Any number of characters. -/
  | run
  /-- Any number of directories. -/
  | tree
  /-- A character in one of the ranges. -/
  | oneOf (ranges : List (Char × Char))
  /-- A character in none of the ranges. -/
  | noneOf (ranges : List (Char × Char))
  deriving DecidableEq

/-- Why a text is no pattern, with the position at which that shows. -/
inductive PatternError
  /-- Three asterisks or more. -/
  | wildcards (position : Nat)
  /-- Two asterisks that do not fill a part of the path. -/
  | recursive (position : Nat)
  /-- A bracket that is not closed. -/
  | range (position : Nat)
  deriving DecidableEq

/-- What is wrong with a pattern, in words. -/
def PatternError.message (e : PatternError) : String :=
  let (position, text) := match e with
    | wildcards p => (p, "wildcards are either regular \x60*\x60 or recursive \x60**\x60")
    | recursive p => (p, "recursive wildcards must form a single path component")
    | range p => (p, "invalid range pattern")
  "Pattern syntax error near position " ++ toString position ++ ": " ++ text

/-- What stands before the first closing bracket, and what stands after it. -/
def untilBracket? : List Char → Option (List Char × List Char)
  | [] => none
  | c :: rest =>
    if c = ']' then some ([], rest)
    else (untilBracket? rest).map fun (body, after) => (c :: body, after)

/-- The ranges of a set: `a-b` is a range, any other character stands for itself. -/
def ranges : List Char → List (Char × Char)
  | a :: '-' :: b :: rest => (a, b) :: ranges rest
  | a :: rest => (a, a) :: ranges rest
  | [] => []

/-- A set of characters up to its closing bracket, and what stands after that. A bracket that comes
first belongs to the set. -/
def readSet? : List Char → Option (Token × List Char)
  | [] => none
  | '!' :: rest =>
    match rest with
    | [] => none
    | c :: rest =>
      (untilBracket? rest).map fun (body, after) => (.noneOf (ranges (c :: body)), after)
  | c :: rest => (untilBracket? rest).map fun (body, after) => (.oneOf (ranges (c :: body)), after)

theorem length_untilBracket? {cs : List Char} {body after : List Char}
    (h : untilBracket? cs = some (body, after)) : after.length < cs.length := by
  induction cs generalizing body with
  | nil => simp [untilBracket?] at h
  | cons c rest ih =>
    simp only [untilBracket?] at h
    split at h
    · simp only [Option.some.injEq, Prod.mk.injEq] at h
      simp [h.2]
    · obtain ⟨⟨body', after'⟩, h', he⟩ := Option.map_eq_some_iff.1 h
      simp only [Prod.mk.injEq] at he
      have := ih (he.2 ▸ h')
      simp only [List.length_cons]
      omega

theorem length_readSet? {cs : List Char} {token : Token} {after : List Char}
    (h : readSet? cs = some (token, after)) : after.length < cs.length := by
  unfold readSet? at h
  split at h
  · simp at h
  · split at h
    · simp at h
    · obtain ⟨⟨body, after'⟩, h', he⟩ := Option.map_eq_some_iff.1 h
      simp only [Prod.mk.injEq] at he
      have := length_untilBracket? (he.2 ▸ h')
      simp only [List.length_cons]
      omega
  · obtain ⟨⟨body, after'⟩, h', he⟩ := Option.map_eq_some_iff.1 h
    simp only [Prod.mk.injEq] at he
    have := length_untilBracket? (he.2 ▸ h')
    simp only [List.length_cons]
    omega

/-- Reads a pattern from a position on. `atStart` tells whether a part of the path starts there. -/
def readTokens (position : Nat) (atStart : Bool) : List Char → Except PatternError (List Token)
  | [] => .ok []
  | '*' :: '*' :: '*' :: _ => .error (.wildcards (position + 2))
  | '*' :: '*' :: rest =>
    if !atStart then .error (.recursive (position - 1))
    else match rest with
      | [] => .ok [.tree]
      | c :: rest =>
        if c = '/' then (.tree :: ·) <$> readTokens (position + 3) true rest
        else .error (.recursive (position + 2))
  | '[' :: rest =>
    match _h : readSet? rest with
    | none => .error (.range position)
    | some (token, after) =>
      (token :: ·) <$> readTokens (position + 1 + (rest.length - after.length)) false after
  | '?' :: rest => (.any :: ·) <$> readTokens (position + 1) false rest
  | '*' :: rest => (.run :: ·) <$> readTokens (position + 1) false rest
  | c :: rest => (.char c :: ·) <$> readTokens (position + 1) (c == '/') rest
termination_by cs => cs.length
decreasing_by
  all_goals try simp only [List.length_cons]
  all_goals try have := length_readSet? _h
  all_goals omega

namespace Token

/-- Whether a character is in one of the ranges. -/
def inRanges (ranges : List (Char × Char)) (c : Char) : Bool :=
  ranges.any fun (low, high) => low ≤ c && c ≤ high

/-- Whether a token that stands for one character stands for `c`. -/
def accepts (c : Char) : Token → Bool
  | char d => c == d
  | any => true
  | oneOf ranges => inRanges ranges c
  | noneOf ranges => !inRanges ranges c
  | run | tree => false

/-- Whether a token stands for any number of characters. -/
def isRun : Token → Bool
  | run | tree => true
  | _ => false

/-- The character that a token stands for, if it stands for just one. -/
def literal? : Token → Option Char
  | char c => some c
  | _ => none

end Token

/-- A pattern for the name of one file or directory. -/
abbrev Pattern := List Token

/-- How a pattern and a name go together. -/
inductive Fit
  | fits
  | fails
  /-- The name ends too early, so that no later part of it fits the pattern either. -/
  | isShort
  deriving DecidableEq

namespace Pattern

/-- How a pattern and a name go together. A run takes as few characters as possible, and is not
tried with more of them when the name is too short for what follows. -/
def fit : Pattern → List Char → Fit
  | [], [] => .fits
  | [], _ :: _ => .fails
  | token :: rest, name =>
    if token.isRun then
      match fit rest name, name with
      | .fails, _ :: name => fit (token :: rest) name
      | outcome, _ => outcome
    else match name with
      | [] => .isShort
      | c :: name => if token.accepts c then fit rest name else .fails
termination_by pattern name => pattern.length + name.length

/-- Whether a pattern matches all of a name. -/
def matchesAll (pattern : Pattern) (name : String) : Bool := pattern.fit name.toList == .fits

/-- The only name a pattern without wildcards matches. -/
def literal? (pattern : Pattern) : Option String :=
  (pattern.mapM Token.literal?).map String.ofList

end Pattern

/-- A path that a search has come to, and whether there is a directory. -/
structure Found where
  path : String
  isFolder : Bool

namespace Found

/-- A path from `f` on. What is found where the search starts has no path in front of its name. -/
def pathTo (f : Found) (name : String) : String :=
  if isHere f.path then name else join f.path name

end Found

namespace Tree

/-- What is found at a path. -/
def foundAt (t : Tree) (path : String) : Found :=
  ⟨path, match t.locate path with
    | .ok place => t.isFolder place
    | .error _ => false⟩

/-- Goes on to a name without wildcards, if there is something of this name. A step up or a step to
where one is can be taken from every directory. -/
def enter? (t : Tree) (f : Found) (name : String) : Option Found :=
  if (if name = "." ∨ name = ".." then f.isFolder else t.pathExists (f.pathTo name)) then
    some (t.foundAt (f.pathTo name))
  else none

/-- What is below a place that a directory's path leads to, in places and in paths. A directory can
only be listed if its path is not too long. -/
def listing (t : Tree) (f : Found) (places : Place → List Place) : List Found :=
  match t.locate f.path with
  | .error _ => []
  | .ok place =>
    if f.isFolder then (places place).filterMap fun p =>
      let names := p.drop place.length
      let parent := names.dropLast.foldl (fun g name => ⟨g.pathTo name, true⟩) f
      if parent.path.utf8ByteSize ≤ longestPath then
        names.getLast?.map fun name => ⟨parent.pathTo name, t.isFolder p⟩
      else none
    else []

/-- What a list of patterns leads to, one pattern for each part of the path. `anyDepth` tells
whether directories may be passed over first. -/
def search (t : Tree) : List Pattern → (anyDepth : Bool) → Found → List Found
  | [], false, f => [f]
  | [], true, f => (t.listing f t.below).filter (·.isFolder)
  | pattern :: rest, anyDepth, f =>
    let named (found : List Found) : List Found :=
      (found.filter fun g => (nameOf? g.path).any (Pattern.matchesAll pattern)).flatMap
        (t.search rest false)
    if pattern = [.tree] then t.search rest true f
    else if anyDepth then named (t.listing f t.below)
    else match Pattern.literal? pattern with
      | some name => ((t.enter? f name).map (t.search rest false)).getD []
      | none =>
        let special := if pattern.head? = some (.char '.') ∧ f.isFolder ∧ t.pathExists f.path then
            [".", ".."].filter (Pattern.matchesAll pattern)
          else []
        named (t.listing f t.children) ++
          special.flatMap fun name => t.search rest false (t.foundAt (join f.path name))

/-- The paths that match a pattern. The pattern as a whole has to be one, and each of its parts as
well. -/
def glob (t : Tree) (pattern : String) : Except PatternError (List String) := do
  let _ ← readTokens 0 true pattern.toList
  let (start, parts) := match pattern.toList with
    | '/' :: rest => ("/", pieces rest)
    | cs => (".", pieces cs)
  let patterns ← parts.mapM (readTokens 0 true)
  return (t.search patterns false (t.foundAt start)).map (·.path)

end Tree

end Multiplex.Directory
