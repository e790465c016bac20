/-!
# Paths

Path texts: how they are put together and taken apart at slashes.
-/

namespace Multiplex.Directory

/-- `name` below `base`. A path that starts with a slash stands for itself, and no slash is added
behind one or behind nothing. -/
def join (base name : String) : String :=
  if name.toList.head? = some '/' ∨ base.isEmpty then name
  else if base.toList.getLast? = some '/' then base ++ name
  else base ++ "/" ++ name

/-- The parts of a path between its slashes; a part may be empty. -/
def pieces : List Char → List (List Char)
  | [] => [[]]
  | c :: rest =>
    if c = '/' then [] :: pieces rest
    else match pieces rest with
      | [] => [[c]]
      | piece :: after => (c :: piece) :: after

/-- The parts of a path between its slashes, as texts. -/
def pieceTexts (path : String) : List String := (pieces path.toList).map String.ofList

/-- The parts of a path that say where it leads: not the empty ones, and a dot only if the path
starts with it. -/
def leadingParts (path : String) : List String :=
  (pieceTexts path).zipIdx.filterMap fun (part, i) =>
    if part = "" ∨ (part = "." ∧ i ≠ 0) then none else some part

/-- Whether a path starts at the root. -/
def isAbsolute (path : String) : Bool := path.toList.head? == some '/'

/-- Whether a path leads nowhere else than to where one is. -/
def isHere (path : String) : Bool := leadingParts path == ["."]

/-- The name that a path ends in, unless it ends in a step up. -/
def nameOf? (path : String) : Option String :=
  (leadingParts path).getLast?.filter fun name => name ≠ "." ∧ name ≠ ".."

end Multiplex.Directory
