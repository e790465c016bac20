import Multiplex.Directory.Path
import Multiplex.SystemError

/-!
# Trees of files

A tree of directories and files with a working directory. Places in the tree are lists of names
from the root. A path is followed name by name, and every part of it but the last has to be a
directory.
-/

namespace Multiplex.Directory

/-- A list of names from the root. -/
abbrev Place := List String

/-- What is in a tree: files with their bytes, directories, and the working directory. Every
directory above these is in the tree as well. -/
structure Tree where
  files : List (Place × List UInt8)
  folders : List Place
  here : Place

namespace Tree

/-- All places that are listed. -/
def listed (t : Tree) : List Place := t.files.map (·.1) ++ t.folders ++ [t.here]

/-- The bytes of a file. -/
def content? (t : Tree) (place : Place) : Option (List UInt8) := t.files.lookup place

/-- Whether there is a directory or a file at a place. -/
def has (t : Tree) (place : Place) : Bool := t.listed.any place.isPrefixOf

/-- Whether there is a directory at a place. -/
def isFolder (t : Tree) (place : Place) : Bool := t.has place && (t.content? place).isNone

/-- The first parts of a list, each one longer by one, without the empty one. -/
def starts : List α → List (List α)
  | [] => []
  | a :: rest => [a] :: (starts rest).map (a :: ·)

/-- All places below a directory. -/
def below (t : Tree) (place : Place) : List Place :=
  (t.listed.flatMap fun p =>
    if place.isPrefixOf p then (starts (p.drop place.length)).map (place ++ ·) else []).eraseDups

/-- The places directly below a directory. -/
def children (t : Tree) (place : Place) : List Place :=
  (t.below place).filter (·.length == place.length + 1)

/-- The longest name of a file, in bytes. -/
def longestName : Nat := 255

/-- The longest path, in bytes. -/
def longestPath : Nat := 4095

/-- Goes from one place to the next by a part of a path. -/
def step (t : Tree) (place : Place) (name : String) : Except SystemError Place :=
  if !t.isFolder place then .error .notDirectory
  else if name = "" ∨ name = "." then .ok place
  else if name = ".." then .ok place.dropLast
  else if name.utf8ByteSize > longestName then .error .nameTooLong
  else if t.has (place ++ [name]) then .ok (place ++ [name])
  else .error .noEntry

/-- The place a path leads to. -/
def locate (t : Tree) (path : String) : Except SystemError Place :=
  if path.toList.contains '\x00' then .error (.other "file name contained an unexpected NUL byte")
  else if path.isEmpty then .error .noEntry
  else if path.utf8ByteSize > longestPath then .error .nameTooLong
  else (pieceTexts path).foldlM t.step (if isAbsolute path then [] else t.here)

/-- The bytes of the file a path leads to. -/
def read (t : Tree) (path : String) : Except SystemError (List UInt8) := do
  match t.content? (← t.locate path) with
  | some bytes => return bytes
  | none => throw .isDirectory

/-- Whether a path leads to something. -/
def pathExists (t : Tree) (path : String) : Bool := (t.locate path).toBool

end Tree

end Multiplex.Directory
