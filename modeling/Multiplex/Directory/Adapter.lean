import Multiplex.Directory.Pattern
import Multiplex.Failure
import Multiplex.Text.Numeral

/-!
# Adapters

Each adapter is a directory whose name ends in the adapter's number; the nodes of its devices lie
in that directory.
-/

namespace Multiplex.Directory

open Multiplex.Text

/-- Where the system keeps the directories of adapters. -/
def defaultBase : String := "/dev/dvb"

/-- What the name of an adapter's directory starts with. -/
def adapterStem : String := "adapter"

/-- The directory of an adapter. -/
def adapterPath (base : String) (adapter : UInt32) : String :=
  join base (adapterStem ++ toString adapter.toNat)

/-- A node of an adapter: the kind of device and its number. -/
def nodePath (base : String) (adapter : UInt32) (kind : String) (index : UInt32) : String :=
  join (adapterPath base adapter) (kind ++ toString index.toNat)

/-- The number of an adapter by the name of its directory. -/
def adapterNumber? (name : String) : Option UInt32 :=
  if adapterStem.toList.isPrefixOf name.toList then
    (readUnsigned? 10 UInt32.size (name.toList.drop adapterStem.length)).map UInt32.ofNat
  else none

/-- Each of the numbers once, in ascending order. -/
def ascending (numbers : List UInt32) : List UInt32 := (numbers.mergeSort (· ≤ ·)).eraseReps

/-- The numbers of the adapters below a directory, in ascending order. The path of the directory
is the first part of a path pattern. -/
def Tree.adapters (t : Tree) (base : String) : Except Failure (List UInt32) :=
  match t.glob (join base (adapterStem ++ "*")) with
  | .error e => .error (.badParameter e.message)
  | .ok paths => .ok (ascending (paths.filterMap fun path => (nameOf? path).bind adapterNumber?))

end Multiplex.Directory
