import Multiplex.Device.Simulated
import Multiplex.Program.Run

/-!
# The command line

Runs the program with files of this machine. There are no drivers behind it: every node of an
adapter opens as if it were missing.
-/

namespace Multiplex.Program

open Multiplex.Directory

/-- The place of a path below the root or, for a relative path, below the working directory. -/
def placeOf (path : String) : Place := (leadingParts path).filter (· ≠ ".")

/-- The bytes of a file, if it can be read. -/
def readFile? (path : String) : IO (Option (List UInt8)) := do
  try return some (← IO.FS.readBinFile path).toList
  catch _ => return none

/-- Whether there is something at a path. -/
def isThere (path : String) : IO Bool := do
  try
    let _ ← IO.FS.realPath path
    return true
  catch _ => return false

/-- How many adapters a system can have. -/
def adapterLimit : Nat := 256

/-- The directories of adapters below a directory. -/
def adapterFolders (base : String) : IO (List Place) := do
  let paths := (List.range adapterLimit).map fun n => adapterPath base (.ofNat n)
  return (← paths.filterM isThere).map placeOf

/-- The files and directories that a command asks about. -/
def treeFor : Except Stop Command → IO Tree
  | .ok (.list r) => return { files := [], folders := ← adapterFolders r.base, here := [] }
  | .ok (.scanTable r) => do
    let file := (← readFile? r.path).map fun bytes => (placeOf r.path, bytes)
    return { files := file.toList, folders := [], here := [] }
  | _ => return { files := [], folders := [], here := [] }

/-- Runs the program on this machine; gives its exit code. -/
def runHere (arguments : List String) : IO UInt32 := do
  let output ← IO.getStdout
  let files ← treeFor (Command.ofArguments arguments)
  let (ending, w) := run Device.simulated ⟨files, paint (← output.isTty)⟩ arguments
    { device := { nodes := [] } }
  w.log.forM fun (level, text) => IO.eprintln (level.name ++ " " ++ text)
  output.putStr ending.output
  if !ending.remark.isEmpty then IO.eprintln ending.remark
  return .ofNat ending.code

end Multiplex.Program

/-- Runs the program with its arguments. -/
def main (arguments : List String) : IO UInt32 := Multiplex.Program.runHere arguments
