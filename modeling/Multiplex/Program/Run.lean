import Multiplex.Program.Dump
import Multiplex.Program.Report
import Multiplex.Program.SectionText
import Multiplex.Scan.Table
import Multiplex.Section.Json
import Multiplex.Session.Filter

/-!
# Running commands

A command prints lines, writes to the log and leads to an exit code: zero if it did what it was
asked to do. Whatever it opens it closes again, and a failure to do so shows in the exit code of all
commands but `list`.
-/

namespace Multiplex.Program

open Multiplex.Text Multiplex.Device Multiplex.Session

/-- A run of a command: it prints lines and uses devices. -/
abbrev Job (σ : Type) := StateT (List String) (StateM (World σ))

/-- Prints lines. -/
def printLines (lines : List String) : Job σ Unit := modify (· ++ lines)

/-- Adds a line to the log. -/
def say (level : Level) (text : String) : Job σ Unit := StateT.lift (note level text)

/-- The outcome of an attempt. -/
def attempt (a : Attempt σ α) : Job σ (Except Failure α) := StateT.lift a.run

/-- Attempts something; if it fails, the log says so and gives the reason. -/
def orSay (what : String) (a : Attempt σ α) : Job σ (Option α) := do
  match ← attempt a with
  | .ok result => return some result
  | .error f =>
    say .error (what ++ ": " ++ f.message)
    return none

/-- What the program is run with, beside its arguments. -/
structure Surroundings where
  files : Directory.Tree
  paint : Paint

section

variable (P : Platform σ) (around : Surroundings)

/-- Opens the frontend of a choice; gives its place. -/
def openChosen (c : FrontendChoice) : Job σ (Option Nat) :=
  orSay ("Failed to open " ++ frontendText c.adapter c.frontend)
    (openFrontend P c.adapter c.frontend)

/-- The frontend at a place. -/
def frontendAt (place : Nat) : Job σ (Option Frontend) := do
  return (← getThe (World σ)).frontends[place]?

/-- Closes a frontend; gives the exit code, which was `code` so far. -/
def closeChosen (place : Nat) (code : Nat) : Job σ Nat := do
  return if (← orSay "Failed to close frontend" (closeFrontend P place)).isSome then code else 1

/-! ### Listing adapters -/

/-- Looks at the first frontend of an adapter. -/
def lookAt (adapter : UInt32) : Job σ AdapterEntry := do
  match ← attempt (openFrontend P adapter 0) with
  | .error f => return ⟨adapter, .error f⟩
  | .ok place =>
    let frontend? ← frontendAt place
    if let .error f ← attempt (closeFrontend P place) then
      say .warning ("adapter" ++ toString adapter.toNat ++ ": close failed: " ++ f.message)
    return ⟨adapter, match frontend? with
      | some frontend => .ok frontend.info
      | none => .error (.notFound "frontend")⟩

/-- Lists adapters. -/
def runList (r : ListRequest) : Job σ Nat := do
  match around.files.adapters r.base with
  | .error f =>
    say .error ("Failed to enumerate adapters under " ++ r.base ++ ": " ++ f.message)
    return 1
  | .ok adapters =>
    let entries ← adapters.mapM (lookAt P)
    printLines (match r.format with
      | .json => [(Json.array (entries.map (·.json))).render]
      | .text => AdapterEntry.tableLines around.paint entries)
    return 0

/-! ### Watching a frontend -/

/-- Reads and prints the status of a frontend, once or for so many rounds; gives the exit code. -/
def watch (r : StatusRequest) (place : Nat) : (rounds : Nat) → Job σ Nat
  | 0 => return 0
  | rounds + 1 => do
    match ← orSay "FE_READ_STATUS failed" (readStatus P place) with
    | none => return 1
    | some s =>
      printLines [match r.format with
        | .json => (statusJson r.choice.adapter r.choice.frontend s).render
        | .text => statusLine around.paint r.choice.adapter r.choice.frontend s]
      if r.watch then watch r place rounds else return 0

/-- How many rounds of calls a frontend is worth. -/
def roundsOf (place : Nat) : Job σ Nat := do
  let w ← getThe (World σ)
  return ((w.frontends[place]?).map fun f => P.patience f.node w.device).getD 0

/-- Shows the status of a frontend. -/
def runStatus (r : StatusRequest) : Job σ Nat := do
  match ← openChosen P r.choice with
  | none => return 1
  | some place =>
    if r.format = .text ∧ !r.watch then
      printLines (((← frontendAt place).map fun f => infoLines f.info).getD [])
    closeChosen P place (← watch P around r place (← roundsOf P place))

/-! ### Showing sections -/

/-- The settings of the filter for a request. -/
def SectionRequest.settings (r : SectionRequest) : Demux.SectionSettings :=
  { Demux.SectionSettings.ofTable r.pid r.table with checkCrc := r.demuxChecks }

/-- The time a read may take. -/
def SectionRequest.timeout (r : SectionRequest) : Option Calendar.Duration :=
  r.timeout?.map fun ms => .ofParts (ms / 1000) (ms % 1000 * 1000000)

/-- The lines about a section. -/
def SectionRequest.linesOf (r : SectionRequest) (paint : Paint) (s : Section) : List String :=
  match r.format with
  | .json => [s.json.render]
  | .text => SectionStyle.lines ⟨paint, r.descriptors⟩ s

/-- Shows the sections that a filter delivers; gives the exit code. -/
def dumpFilter (r : SectionRequest) (f : Session.Filter) : Job σ Nat := do
  say .info ("Reading table 0x" ++ hexUpper 2 r.table.toNat ++ " on PID 0x" ++
    hexUpper 4 r.pid.toNat ++ " (" ++ f.id.text ++ ")")
  let w ← getThe (World σ)
  let rounds := ((w.nodes? f).map fun n => P.patience n.source w.device).getD 0
  let ending ← dump r (attempt (readRawSection P f r.timeout))
    (fun s => printLines (r.linesOf around.paint s)) say rounds r.count?
  return ending.code

/-- Shows the sections of a manager's demux; gives the exit code. -/
def dumpManager (r : SectionRequest) (manager : Nat) : Job σ Nat := do
  let filter? ← orSay "Failed to open section filter" (newSectionFilter P manager r.settings)
  let code ← match filter? with
    | none => pure 1
    | some f => dumpFilter P around r f
  return if (← orSay "Failed to close demux" (closeManager P manager)).isSome then code else 1

/-- Shows sections. -/
def runSections (r : SectionRequest) : Job σ Nat := do
  match ← openChosen P r.choice with
  | none => return 1
  | some place =>
    let what := "Failed to attach demux" ++ toString r.demux.toNat
    match ← orSay what (newManager place r.demux) with
    | none => return 1
    | some manager => closeChosen P place (← dumpManager P around r manager)

/-! ### Showing scan tables -/

/-- Shows a scan table. -/
def runTable (r : TableRequest) : Job σ Nat := do
  match Scan.Table.load around.files r.path with
  | .error f =>
    say .error ("Failed to load " ++ r.path ++ ": " ++ f.message)
    return 1
  | .ok t =>
    printLines (match r.format with
      | .json => [(Json.array (t.channels.map channelJson)).render]
      | .text => channelsLines t.channels)
    return 0

/-! ### The program -/

/-- Runs a command; gives the exit code. -/
def runCommand : Command → Job σ Nat
  | .list r => runList P around r
  | .status r => runStatus P around r
  | .sections r => runSections P around r
  | .scanTable r => runTable around r

end

/-- How a run of the program ended. -/
structure Ending where
  code : Nat
  output : String
  /-- What is said beside the output and the log. -/
  remark : String := ""

/-- The name of the program and its version. -/
def versionLine : String := "dvbtap 0.1.0"

/-- How the program is used. -/
def helpLines : List String := [
  "Inspects the DVB adapters of a system and decodes the tables they carry.",
  "",
  "dvbtap list [--base DIR] [--format text|json]",
  "dvbtap status [--base DIR] [-a N] [-f N] [-w] [--interval MS] [--format text|json]",
  "dvbtap sections -p PID -t TABLE [--base DIR] [-a N] [-f N] [-d N] [-n COUNT] [--timeout MS]",
  "  [--no-kernel-crc] [--verify-crc] [--descriptors] [--format text|json]",
  "dvbtap scan-table PATH [--format text|json]"]

/-- The exit code of a command line that is refused. -/
def usageCode : Nat := 2

/-- The text of lines. -/
def textOf (lines : List String) : String := String.join (lines.map (· ++ "\n"))

/-- How a run of a command ended. -/
def Ending.ofCommand (code : Nat) (lines : List String) : Ending where
  code
  output := textOf lines
  remark := if code = 0 then "" else "dvbtap: exiting with errors"

/-- How a run without a command ended. -/
def Ending.ofStop : Stop → Ending
  | .asked .version => { code := 0, output := textOf [versionLine] }
  | .asked .help => { code := 0, output := textOf helpLines }
  | .refused e => { code := usageCode, output := "", remark := "error: " ++ e.message }

/-- Runs the program with its arguments. -/
def run (P : Platform σ) (around : Surroundings) (arguments : List String) (w : World σ) :
    Ending × World σ :=
  match Command.ofArguments arguments with
  | .ok command =>
    let ((code, lines), w) := (runCommand P around command).run [] |>.run w
    (.ofCommand code lines, w)
  | .error stop => (.ofStop stop, w)

end Multiplex.Program
