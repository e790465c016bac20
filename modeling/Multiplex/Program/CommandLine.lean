import Multiplex.Directory.Adapter
import Multiplex.Program.Setting

/-!
# The commands of the program

`list`, `status`, `sections` and `scan-table`, with their settings, and the reading of a command
line as one of them. Before the name of a command stand only settings of the program as a whole.
-/

namespace Multiplex.Program

open Multiplex.Text Multiplex.Directory

/-- The form of the output. -/
inductive Format
  /-- For people. -/
  | text
  /-- One JSON value a line. -/
  | json
  deriving DecidableEq

/-- The format with a name. -/
def Format.ofName? : String → Option Format
  | "text" => some text
  | "json" => some json
  | _ => none

/-- A frontend by its place. -/
structure FrontendChoice where
  base : String := defaultBase
  adapter : UInt32 := 0
  frontend : UInt32 := 0
  deriving DecidableEq

/-- What `list` shows. -/
structure ListRequest where
  base : String := defaultBase
  format : Format := .text
  deriving DecidableEq

/-- What `status` shows. -/
structure StatusRequest where
  choice : FrontendChoice := {}
  /-- Again and again. -/
  watch : Bool := false
  /-- The pause between two readings, in milliseconds. -/
  interval : Nat := 1000
  format : Format := .text
  deriving DecidableEq

/-- What `sections` shows. -/
structure SectionRequest where
  choice : FrontendChoice := {}
  demux : UInt32 := 0
  pid : UInt16
  table : UInt8
  /-- Stop after so many sections. -/
  count? : Option Nat := none
  /-- Give up after so many milliseconds without a section. -/
  timeout? : Option Nat := none
  /-- Have sections with a wrong checksum dropped by the demux. -/
  demuxChecks : Bool := true
  /-- Leave out sections with a wrong checksum. -/
  verify : Bool := false
  /-- Show what descriptors mean. -/
  descriptors : Bool := false
  format : Format := .text
  deriving DecidableEq

/-- What `scan-table` shows. -/
structure TableRequest where
  path : String
  format : Format := .text
  deriving DecidableEq

/-- A command. -/
inductive Command
  | list (request : ListRequest)
  | status (request : StatusRequest)
  | sections (request : SectionRequest)
  | scanTable (request : TableRequest)
  deriving DecidableEq

/-! ### Values -/

/-- A path, which is not empty. -/
def readPath? (text : String) : Option String := if text.isEmpty then none else some text

/-- A number of 32 bits. Zero may have a minus sign. -/
def readIndex? (text : String) : Option UInt32 :=
  let number? := match text.toList with
    | '-' :: digits => (readDigits? 10 digits).filter (· = 0)
    | digits => readUnsigned? 10 UInt32.size digits
  number?.map UInt32.ofNat

/-- A number of 64 bits. -/
def readCount? (text : String) : Option Nat := readUnsigned? 10 UInt64.size text.toList

/-- A number below a bound, hexadecimal behind `0x`. -/
def readCode? (bound : Nat) (text : String) : Option Nat :=
  match text.toList with
  | '0' :: 'x' :: digits | '0' :: 'X' :: digits => readUnsigned? 16 bound digits
  | digits => readUnsigned? 10 bound digits

/-! ### Settings -/

section

variable {α : Type}

/-- A setting that takes a value. -/
def valueSetting (name : String) (letter? : Option Char) (read : String → Option β)
    (set : β → α → α) : Setting α :=
  ⟨name, letter?, .takes fun text a => (read text).map fun b => set b a⟩

/-- Settings that every command has. -/
def sharedSettings : List (Setting α) :=
  [⟨"verbose", some 'v', .counts⟩, ⟨"help", some 'h', .asks .help⟩]

/-- The directory of the adapters. -/
def baseSetting (set : String → α → α) : Setting α := valueSetting "base" none readPath? set

/-- The form of the output. -/
def formatSetting (set : Format → α → α) : Setting α :=
  valueSetting "format" none Format.ofName? set

/-- Settings that choose a frontend. -/
def choiceSettings (change : (FrontendChoice → FrontendChoice) → α → α) :
    List (Setting α) := [
  baseSetting fun base => change ({ · with base }),
  valueSetting "adapter" (some 'a') readIndex? fun adapter => change ({ · with adapter }),
  valueSetting "frontend" (some 'f') readIndex? fun frontend => change ({ · with frontend })]

end

/-- The settings of the program as a whole. -/
def programGrammar : Grammar Unit := ⟨⟨"version", some 'V', .asks .version⟩ :: sharedSettings,
  fun text _ => .error (.unknownCommand text)⟩

/-- The settings of `list`. -/
def listGrammar : Grammar ListRequest where
  settings := sharedSettings ++ [
    baseSetting fun base a => { a with base },
    formatSetting fun format a => { a with format }]

/-- The settings of `status`. -/
def statusGrammar : Grammar StatusRequest where
  settings := sharedSettings ++ choiceSettings (fun f a => { a with choice := f a.choice }) ++ [
    ⟨"watch", some 'w', .turnsOn ({ · with watch := true })⟩,
    valueSetting "interval" none readCount? fun interval a => { a with interval },
    formatSetting fun format a => { a with format }]

/-- The arguments of `sections`; PID and table have to be given. -/
structure SectionArguments where
  pid? : Option UInt16 := none
  table? : Option UInt8 := none
  /-- All else, with a PID and a table that do not count. -/
  rest : SectionRequest := { pid := 0, table := 0 }

/-- The settings of `sections`. -/
def sectionGrammar : Grammar SectionArguments where
  settings := sharedSettings ++
    choiceSettings (fun f a => { a with rest.choice := f a.rest.choice }) ++ [
    valueSetting "demux" (some 'd') readIndex? fun n a => { a with rest.demux := n },
    valueSetting "pid" (some 'p') (readCode? UInt16.size)
      fun n a => { a with pid? := some (.ofNat n) },
    valueSetting "table" (some 't') (readCode? UInt8.size)
      fun n a => { a with table? := some (.ofNat n) },
    valueSetting "count" (some 'n') readCount? fun n a => { a with rest.count? := some n },
    valueSetting "timeout" none readCount? fun n a => { a with rest.timeout? := some n },
    ⟨"no-kernel-crc", none, .turnsOn fun a => { a with rest.demuxChecks := false }⟩,
    ⟨"verify-crc", none, .turnsOn fun a => { a with rest.verify := true }⟩,
    ⟨"descriptors", none, .turnsOn fun a => { a with rest.descriptors := true }⟩,
    formatSetting fun format a => { a with rest.format := format }]

/-- What the arguments of `sections` ask for. -/
def SectionArguments.request (a : SectionArguments) : Except Stop SectionRequest :=
  match a.pid?, a.table? with
  | some pid, some table => .ok { a.rest with pid, table }
  | none, _ => refuse (.missingSetting "--pid")
  | _, none => refuse (.missingSetting "--table")

/-- The arguments of `scan-table`; the path has to be given. -/
structure TableArguments where
  path? : Option String := none
  format : Format := .text

/-- The settings of `scan-table`, and its path. -/
def tableGrammar : Grammar TableArguments where
  settings := sharedSettings ++ [formatSetting fun format a => { a with format }]
  operand text a :=
    match a.path?, readPath? text with
    | some _, _ => .error (.unexpectedOperand text)
    | none, none => .error (.badValue "path" text)
    | none, some path => .ok { a with path? := some path }

/-- What the arguments of `scan-table` ask for. -/
def TableArguments.request (a : TableArguments) : Except Stop TableRequest :=
  match a.path? with
  | some path => .ok { path, format := a.format }
  | none => refuse (.missingSetting "path")

/-! ### Command lines -/

/-- The command with a name, read from the words behind the name. -/
def Command.read (name : String) (words : List String) : Except Stop Command :=
  match name with
  | "list" => return .list (← listGrammar.read {} words)
  | "status" => return .status (← statusGrammar.read {} words)
  | "sections" => return .sections (← (← sectionGrammar.read {} words).request)
  | "scan-table" => return .scanTable (← (← tableGrammar.read {} words).request)
  | _ => refuse (.unknownCommand name)

/-- The names of the commands. -/
def Command.names : List String := ["list", "status", "sections", "scan-table"]

/-- The question that `help` asks; behind it may stand the name of a command. -/
def readHelp : List String → Except Stop Command
  | [] => .error (.asked .help)
  | [name] => if name ∈ "help" :: Command.names then .error (.asked .help)
    else refuse (.unknownCommand name)
  | _ :: name :: _ => refuse (.unknownCommand name)

/-- Whether a word names settings. -/
def namesSettings (word : String) : Bool :=
  match word.toList with
  | '-' :: _ :: _ => true
  | _ => false

/-- Reads a command line. -/
def Command.ofArguments : List String → Except Stop Command
  | [] => refuse .missingCommand
  | word :: words =>
    if word = "--" then refuse .missingCommand
    else if namesSettings word then do
      let _ ← programGrammar.read () [word]
      ofArguments words
    else if word = "help" then readHelp words
    else read word words

end Multiplex.Program
