import Multiplex.Directory.Tree
import Multiplex.Failure
import Multiplex.Scan.Channel
import Multiplex.Text.Lines
import Multiplex.Text.Utf8

/-!
# Scan tables

A scan table is a text of channels. A line in brackets starts a channel, a line `key = value`
belongs to the channel above it, and empty lines and lines that start with a semicolon or a number
sign are passed over. Reading stops at the first line of any other form.
-/

namespace Multiplex.Scan

open Multiplex.Text

/-- What a line of a scan table says. -/
inductive Line
  /-- Nothing. -/
  | blank
  /-- The start of a channel. -/
  | header (name : String)
  /-- A key and its value. -/
  | entry (key value : String)
  deriving DecidableEq

/-- A character of a key. -/
def isKeyChar (c : Char) : Bool := c.isAlphanum || c == '_'

/-- A blank between a key and its value. -/
def isSpace (c : Char) : Bool := c == ' ' || c == '\t'

/-- A channel's name in brackets, with nothing after them. -/
def readHeader? : List Char → Option Line
  | '[' :: rest =>
    if rest.dropWhile (· != ']') = [']'] then
      some (.header (String.ofList (trim (rest.takeWhile (· != ']')))))
    else none
  | _ => none

/-- A key, an equals sign and a value. Spaces and tabulators around the sign do not count, nor do
blanks at the end. -/
def readEntry? (line : List Char) : Option Line :=
  let key := line.takeWhile isKeyChar
  match (line.dropWhile isKeyChar).dropWhile isSpace with
  | '=' :: value =>
    if key.isEmpty then none
    else some (.entry (String.ofList key) (String.ofList (trimEnd (value.dropWhile isSpace))))
  | _ => none

/-- A line without the blanks at its ends. -/
def readTrimmed? : List Char → Option Line
  | [] => some .blank
  | c :: rest =>
    if c = ';' ∨ c = '#' then some .blank
    else readHeader? (c :: rest) <|> readEntry? (c :: rest)

/-- What a line says, if it has one of the known forms. -/
def Line.read? (raw : List Char) : Option Line := readTrimmed? (trim raw)

/-- A scan table. -/
structure Table where
  channels : List Channel
  deriving DecidableEq

namespace Table

/-- The table without channels. -/
def empty : Table := ⟨[]⟩

/-- The table with one more line; none if an entry has no channel to belong to. -/
def add? (t : Table) : Line → Option Table
  | .blank => some t
  | .header name => some ⟨t.channels ++ [⟨name, []⟩]⟩
  | .entry key value =>
    match t.channels.getLast? with
    | none => none
    | some last => some ⟨t.channels.dropLast ++ [last.insert key value]⟩

/-- Reads the lines from a given number on into a table. -/
def readFrom (t : Table) (number : Nat) : List (List Char) → Except Failure Table
  | [] => .ok t
  | raw :: rest =>
    match (Line.read? raw).bind t.add? with
    | none => .error (.malformedLine number (String.ofList raw))
    | some t => t.readFrom (number + 1) rest

/-- The table that a text describes. -/
def parse (text : String) : Except Failure Table := empty.readFrom 1 (lines text.toList)

/-- The table in a file of a tree. -/
def load (files : Directory.Tree) (path : String) : Except Failure Table :=
  if path.isEmpty then .error (.badParameter "empty scan table path")
  else match files.read path with
    | .error e => .error (.system e)
    | .ok bytes =>
      match decodeUtf8? bytes with
      | none => .error (.system .invalidText)
      | some text => parse (String.ofList text)

/-- The first channel with a name. -/
def channel? (t : Table) (name : String) : Option Channel := t.channels.find? (·.name == name)

end Table

end Multiplex.Scan
