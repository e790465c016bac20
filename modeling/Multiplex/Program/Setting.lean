/-!
# Reading command lines

A command line is a list of words. A word with dashes in front names settings: a long name after
two dashes, or letters after one. A setting is a switch, or it takes a value, which stands behind an
equals sign, directly behind the letter, or in the next word. All other words are operands, and so
is every word behind a double dash. Words are read from left to right, and the first one that cannot
be accepted, or that asks a question, ends the reading.
-/

namespace Multiplex.Program

/-- Something asked for in place of a command. -/
inductive Question
  | help
  | version
  deriving DecidableEq

/-- Why a command line is refused. -/
inductive UsageError
  | unknownSetting (text : String)
  | repeatedSetting (name : String)
  /-- A setting without the value it needs. -/
  | missingValue (name : String)
  /-- A switch with a value. -/
  | needlessValue (name : String)
  | badValue (name value : String)
  | unexpectedOperand (text : String)
  | missingSetting (name : String)
  | missingCommand
  | unknownCommand (text : String)
  deriving DecidableEq

namespace UsageError

/-- What is wrong with the command line, in words. -/
def message : UsageError → String
  | unknownSetting text => "unexpected argument '" ++ text ++ "'"
  | repeatedSetting name => "'--" ++ name ++ "' cannot be used multiple times"
  | missingValue name => "a value is required for '--" ++ name ++ "'"
  | needlessValue name => "'--" ++ name ++ "' takes no value"
  | badValue name value => "invalid value '" ++ value ++ "' for '--" ++ name ++ "'"
  | unexpectedOperand text => "unexpected argument '" ++ text ++ "'"
  | missingSetting name => "'" ++ name ++ "' was not provided"
  | missingCommand => "a command is required"
  | unknownCommand text => "unrecognized command '" ++ text ++ "'"

end UsageError

/-- What ends the reading of a command line before its end. -/
inductive Stop
  | asked (question : Question)
  | refused (error : UsageError)
  deriving DecidableEq

/-- What a setting does to the arguments of type `α` that are being collected. -/
inductive Effect (α : Type)
  /-- A switch that can be given once. -/
  | turnsOn (set : α → α)
  /-- A switch that can be given any number of times. -/
  | counts
  /-- Asks a question. -/
  | asks (question : Question)
  /-- Takes a value, once; some values are not accepted. -/
  | takes (set : String → α → Option α)

/-- A setting with its long name and its letter. -/
structure Setting (α : Type) where
  name : String
  letter? : Option Char
  effect : Effect α

/-- What a command takes: settings, and what an operand does. -/
structure Grammar (α : Type) where
  settings : List (Setting α)
  operand : String → α → Except UsageError α := fun text _ => .error (.unexpectedOperand text)

/-- A command line that has been read up to some word. -/
structure Reading (α : Type) where
  arguments : α
  /-- The settings given so far that can be given once. -/
  given : List String := []
  /-- The setting whose value is the next word. -/
  awaiting? : Option (Setting α) := none
  /-- Whether there was a double dash. -/
  plain : Bool := false

/-- Stops at a mistake. -/
def refuse (e : UsageError) : Except Stop α := .error (.refused e)

namespace Reading

variable {α : Type}

/-- Notes that a setting is given; refuses a second time. -/
def once (r : Reading α) (s : Setting α) : Except Stop (Reading α) :=
  if r.given.contains s.name then refuse (.repeatedSetting s.name)
  else .ok { r with given := s.name :: r.given }

/-- Gives a setting a value. -/
def give (r : Reading α) (s : Setting α) (value : String) : Except Stop (Reading α) := do
  match s.effect with
  | .takes set =>
    let r ← r.once s
    match set value r.arguments with
    | some arguments => return { r with arguments, awaiting? := none }
    | none => refuse (.badValue s.name value)
  | _ => refuse (.needlessValue s.name)

/-- Gives a setting without a value at its side. -/
def turn (r : Reading α) (s : Setting α) : Except Stop (Reading α) := do
  match s.effect with
  | .takes _ => return { r with awaiting? := some s }
  | .counts => return r
  | .asks question => .error (.asked question)
  | .turnsOn set =>
    let r ← r.once s
    return { r with arguments := set r.arguments }

/-- A long name, with a value if there is an equals sign. -/
def readLong (g : Grammar α) (r : Reading α) (text : List Char) : Except Stop (Reading α) :=
  let name := String.ofList (text.takeWhile (· ≠ '='))
  match g.settings.find? (·.name = name), text.dropWhile (· ≠ '=') with
  | none, _ => refuse (.unknownSetting ("--" ++ name))
  | some s, [] => r.turn s
  | some s, _ :: value => r.give s (String.ofList value)

/-- Letters; what follows the letter of a setting that takes a value is the value. -/
def readLetters (g : Grammar α) (r : Reading α) : List Char → Except Stop (Reading α)
  | [] => .ok r
  | c :: rest =>
    match g.settings.find? (·.letter? = some c) with
    | none => refuse (.unknownSetting (String.ofList ['-', c]))
    | some s =>
      match s.effect, rest with
      | .takes _, '=' :: value => r.give s (String.ofList value)
      | .takes _, _ :: _ => r.give s (String.ofList rest)
      | _, _ => do readLetters g (← r.turn s) rest

/-- An operand. -/
def readOperand (g : Grammar α) (r : Reading α) (text : String) : Except Stop (Reading α) :=
  match g.operand text r.arguments with
  | .ok arguments => .ok { r with arguments }
  | .error e => refuse e

/-- Refuses to go on while a value is missing. -/
def settled (r : Reading α) : Except Stop (Reading α) :=
  match r.awaiting? with
  | none => .ok r
  | some s => refuse (.missingValue s.name)

/-- A word. A dash alone counts as a word without dashes. -/
def readWord (g : Grammar α) (r : Reading α) (word : String) : Except Stop (Reading α) := do
  if r.plain then r.readOperand g word
  else match word.toList with
    | ['-', '-'] => return { ← r.settled with plain := true }
    | '-' :: '-' :: name => (← r.settled).readLong g name
    | '-' :: c :: rest => (← r.settled).readLetters g (c :: rest)
    | _ =>
      match r.awaiting? with
      | some s => r.give s word
      | none => r.readOperand g word

end Reading

/-- The arguments that the words of a command line give, starting from those that hold without any
words. -/
def Grammar.read {α : Type} (g : Grammar α) (start : α) (words : List String) :
    Except Stop α := do
  let r : Reading α ← words.foldlM (Reading.readWord g) { arguments := start }
  return (← r.settled).arguments

end Multiplex.Program
