/-!
# Plain texts

A text without what steers a terminal: control sequences, which start with an escape character, and
control characters other than white space. A control sequence ends with its first final character,
a control string with a bell or an escape character.
-/

namespace Multiplex.Text

/-- What the characters of a text are read as. -/
inductive Steering
  /-- Text. -/
  | off
  /-- What follows an escape character. -/
  | escape
  /-- A control sequence whose final characters have codes from `least` on. -/
  | sequence (least : Nat)
  /-- A control string, which a bell may end. -/
  | string (endsWithBell : Bool)
  deriving DecidableEq

namespace Steering

/-- White space among the control characters. -/
def isControlBlank (n : Nat) : Bool := n == 9 || n == 10 || n == 12 || n == 13

/-- Whether a character, given by its code, stays in the text. -/
def keeps (s : Steering) (n : Nat) : Bool :=
  match s with
  | off => isControlBlank n || (32 ≤ n && n != 127)
  | string _ => false
  | _ => isControlBlank n

/-- What an escape character and the character behind it start. -/
def afterEscape (n : Nat) : Steering :=
  if n = 0x5B then sequence 0x40
  else if n = 0x5D then string true
  else if n = 0x50 ∨ n = 0x58 ∨ n = 0x5E ∨ n = 0x5F then string false
  else if 0x20 ≤ n ∧ n < 0x30 then sequence 0x30
  else if isControlBlank n ∨ (0x30 ≤ n ∧ n < 0x7F) then off
  else escape

/-- What comes behind a character, given by its code. -/
def after (s : Steering) (n : Nat) : Steering :=
  if n = 0x1B then escape
  else if n = 0x18 ∨ n = 0x1A then off
  else match s with
    | off => off
    | escape => afterEscape n
    | sequence least => if isControlBlank n ∨ (least ≤ n ∧ n < 0x7F) then off else sequence least
    | string endsWithBell => if endsWithBell ∧ n = 7 then off else string endsWithBell

end Steering

/-- The characters that stay in a text whose start is read as `s` says. -/
def unsteered (s : Steering) : List Char → List Char
  | [] => []
  | c :: rest =>
    let behind := unsteered (s.after c.toNat) rest
    if s.keeps c.toNat then c :: behind else behind

/-- A text without what steers a terminal. -/
def plain (text : List Char) : List Char := unsteered .off text

end Multiplex.Text
