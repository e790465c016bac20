/-!
# Colors on a terminal

A text in color stands between two sequences of control characters. Where the text holds the
closing sequence itself, the color is opened again behind it.
-/

namespace Multiplex.Program

/-- How a text is set off from others. -/
inductive Color
  | bold
  | dimmed
  | red
  | green
  | yellow
  deriving DecidableEq

namespace Color

/-- The number of a color. -/
def number : Color → String
  | bold => "1"
  | dimmed => "2"
  | red => "31"
  | green => "32"
  | yellow => "33"

/-- The sequence that opens a color. -/
def opening (c : Color) : List Char := '\x1b' :: '[' :: c.number.toList ++ ['m']

/-- The sequence that closes all colors. -/
def closing : List Char := ['\x1b', '[', '0', 'm']

/-- A text with the color opened again behind each closing sequence. -/
def reopened (c : Color) : List Char → List Char
  | '\x1b' :: '[' :: '0' :: 'm' :: rest => closing ++ c.opening ++ reopened c rest
  | char :: rest => char :: reopened c rest
  | [] => []

/-- A text in a color. -/
def wrap (c : Color) (text : String) : String :=
  String.ofList (c.opening ++ c.reopened text.toList ++ closing)

end Color

/-- How texts are colored: not at all, or for a terminal. -/
abbrev Paint := Color → String → String

/-- Colors for a terminal, if there are to be colors. -/
def paint (inColor : Bool) : Paint := fun color text => if inColor then color.wrap text else text

end Multiplex.Program
