/-!
# Lines

A text cut at its line ends. A line ends with a line feed, or with a carriage return and a line
feed; a carriage return elsewhere belongs to the line. The last line needs no end.
-/

namespace Multiplex.Text

/-- The lines of a text without their ends. -/
def lines : List Char → List (List Char)
  | [] => []
  | '\r' :: '\n' :: rest => [] :: lines rest
  | c :: rest =>
    if c = '\n' then [] :: lines rest
    else match lines rest with
      | [] => [[c]]
      | line :: after => (c :: line) :: after

end Multiplex.Text
