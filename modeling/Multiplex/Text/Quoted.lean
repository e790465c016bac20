import Multiplex.Text.Invisible
import Multiplex.Text.Numeral

/-!
# Quoted texts

A text in quotation marks for people to read. Quotation marks and backslashes get a backslash in
front; characters without a shape of their own are given by name or number.
-/

namespace Multiplex.Text

/-- A character within a quoted text. -/
def quoteChar (c : Char) : List Char :=
  if c = '"' then ['\\', '"']
  else if c = '\\' then ['\\', '\\']
  else if c = '\n' then ['\\', 'n']
  else if c = '\r' then ['\\', 'r']
  else if c = '\t' then ['\\', 't']
  else if c.toNat = 0 then ['\\', '0']
  else if isInvisible c then "\\u\x7b".toList ++ (hexLower c.toNat).toList ++ ['\x7d']
  else [c]

/-- A text in quotation marks. -/
def quoted (text : String) : String :=
  "\"" ++ String.ofList (text.toList.flatMap quoteChar) ++ "\""

end Multiplex.Text
