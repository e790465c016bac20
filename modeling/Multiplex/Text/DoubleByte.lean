import Multiplex.Text.Index.EucKr
import Multiplex.Text.Index.Big5

/-!
# Double-byte character sets

Character sets in which ASCII stands for itself and a byte from 0x81 to 0xFE opens a pair. A pair
without a character is U+FFFD; its second byte is read again if it is ASCII, so that a broken pair
never swallows a line end or a letter.
-/

namespace Multiplex.Text

/-- Whether a byte opens a pair. -/
def opensPair (b : UInt8) : Bool := 0x81 ≤ b && b ≤ 0xFE

/-- The entry of an index in the row of a lead byte, if a character is assigned there. -/
def indexed? (index : Array String) (lead : UInt8) (column : Nat) : Option Char :=
  ((index.getD (lead.toNat - 0x81) "").toList[column]?).filter (· != '\ufffd')

/-- The text of bytes in the set whose pairs are given, no characters for a pair that is not
assigned. -/
def decodePairs (pair : UInt8 → UInt8 → List Char) : List UInt8 → List Char
  | [] => []
  | b :: rest =>
    if b < 0x80 then Char.ofNat b.toNat :: decodePairs pair rest
    else if opensPair b then
      match rest with
      | [] => ['\ufffd']
      | trail :: rest' =>
        match pair b trail with
        | [] =>
          if trail < 0x80 then '\ufffd' :: decodePairs pair (trail :: rest')
          else '\ufffd' :: decodePairs pair rest'
        | chars => chars ++ decodePairs pair rest'
    else '\ufffd' :: decodePairs pair rest

/-- A pair of EUC-KR. -/
def eucKrPair (lead trail : UInt8) : List Char :=
  if 0x41 ≤ trail ∧ trail ≤ 0xFE then
    (indexed? Index.eucKr lead (trail.toNat - 0x41)).toList
  else []

/-- The text of bytes in EUC-KR. -/
def decodeEucKr (bytes : List UInt8) : List Char := decodePairs eucKrPair bytes

/-- A pair of Big5. Four pairs stand for a letter and a combining accent. -/
def big5Pair (lead trail : UInt8) : List Char :=
  if lead = 0x88 ∧ trail = 0x62 then ['\u00ca', '\u0304']
  else if lead = 0x88 ∧ trail = 0x64 then ['\u00ca', '\u030c']
  else if lead = 0x88 ∧ trail = 0xA3 then ['\u00ea', '\u0304']
  else if lead = 0x88 ∧ trail = 0xA5 then ['\u00ea', '\u030c']
  else if 0x40 ≤ trail ∧ trail ≤ 0x7E then (indexed? Index.big5 lead (trail.toNat - 0x40)).toList
  else if 0xA1 ≤ trail ∧ trail ≤ 0xFE then (indexed? Index.big5 lead (trail.toNat - 0x62)).toList
  else []

/-- The text of bytes in Big5. -/
def decodeBig5 (bytes : List UInt8) : List Char := decodePairs big5Pair bytes

end Multiplex.Text
