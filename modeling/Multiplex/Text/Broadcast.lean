import Multiplex.Text.SingleByte
import Multiplex.Text.Gb18030
import Multiplex.Text.Utf8
import Multiplex.Text.Utf16

/-!
# Broadcast texts

The text fields of EN 300 468, annex A. A first byte below 0x20 selects a character set; without
it the text is in the default set, read as ISO 8859-1. Of the control codes U+0080 to U+009F only
the line break U+008A is kept.
-/

namespace Multiplex.Text

/-- The text of bytes in a part of ISO 8859; parts that do not exist are read as part 1. -/
def decodeIso8859 (part : Nat) (bytes : List UInt8) : List Char :=
  match SingleByte.iso8859? part with
  | some set => set.decode bytes
  | none => latin1 bytes

/-- The characters of a text field with its control codes. -/
def decodeField : List UInt8 → List Char
  | [] => []
  | selector :: rest =>
    if 0x20 ≤ selector then latin1 (selector :: rest)
    else if 0x01 ≤ selector ∧ selector ≤ 0x0B then decodeIso8859 (selector.toNat + 4) rest
    else if selector = 0x10 then
      match rest with
      | high :: low :: rest' => decodeIso8859 (Wire.bigEndian [high, low]) rest'
      | _ => latin1 rest
    else if selector = 0x11 then decodeUtf16 rest
    else if selector = 0x12 then decodeEucKr rest
    else if selector = 0x13 then decodeGb18030 rest
    else if selector = 0x14 then decodeBig5 rest
    else if selector = 0x15 then decodeUtf8 rest
    else latin1 rest

/-- What a character of a text field contributes to the text: a line break for U+008A, nothing for
the other control codes beyond ASCII. -/
def withoutControl (c : Char) : List Char :=
  if c.toNat = 0x8A then ['\n']
  else if 0x80 ≤ c.toNat ∧ c.toNat ≤ 0x9F then []
  else [c]

/-- The text of a text field. -/
def broadcastText (bytes : List UInt8) : String :=
  String.ofList ((decodeField bytes).flatMap withoutControl)

end Multiplex.Text
