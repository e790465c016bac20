import Multiplex.Wire.Order

/-!
# UTF-16, most significant byte first

Bytes to characters. A surrogate that is not a half of a pair is U+FFFD, and so is what is left at
the end: a byte, a leading surrogate, or the two together.
-/

namespace Multiplex.Text

open Multiplex.Wire

/-- Whether a 16-bit unit is the first half of a pair. -/
def isLeadingSurrogate (unit : Nat) : Bool := 0xD800 ≤ unit && unit < 0xDC00

/-- Whether a 16-bit unit is the second half of a pair. -/
def isTrailingSurrogate (unit : Nat) : Bool := 0xDC00 ≤ unit && unit < 0xE000

/-- The character of a pair of surrogates. -/
def pairedChar (leading trailing : Nat) : Char :=
  Char.ofNat (0x10000 + (leading - 0xD800) * 0x400 + (trailing - 0xDC00))

/-- The text of the bytes. -/
def decodeUtf16 : List UInt8 → List Char
  | [] => []
  | [_] => ['\ufffd']
  | b1 :: b0 :: rest =>
    let unit := bigEndian [b1, b0]
    if isLeadingSurrogate unit then
      match rest with
      | t1 :: t0 :: rest' =>
        let next := bigEndian [t1, t0]
        if isTrailingSurrogate next then pairedChar unit next :: decodeUtf16 rest'
        else '\ufffd' :: decodeUtf16 (t1 :: t0 :: rest')
      | _ => ['\ufffd']
    else if isTrailingSurrogate unit then '\ufffd' :: decodeUtf16 rest
    else Char.ofNat unit :: decodeUtf16 rest

end Multiplex.Text
