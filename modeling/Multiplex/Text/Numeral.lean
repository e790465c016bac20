/-!
# Numerals

Decimal and hexadecimal texts of natural numbers, padding, and the reading of unsigned
numbers. Digits here are the ASCII digits only.
-/

namespace Multiplex.Text

/-- The hexadecimal digit of a number below 16, letters in upper case. -/
def upperHexDigit (n : Nat) : Char :=
  if n < 10 then Char.ofNat (48 + n) else Char.ofNat (55 + n)

/-- The hexadecimal digit of a number below 16, letters in lower case. -/
def lowerHexDigit (n : Nat) : Char :=
  if n < 10 then Char.ofNat (48 + n) else Char.ofNat (87 + n)

/-- `text` with `fill` put in front until it has `width` characters. -/
def padLeft (width : Nat) (fill : Char) (text : String) : String :=
  String.ofList (text.toList.leftpad width fill)

/-- `text` followed by blanks until it has `width` characters. -/
def padRight (width : Nat) (text : String) : String :=
  String.ofList (text.toList.rightpad width ' ')

/-- Decimal digits, zeros in front up to `width` of them. -/
def decimal (width n : Nat) : String := padLeft width '0' (toString n)

/-- Upper-case hexadecimal digits, zeros in front up to `width` of them. -/
def hexUpper (width n : Nat) : String :=
  padLeft width '0' (String.ofList ((Nat.toDigits 16 n).map Char.toUpper))

/-- Lower-case hexadecimal digits without leading zeros. -/
def hexLower (n : Nat) : String := String.ofList (Nat.toDigits 16 n)

/-- Two lower-case hexadecimal digits a byte, nothing between them. -/
def hexBytes (bytes : List UInt8) : String :=
  String.ofList <|
    bytes.flatMap fun b => [lowerHexDigit (b.toNat / 16), lowerHexDigit (b.toNat % 16)]

/-- Two upper-case hexadecimal digits of a byte. -/
def hexByte (b : UInt8) : List Char := [upperHexDigit (b.toNat / 16), upperHexDigit (b.toNat % 16)]

/-- Upper-case hexadecimal bytes with a blank between two of them. -/
def hexDump (bytes : List UInt8) : String :=
  String.ofList (List.intercalate [' '] (bytes.map hexByte))

/-- The value of a digit in a base up to 16; letters count in either case. -/
def digitValue? (base : Nat) (c : Char) : Option Nat :=
  let n := c.toNat
  let value :=
    if 48 ≤ n ∧ n ≤ 57 then n - 48
    else if 65 ≤ n ∧ n ≤ 70 then n - 55
    else if 97 ≤ n ∧ n ≤ 102 then n - 87
    else base
  if value < base then some value else none

/-- The number written by one or more digits. -/
def readDigits? (base : Nat) : List Char → Option Nat
  | [] => none
  | digits => digits.foldlM (fun n c => (digitValue? base c).map (n * base + ·)) 0

/-- An unsigned number below `bound`: an optional plus sign, then digits. -/
def readUnsigned? (base bound : Nat) (text : List Char) : Option Nat :=
  let digits := match text with
    | '+' :: rest => rest
    | _ => text
  (readDigits? base digits).filter (· < bound)

end Multiplex.Text
