import Multiplex.Text.Numeral
import Mathlib.Tactic

/-!
# Dumps say all of their bytes

A dump has two digits for each byte, the upper half first, and a blank between two bytes. Read in
the same way it gives back what was dumped.

Main statement:

* `readDump?_hexDump`: no byte is lost in a dump.
-/

namespace Multiplex.Text

/-- The sixteen digits of a dump. -/
def dumpDigits : List Char :=
  ['0', '1', '2', '3', '4', '5', '6', '7', '8', '9', 'A', 'B', 'C', 'D', 'E', 'F']

/-- The text is made of the two digits of each byte and of the blanks between. -/
def IsDump (bytes : List UInt8) (text : String) : Prop :=
  text.toList = List.intercalate [' '] (bytes.map fun b =>
    [dumpDigits.getD (b.toNat / 16) ' ', dumpDigits.getD (b.toNat % 16) ' '])

/-- The byte of two digits. -/
def readByte? (high low : Char) : Option UInt8 := do
  return .ofNat ((← digitValue? 16 high) * 16 + (← digitValue? 16 low))

/-- The bytes of a dump. -/
def readDump? : List Char → Option (List UInt8)
  | [] => some []
  | [high, low] => do return [← readByte? high low]
  | high :: low :: ' ' :: rest => do return (← readByte? high low) :: (← readDump? rest)
  | _ => none

theorem upperHexDigit_eq {n : Nat} (h : n < 16) : upperHexDigit n = dumpDigits.getD n ' ' := by
  interval_cases n <;> rfl

theorem digitValue?_upperHexDigit {n : Nat} (h : n < 16) :
    digitValue? 16 (upperHexDigit n) = some n := by
  interval_cases n <;> rfl

theorem readByte?_hexByte (b : UInt8) :
    readByte? (upperHexDigit (b.toNat / 16)) (upperHexDigit (b.toNat % 16)) = some b := by
  have hb := b.toNat_lt
  have hn : b.toNat / 16 * 16 + b.toNat % 16 = b.toNat := by omega
  rw [readByte?, digitValue?_upperHexDigit (by omega), digitValue?_upperHexDigit (by omega)]
  change some (UInt8.ofNat (b.toNat / 16 * 16 + b.toNat % 16)) = some b
  rw [hn, UInt8.ofNat_toNat]

theorem isDump_hexDump (bytes : List UInt8) : IsDump bytes (hexDump bytes) := by
  unfold IsDump hexDump
  rw [String.toList_ofList]
  congr 1
  refine List.map_congr_left fun b _ => ?_
  have hb := b.toNat_lt
  rw [hexByte, upperHexDigit_eq (by omega), upperHexDigit_eq (by omega)]

theorem readDump?_hexDump (bytes : List UInt8) : readDump? (hexDump bytes).toList = some bytes := by
  rw [hexDump, String.toList_ofList]
  induction bytes with
  | nil => rfl
  | cons b bytes ih =>
      cases bytes with
      | nil =>
          change (readByte? _ _).bind (fun b => some [b]) = _
          rw [readByte?_hexByte]
          rfl
      | cons c bytes =>
          have e : List.intercalate [' '] ((b :: c :: bytes).map hexByte) =
              upperHexDigit (b.toNat / 16) :: upperHexDigit (b.toNat % 16) :: ' ' ::
                List.intercalate [' '] ((c :: bytes).map hexByte) := by
            simp [List.intercalate, hexByte]
          rw [e, readDump?, readByte?_hexByte, ih]
          rfl

end Multiplex.Text
