import Multiplex.Text.Blank
import Multiplex.Text.Numeral
import Multiplex.Tuner.DeliverySystem
import Multiplex.Tuner.Property

/-!
# Channels

A channel is a named list of keys and values that say how to tune to it. Keys are kept in upper
case and in the order of their first insertion. The readings of a channel never fail: a value that
is missing or makes no sense reads as zero or as nothing.
-/

namespace Multiplex.Scan

open Multiplex.Text Multiplex.Tuner

/-- The polarization of a satellite signal. -/
inductive Polarization
  | horizontal
  | vertical
  | left
  | right
  deriving DecidableEq

namespace Polarization

/-- The name of a polarization. -/
def name : Polarization → String
  | horizontal => "Horizontal"
  | vertical => "Vertical"
  | left => "Left"
  | right => "Right"

/-- The polarization with a name or an initial, in any case and with blanks around it. -/
def ofName? (name : String) : Option Polarization :=
  match String.ofList ((trim name.toList).map upperAscii) with
  | "H" | "HORIZONTAL" => some horizontal
  | "V" | "VERTICAL" => some vertical
  | "L" | "LEFT" => some left
  | "R" | "RIGHT" => some right
  | _ => none

/-- The voltage that selects a polarization: 0 stands for 13 V and 1 for 18 V. -/
def voltage : Polarization → UInt32
  | vertical | right => 0
  | horizontal | left => 1

end Polarization

/-- The form in which a key is kept. -/
def upperKey (key : String) : String := String.ofList (key.toList.map upperAscii)

/-- Sets `key` to `value`: where the key stands, or at the end if it is new. -/
def setEntry (key value : String) : List (String × String) → List (String × String)
  | [] => [(key, value)]
  | (k, v) :: rest => if k = key then (k, value) :: rest else (k, v) :: setEntry key value rest

/-- A named list of keys and values. -/
structure Channel where
  name : String
  entries : List (String × String) := []
  deriving DecidableEq

namespace Channel

/-- Sets the value of a key. -/
def insert (c : Channel) (key value : String) : Channel :=
  { c with entries := setEntry (upperKey key) value c.entries }

/-- The value of a key, whatever the case of its ASCII letters. -/
def get? (c : Channel) (key : String) : Option String :=
  (c.entries.find? fun (k, _) => sameIgnoringCase k.toList key.toList).map (·.2)

/-- A value read as a number of 32 bits. -/
def number? (c : Channel) (key : String) : Option UInt32 :=
  (c.get? key).bind fun value =>
    (readUnsigned? 10 UInt32.size (trim value.toList)).map UInt32.ofNat

/-- A value read as a number, zero if it is none. -/
def number (c : Channel) (key : String) : UInt32 := (c.number? key).getD 0

/-- The delivery system. -/
def deliverySystem (c : Channel) : DeliverySystem :=
  ((c.get? "DELIVERY_SYSTEM").bind DeliverySystem.ofName?).getD .undefined

/-- The frequency: in Hz for terrestrial and cable channels, in kHz for satellite channels. -/
def frequency (c : Channel) : UInt32 := c.number "FREQUENCY"

/-- The bandwidth in Hz. -/
def bandwidth (c : Channel) : UInt32 := c.number "BANDWIDTH_HZ"

/-- Symbols in a second. -/
def symbolRate (c : Channel) : UInt32 := c.number "SYMBOL_RATE"

/-- The polarization. -/
def polarization? (c : Channel) : Option Polarization :=
  (c.get? "POLARIZATION").bind Polarization.ofName?

/-- A property that is set only to a number other than zero. -/
def unlessZero (property value : UInt32) : List (UInt32 × UInt32) :=
  if value = 0 then [] else [(property, value)]

/-- The properties to set for tuning, the command to tune last. Absent values are left out. -/
def properties (c : Channel) : List (UInt32 × UInt32) :=
  unlessZero Property.deliverySystem (.ofNat c.deliverySystem.number) ++
  unlessZero Property.frequency c.frequency ++
  unlessZero Property.bandwidth c.bandwidth ++
  unlessZero Property.symbolRate c.symbolRate ++
  (c.polarization?.map fun p => (Property.voltage, p.voltage)).toList ++
  ((c.number? "STREAM_ID").map fun n => (Property.streamId, n)).toList ++
  [(Property.tune, 0)]

end Channel

end Multiplex.Scan
