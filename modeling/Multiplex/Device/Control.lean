import Multiplex.Device.Command
import Multiplex.Text.Utf8
import Multiplex.Wire.Order

/-!
# Control calls

How commands are passed to the system: each is a control call with a request number and an argument
in memory, and the answer is what the system has written there. Numbers in memory have their least
significant byte first.
-/

namespace Multiplex.Device

open Multiplex.Wire Multiplex.Text Multiplex.Tuner

/-- Whether the argument of a control call is written, read or both, seen from the caller. -/
inductive Direction
  | neither
  | write
  | read
  | both
  deriving DecidableEq

/-- The bits of a direction. -/
def Direction.bits : Direction → Nat
  | neither => 0
  | write => 1
  | read => 2
  | both => 3

/-- A control call: its number among those of the device, and the argument's direction and size. -/
structure Request where
  number : Nat
  direction : Direction
  size : Nat
  deriving DecidableEq

/-- The letter that all control calls of these devices share. -/
def requestLetter : Char := 'o'

/-- The request number: direction, size, letter and number, from the highest bits down. -/
def Request.code (r : Request) : Nat :=
  r.direction.bits * 0x40000000 + r.size * 0x10000 + requestLetter.toNat * 0x100 + r.number

/-- The size of a list of properties, which is a count and an address. -/
def propertiesSize : Nat := 16

/-- The size of a frontend's description. -/
def infoSize : Nat := 168

/-- The control call of a command. -/
def Command.request : Command → Request
  | start => ⟨41, .neither, 0⟩
  | stop => ⟨42, .neither, 0⟩
  | setSectionFilter _ => ⟨43, .write, 60⟩
  | setStreamFilter _ => ⟨44, .write, 20⟩
  | setBufferSize _ => ⟨45, .neither, 0⟩
  | pesPids => ⟨47, .read, 10⟩
  | clock _ => ⟨50, .both, 16⟩
  | addPid _ => ⟨51, .write, 2⟩
  | removePid _ => ⟨52, .write, 2⟩
  | info => ⟨61, .read, infoSize⟩
  | status => ⟨69, .read, 4⟩
  | setProperty .. => ⟨82, .write, propertiesSize⟩
  | getProperty _ => ⟨83, .read, propertiesSize⟩

/-- The argument of a control call. -/
inductive Argument
  /-- An address that the caller has written nothing to, or none. -/
  | nothing
  | integer (n : Nat)
  /-- The bytes at the address. -/
  | bytes (bytes : List UInt8)
  /-- A list of one property, with the bytes of the property. -/
  | property (bytes : List UInt8)
  deriving DecidableEq

/-- The bytes of a 16-bit word. -/
def little16 (w : UInt16) : List UInt8 := little 2 w.toNat

/-- The bytes of a 32-bit word. -/
def little32 (w : UInt32) : List UInt8 := little 4 w.toNat

/-- So many zero bytes. -/
def zeros (n : Nat) : List UInt8 := List.replicate n 0

/-- The argument of a command. -/
def Command.argument : Command → Argument
  | setSectionFilter p => .bytes <|
    little16 p.pid ++ p.filter.toList ++ p.mask.toList ++ p.mode.toList ++ zeros 2 ++
      little32 p.timeout ++ little32 p.flags
  | setStreamFilter p => .bytes <|
    little16 p.pid ++ zeros 2 ++ little32 p.input ++ little32 p.output ++ little32 p.pesType ++
      little32 p.flags
  | setBufferSize size => .integer size.toNat
  | clock number => .bytes (little32 number ++ zeros 12)
  | addPid pid => .bytes (little16 pid)
  | removePid pid => .bytes (little16 pid)
  | setProperty property value => .property (little32 property ++ zeros 12 ++ little32 value)
  | getProperty property => .property (little32 property ++ zeros 12)
  | start | stop | pesPids | info | status => .nothing

/-- The greatest size of a buffer that can be passed. -/
def maxBufferSize : Nat := 0x7FFFFFFF

/-- Whether a command can be passed at all. -/
def Command.isPassable : Command → Bool
  | setBufferSize size => size.toNat ≤ maxBufferSize
  | _ => true

/-- The number of `width` bytes at an offset, zero beyond the end. -/
def littleAt (width offset : Nat) (bytes : List UInt8) : Nat :=
  littleEndian ((bytes.drop offset).take width)

/-- The length of the name in a frontend's description, its final zero included. -/
def nameLength : Nat := 128

/-- The name at the start of a frontend's description: up to the first zero, which stands in the
last place at the latest. -/
def readName (bytes : List UInt8) : String :=
  String.ofList (decodeUtf8 ((bytes.take (nameLength - 1)).takeWhile (· != 0)))

/-- A frontend's description. -/
def readRanges (bytes : List UInt8) : Ranges :=
  let word (offset : Nat) : UInt32 := .ofNat (littleAt 4 offset bytes)
  { name := readName bytes
    frequencyMin := word 132
    frequencyMax := word 136
    frequencyStep := word 140
    frequencyTolerance := word 144
    symbolRateMin := word 148
    symbolRateMax := word 152
    symbolRateTolerance := word 156
    capabilities := ⟨word 164⟩ }

/-- The most bytes that a property can list. -/
def bufferLength : Nat := 32

/-- What a command answers when the system has written `bytes`. -/
def Command.readAnswer (bytes : List UInt8) : (c : Command) → c.Answer
  | info => readRanges bytes
  | status => ⟨.ofNat (littleAt 4 0 bytes)⟩
  | getProperty _ =>
    ⟨.ofNat (littleAt 4 0 bytes),
      (bytes ++ zeros bufferLength).take (min (littleAt 4 bufferLength bytes) bufferLength)⟩
  | pesPids => (List.range 5).map fun i => .ofNat (littleAt 2 (2 * i) bytes)
  | clock _ => ⟨.ofNat (littleAt 4 4 bytes), .ofNat (littleAt 8 8 bytes)⟩
  | setProperty .. | setSectionFilter _ | setStreamFilter _ | start | stop | addPid _ | removePid _
  | setBufferSize _ => ()

end Multiplex.Device
