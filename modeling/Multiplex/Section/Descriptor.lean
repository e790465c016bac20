import Multiplex.Wire.Cursor

/-!
# Descriptors

A descriptor is a tag and a payload of up to 255 bytes, with its length between the two. Tables
carry them in loops that are filled to the last byte.
-/

namespace Multiplex.Section

open Multiplex.Wire

/-- A tag and its payload. -/
structure Descriptor where
  tag : UInt8
  payload : List UInt8
  deriving DecidableEq

namespace Descriptor

/-- The length byte's value. -/
def length (d : Descriptor) : Nat := d.payload.length

/-- One record: tag, length and as many bytes. -/
def read : Reader Descriptor := do
  let tag ← Reader.u8
  let length ← Reader.u8
  return ⟨tag, ← Reader.bytes length.toNat⟩

/-- Records to the end of the window. -/
def readAll : Reader (List Descriptor) := Reader.many (!·.atEnd) read

/-- The next `length` bytes, read as records to their end. -/
def readLoop (length : Nat) : Reader (List Descriptor) := do
  Reader.within (← Reader.sub length) readAll

/-- The descriptors of a byte sequence. -/
def parse (bytes : List UInt8) : Except ReadError (List Descriptor) :=
  match readAll (.ofBytes bytes) with
  | .ok descriptors _ => .ok descriptors
  | .error e _ => .error e

/-- The record as it stands in a loop, for payloads of up to 255 bytes. -/
def bytes (d : Descriptor) : List UInt8 := d.tag :: .ofNat d.payload.length :: d.payload

/-- The first descriptor with a tag. -/
def find? (descriptors : List Descriptor) (tag : UInt8) : Option Descriptor :=
  descriptors.find? (·.tag == tag)

end Descriptor

end Multiplex.Section
