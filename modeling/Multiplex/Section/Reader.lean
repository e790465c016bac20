import Multiplex.Section.Basic
import Multiplex.Text.Numeral

/-!
# Reading sections

`Section.decode` reads one section from the bytes a section filter delivers. The length field
announces a window; everything after it is ignored, and a section that does not fill its window
with whole rows and a checksum is malformed.
-/

namespace Multiplex.Section

open Multiplex.Wire Multiplex.Text

/-- Why bytes are not a section. -/
inductive DecodeError
  /-- The first byte names no table known here. -/
  | unexpectedTable (tableId : UInt8)
  /-- The section ended early or held an impossible field. -/
  | malformed (tableId : UInt8) (cause : ReadError)
  deriving DecidableEq

/-- What went wrong, in words. -/
def DecodeError.message : DecodeError → String
  | .unexpectedTable tableId => "Unexpected table id: 0x" ++ hexUpper 2 tableId.toNat
  | .malformed tableId cause =>
    "Malformed section (table id 0x" ++ hexUpper 2 tableId.toNat ++ "): " ++ cause.message

/-- Bytes of the checksum. -/
def crcLength : Nat := 4

/-- The three-bit status, the scrambling bit and the length of a loop, which share a word. -/
structure StatusWord where
  status : RunningStatus
  scrambled : Bool
  length : Nat
  deriving DecidableEq

/-- The parts of a status word. -/
def StatusWord.ofWord (w : UInt16) : StatusWord :=
  ⟨.ofBits (.ofNat (w.toNat / 0x2000)), w.toNat / 0x1000 % 2 = 1, w.toNat % 0x1000⟩

/-- Rows up to the checksum. A row that runs into the checksum leaves too little for it. -/
def rows (row : Reader α) : Reader (List α) := Reader.many (crcLength < ·.remaining) row

/-- A word whose low 13 bits are a PID. -/
def readPid : Reader UInt16 := return (← Reader.u16) % 0x2000

/-- A loop of descriptors behind a length of 10 bits. -/
def readShortLoop : Reader (List Descriptor) := do
  Descriptor.readLoop ((← Reader.u16).toNat % 0x400)

/-- A loop of descriptors behind a length of 12 bits. -/
def readLongLoop : Reader (List Descriptor) := do
  Descriptor.readLoop ((← Reader.u16).toNat % 0x1000)

/-- A row of a PAT. -/
def Program.read : Reader Program := do
  let id ← Reader.u16
  return ⟨id, ← readPid⟩

/-- The body of a PAT. -/
def ProgramAssociation.read : Reader ProgramAssociation := return ⟨← rows Program.read⟩

/-- A row of a PMT. -/
def ElementaryStream.read : Reader ElementaryStream := do
  let streamType ← Reader.u8
  let pid ← readPid
  return ⟨streamType, pid, ← readShortLoop⟩

/-- The body of a PMT. -/
def ProgramMap.read : Reader ProgramMap := do
  let clockPid ← readPid
  let descriptors ← readShortLoop
  return ⟨clockPid, descriptors, ← rows ElementaryStream.read⟩

/-- A row of a NIT. -/
def TransportStream.read : Reader TransportStream := do
  let id ← Reader.u16
  let originalNetworkId ← Reader.u16
  return ⟨id, originalNetworkId, ← readLongLoop⟩

/-- The body of a NIT. The length in front of the rows is passed over: they run up to the
checksum. -/
def NetworkInformation.read : Reader NetworkInformation := do
  let descriptors ← readLongLoop
  let _ ← Reader.u16
  return ⟨descriptors, ← rows TransportStream.read⟩

/-- A row of an SDT. -/
def Service.read : Reader Service := do
  let id ← Reader.u16
  let flags ← Reader.u8
  let word := StatusWord.ofWord (← Reader.u16)
  let descriptors ← Descriptor.readLoop word.length
  return {
    id, descriptors
    hasSchedule := flags.toNat / 2 % 2 = 1
    hasFollowing := flags.toNat % 2 = 1
    status := word.status
    scrambled := word.scrambled }

/-- The body of an SDT. -/
def ServiceDescription.read : Reader ServiceDescription := do
  let networkId ← Reader.u16
  let _ ← Reader.u8
  return ⟨networkId, ← rows Service.read⟩

/-- A row of an EIT. -/
def Event.read : Reader Event := do
  let id ← Reader.u16
  let start ← Reader.start
  let duration ← Reader.duration
  let word := StatusWord.ofWord (← Reader.u16)
  let descriptors ← Descriptor.readLoop word.length
  return { id, start, duration, descriptors, status := word.status, scrambled := word.scrambled }

/-- The body of an EIT. -/
def EventInformation.read : Reader EventInformation := do
  let streamId ← Reader.u16
  let networkId ← Reader.u16
  let lastSection ← Reader.u8
  let lastTable ← Reader.u8
  return ⟨streamId, networkId, lastSection, lastTable, ← rows Event.read⟩

/-- The body of a section in a given layout. -/
def Body.read : Layout → Reader Body
  | .programAssociation => return .pat (← ProgramAssociation.read)
  | .programMap => return .pmt (← ProgramMap.read)
  | .networkInformation => return .nit (← NetworkInformation.read)
  | .serviceDescription => return .sdt (← ServiceDescription.read)
  | .eventInformation => return .eit (← EventInformation.read)

/-- The five header bytes after the length. -/
def Header.read (tableId : TableId) : Reader Header := do
  let id ← Reader.u16
  let flags ← Reader.u8
  let number ← Reader.u8
  let lastNumber ← Reader.u8
  return {
    tableId, id, number, lastNumber
    version := flags / 2 % 32
    isCurrent := flags.toNat % 2 = 1 }

/-- What follows the length of a section of a known table. -/
def readContent (tableId : TableId) : Reader Section := do
  let header ← Header.read tableId
  let body ← Body.read tableId.layout
  return ⟨header, body, ← Reader.u32⟩

/-- The first byte and the length; the window ends where the section does. -/
def readFrame : Reader UInt8 := do
  let tableId ← Reader.u8
  let length := (← Reader.u16).toNat % 0x1000
  Reader.truncate (length + 3)
  return tableId

/-- The byte reported as table id when there is none. -/
def stuffingTableId : UInt8 := 0xFF

/-- The section at the start of `raw`. -/
def decode (raw : List UInt8) : Except DecodeError Section :=
  let tableId := raw.headD stuffingTableId
  match readFrame (.ofBytes raw) with
  | .error e _ => .error (.malformed tableId e)
  | .ok _ cursor =>
    match TableId.ofByte? tableId with
    | none => .error (.unexpectedTable tableId)
    | some table =>
      match readContent table cursor with
      | .error e _ => .error (.malformed tableId e)
      | .ok s _ => .ok s

end Multiplex.Section
