import Multiplex.Proofs.Calendar.Field
import Multiplex.Proofs.Wire.Form
import Multiplex.Section.Basic

/-!
# The grammar of sections

What the bytes of a section are, said without a reader: each part has a `Form`, the relation of
what it says to its bytes. Words stand for the fields that share them, and bits that no field
takes are free. A section is `Spelled` by its first byte, a length word, and as many bytes as the
word's low twelve bits announce: the header, the fixed fields and rows of its layout, and the
checksum. The parts stand one behind the other, so that none shares a byte with another.
-/

namespace Multiplex.Section

open Multiplex.Wire Multiplex.Calendar

/-- A record: tag, length, and as many bytes. -/
inductive Descriptor.Form : Wire.Form Descriptor
  | mk {tag length : UInt8} {payload : List UInt8} (fits : payload.length = length.toNat) :
      Descriptor.Form ⟨tag, payload⟩ (tag :: length :: payload)

/-- Whole records that fill `length` bytes. -/
def Filled (length : Nat) : Wire.Form (List Descriptor) := fun descriptors bytes =>
  bytes.length = length ∧ Sequence Descriptor.Form descriptors bytes

/-- A loop of records behind a word whose low bits, those below `modulus`, are its length. -/
inductive LoopForm (modulus : Nat) : Wire.Form (List Descriptor)
  | mk {word : UInt16} {descriptors : List Descriptor} {records : List UInt8}
      (filled : Filled (word.toNat % modulus) descriptors records) :
      LoopForm modulus descriptors (big16 word ++ records)

/-- A row of a PAT. The low 13 bits of the second word are the PID. -/
inductive Program.Form : Wire.Form Program
  | mk (id pid : UInt16) : Program.Form ⟨id, pid % 0x2000⟩ (big16 id ++ big16 pid)

/-- The body of a PAT. -/
inductive ProgramAssociation.Form : Wire.Form ProgramAssociation
  | mk {programs : List Program} {rows : List UInt8} (h : Sequence Program.Form programs rows) :
      ProgramAssociation.Form ⟨programs⟩ rows

/-- A row of a PMT. -/
inductive ElementaryStream.Form : Wire.Form ElementaryStream
  | mk (streamType : UInt8) (pid : UInt16) {descriptors : List Descriptor} {loop : List UInt8}
      (h : LoopForm 0x400 descriptors loop) :
      ElementaryStream.Form ⟨streamType, pid % 0x2000, descriptors⟩
        (streamType :: big16 pid ++ loop)

/-- The body of a PMT. -/
inductive ProgramMap.Form : Wire.Form ProgramMap
  | mk (pid : UInt16) {descriptors : List Descriptor} {streams : List ElementaryStream}
      {loop rows : List UInt8} (info : LoopForm 0x400 descriptors loop)
      (h : Sequence ElementaryStream.Form streams rows) :
      ProgramMap.Form ⟨pid % 0x2000, descriptors, streams⟩ (big16 pid ++ loop ++ rows)

/-- A row of a NIT. -/
inductive TransportStream.Form : Wire.Form TransportStream
  | mk (id network : UInt16) {descriptors : List Descriptor} {loop : List UInt8}
      (h : LoopForm 0x1000 descriptors loop) :
      TransportStream.Form ⟨id, network, descriptors⟩ (big16 id ++ big16 network ++ loop)

/-- The body of a NIT. The two bytes between the descriptors and the rows can be any. -/
inductive NetworkInformation.Form : Wire.Form NetworkInformation
  | mk (ignored : UInt16) {descriptors : List Descriptor} {streams : List TransportStream}
      {loop rows : List UInt8} (own : LoopForm 0x1000 descriptors loop)
      (h : Sequence TransportStream.Form streams rows) :
      NetworkInformation.Form ⟨descriptors, streams⟩ (loop ++ big16 ignored ++ rows)

/-- A row of an SDT. -/
inductive Service.Form : Wire.Form Service
  | mk (id : UInt16) (flags : UInt8) (word : UInt16) {descriptors : List Descriptor}
      {records : List UInt8} (filled : Filled (word.toNat % 0x1000) descriptors records) :
      Service.Form
        { id, descriptors
          hasSchedule := flags.toNat / 2 % 2 = 1
          hasFollowing := flags.toNat % 2 = 1
          status := .ofBits (.ofNat (word.toNat / 0x2000))
          scrambled := word.toNat / 0x1000 % 2 = 1 }
        (big16 id ++ flags :: big16 word ++ records)

/-- The body of an SDT. The byte in front of the rows can be any. -/
inductive ServiceDescription.Form : Wire.Form ServiceDescription
  | mk (network : UInt16) (ignored : UInt8) {services : List Service} {rows : List UInt8}
      (h : Sequence Service.Form services rows) :
      ServiceDescription.Form ⟨network, services⟩ (big16 network ++ ignored :: rows)

/-- A row of an EIT. -/
inductive Event.Form : Wire.Form Event
  | mk (id : UInt16) {field : StartField} {start : Option DateTime} (duration : DurationField)
      (word : UInt16) {descriptors : List Descriptor} {records : List UInt8}
      (names : field.Names start) (filled : Filled (word.toNat % 0x1000) descriptors records) :
      Event.Form
        { id, start, descriptors
          duration := duration.decode
          status := .ofBits (.ofNat (word.toNat / 0x2000))
          scrambled := word.toNat / 0x1000 % 2 = 1 }
        (big16 id ++ field.bytes ++ duration.bytes ++ big16 word ++ records)

/-- The body of an EIT. -/
inductive EventInformation.Form : Wire.Form EventInformation
  | mk (stream network : UInt16) (lastSection lastTable : UInt8) {events : List Event}
      {rows : List UInt8} (h : Sequence Event.Form events rows) :
      EventInformation.Form ⟨stream, network, lastSection, lastTable, events⟩
        (big16 stream ++ big16 network ++ lastSection :: lastTable :: rows)

/-- The body of a section in a given layout. -/
inductive Body.Form : Layout → Wire.Form Body
  | pat {table bytes} : ProgramAssociation.Form table bytes →
      Body.Form .programAssociation (.pat table) bytes
  | pmt {table bytes} : ProgramMap.Form table bytes → Body.Form .programMap (.pmt table) bytes
  | nit {table bytes} : NetworkInformation.Form table bytes →
      Body.Form .networkInformation (.nit table) bytes
  | sdt {table bytes} : ServiceDescription.Form table bytes →
      Body.Form .serviceDescription (.sdt table) bytes
  | eit {table bytes} : EventInformation.Form table bytes →
      Body.Form .eventInformation (.eit table) bytes

/-- The five header bytes behind the length. -/
inductive Header.Form (tableId : TableId) : Wire.Form Header
  | mk (id : UInt16) (flags number lastNumber : UInt8) :
      Header.Form tableId
        { tableId, id, number, lastNumber
          version := flags / 2 % 32
          isCurrent := flags.toNat % 2 = 1 }
        (big16 id ++ [flags, number, lastNumber])

/-- A whole section: the first byte, the length word, and what it measures. -/
inductive Spelled : Wire.Form Section
  | mk {byte : UInt8} {tableId : TableId} {word : UInt16} {header : Header} {body : Body}
      {crc : UInt32} {front rows : List UInt8} (known : TableId.ofByte? byte = some tableId)
      (hh : header.Form tableId front) (hb : body.Form tableId.layout rows)
      (measured : (front ++ rows ++ big32 crc).length = word.toNat % 0x1000) :
      Spelled ⟨header, body, crc⟩ (byte :: big16 word ++ (front ++ rows ++ big32 crc))

end Multiplex.Section
