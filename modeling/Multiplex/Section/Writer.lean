import Multiplex.Section.Basic

/-!
# Writing sections

`Section.encode` lays a section out in bytes. Lengths are computed, reserved bits are set, and
the checksum is written as it is held. A section with a part that does not fit its length field
is refused; the first such part in the order of writing is named.
-/

namespace Multiplex.Section

open Multiplex.Wire Multiplex.Calendar

/-- The parts of a section that have a length field. -/
inductive Part
  | section
  | descriptorPayload
  | programInfo
  | streamInfo
  | networkDescriptors
  | transportStreamLoop
  | transportDescriptors
  | serviceDescriptors
  | eventDescriptors
  deriving DecidableEq

/-- The name of a part. -/
def Part.name : Part → String
  | .section => "section"
  | .descriptorPayload => "descriptor payload"
  | .programInfo => "program info"
  | .streamInfo => "ES info"
  | .networkDescriptors => "network descriptors"
  | .transportStreamLoop => "transport stream loop"
  | .transportDescriptors => "transport descriptors"
  | .serviceDescriptors => "service descriptors"
  | .eventDescriptors => "event descriptors"

/-- Why a section cannot be written. -/
inductive EncodeError
  /-- A part of `length` bytes where only `limit` fit. -/
  | tooLong (part : Part) (length limit : Nat)
  deriving DecidableEq

/-- What went wrong, in words. -/
def EncodeError.message : EncodeError → String
  | .tooLong part length limit => s!"{part.name} too long: {length} bytes (max {limit})"

/-- Greatest payload of a descriptor. -/
def maxPayload : Nat := 0xFF

/-- Greatest length that ten bits hold. -/
def maxShortLoop : Nat := 0x3FF

/-- Greatest length that twelve bits hold. -/
def maxLongLoop : Nat := 0xFFF

/-- Greatest section length. -/
def maxLength : Nat := 0xFFF

/-- `bytes`, unless they are more than `limit`. -/
def fit (part : Part) (limit : Nat) (bytes : List UInt8) : Except EncodeError (List UInt8) :=
  if limit < bytes.length then .error (.tooLong part bytes.length limit) else .ok bytes

/-- A 16-bit word, the flags in its high bits and a length in the others. -/
def lengthWord (flags length : Nat) : List UInt8 := big16 (.ofNat (flags + length))

/-- A word whose low 13 bits are a PID, the others set. -/
def pidWord (pid : UInt16) : List UInt8 := big16 (0xE000 + pid % 0x2000)

/-- A descriptor's record. -/
def Descriptor.encode (d : Descriptor) : Except EncodeError (List UInt8) := do
  let _ ← fit .descriptorPayload maxPayload d.payload
  return d.bytes

/-- The records of a loop. -/
def encodeDescriptors (descriptors : List Descriptor) : Except EncodeError (List UInt8) :=
  return (← descriptors.mapM Descriptor.encode).flatten

/-- A length word with the given flags and the loop it measures. -/
def encodeLoop (part : Part) (limit flags : Nat) (descriptors : List Descriptor) :
    Except EncodeError (List UInt8) := do
  let loop ← fit part limit (← encodeDescriptors descriptors)
  return lengthWord flags loop.length ++ loop

/-- The bits of a status word above its length. -/
def statusFlags (status : RunningStatus) (scrambled : Bool) : Nat :=
  status.bits.toNat * 0x2000 + scrambled.toNat * 0x1000

/-- A row of a PAT. -/
def Program.bytes (p : Program) : List UInt8 := big16 p.id ++ pidWord p.pid

/-- The body of a PAT. -/
def ProgramAssociation.bytes (t : ProgramAssociation) : List UInt8 :=
  t.programs.flatMap Program.bytes

/-- A row of a PMT. -/
def ElementaryStream.encode (s : ElementaryStream) : Except EncodeError (List UInt8) := do
  let loop ← encodeLoop .streamInfo maxShortLoop 0xF000 s.descriptors
  return s.streamType :: pidWord s.pid ++ loop

/-- The body of a PMT. -/
def ProgramMap.encode (t : ProgramMap) : Except EncodeError (List UInt8) := do
  let info ← encodeLoop .programInfo maxShortLoop 0xF000 t.descriptors
  let rows ← t.streams.mapM ElementaryStream.encode
  return pidWord t.clockPid ++ info ++ rows.flatten

/-- The bytes of a row of a NIT, measured before any row is written. -/
def TransportStream.measure (s : TransportStream) : Except EncodeError Nat :=
  return 6 + (← encodeDescriptors s.descriptors).length

/-- A row of a NIT. -/
def TransportStream.encode (s : TransportStream) : Except EncodeError (List UInt8) := do
  let loop ← encodeLoop .transportDescriptors maxLongLoop 0xF000 s.descriptors
  return big16 s.id ++ big16 s.originalNetworkId ++ loop

/-- The body of a NIT. All rows are measured first, so that a row is never too long when it comes
to be written. -/
def NetworkInformation.encode (t : NetworkInformation) : Except EncodeError (List UInt8) := do
  let descriptors ← encodeLoop .networkDescriptors maxLongLoop 0xF000 t.descriptors
  let length := (← t.streams.mapM TransportStream.measure).foldr (· + ·) 0
  if maxLongLoop < length then throw (.tooLong .transportStreamLoop length maxLongLoop)
  let rows ← t.streams.mapM TransportStream.encode
  return descriptors ++ lengthWord 0xF000 length ++ rows.flatten

/-- A row of an SDT. -/
def Service.encode (s : Service) : Except EncodeError (List UInt8) := do
  let loop ←
    encodeLoop .serviceDescriptors maxLongLoop (statusFlags s.status s.scrambled) s.descriptors
  let flags : Nat := 0xFC + s.hasSchedule.toNat * 2 + s.hasFollowing.toNat
  return big16 s.id ++ .ofNat flags :: loop

/-- The body of an SDT. -/
def ServiceDescription.encode (t : ServiceDescription) : Except EncodeError (List UInt8) := do
  let rows ← t.services.mapM Service.encode
  return big16 t.networkId ++ 0xFF :: rows.flatten

/-- A row of an EIT. -/
def Event.encode (e : Event) : Except EncodeError (List UInt8) := do
  let loop ←
    encodeLoop .eventDescriptors maxLongLoop (statusFlags e.status e.scrambled) e.descriptors
  return big16 e.id ++ (StartField.encode e.start).bytes ++
    (DurationField.encode e.duration).bytes ++ loop

/-- The body of an EIT. -/
def EventInformation.encode (t : EventInformation) : Except EncodeError (List UInt8) := do
  let rows ← t.events.mapM Event.encode
  return big16 t.streamId ++ big16 t.networkId ++ t.lastSection :: t.lastTable :: rows.flatten

/-- The body of a section. -/
def Body.encode : Body → Except EncodeError (List UInt8)
  | .pat t => .ok t.bytes
  | .pmt t => t.encode
  | .nit t => t.encode
  | .sdt t => t.encode
  | .eit t => t.encode

/-- The five header bytes after the length. -/
def Header.bytes (h : Header) : List UInt8 :=
  let flags : Nat := 0xC0 + h.version.toNat % 32 * 2 + h.isCurrent.toNat
  big16 h.id ++ [.ofNat flags, h.number, h.lastNumber]

/-- The section in bytes. -/
def encode (s : Section) : Except EncodeError (List UInt8) := do
  let body ← s.body.encode
  let content ← fit .section maxLength (s.header.bytes ++ body ++ big32 s.crc)
  return s.header.tableId.byte :: lengthWord s.header.tableId.lengthFlags content.length ++ content

end Multiplex.Section
