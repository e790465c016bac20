import Multiplex.Section.Meaning

/-!
# Finding things in tables

Questions that programs ask of a table: the PID of a program, the name of a network or a service,
the event on air.
-/

namespace Multiplex.Section

open Multiplex.Calendar

/-- The PID of the network table, which stands in the row of program 0. -/
def ProgramAssociation.networkPid? (t : ProgramAssociation) : Option UInt16 :=
  (t.programs.find? (·.id == 0)).map (·.pid)

/-- The PID of a program's map. -/
def ProgramAssociation.mapPid? (t : ProgramAssociation) (program : UInt16) : Option UInt16 :=
  (t.programs.find? fun p => p.id == program && program != 0).map (·.pid)

/-- The PIDs of all program maps. -/
def ProgramAssociation.mapPids (t : ProgramAssociation) : List UInt16 :=
  (t.programs.filter (·.id != 0)).map (·.pid)

/-- Whether a stream carries pictures: MPEG-1, MPEG-2, H.264 or H.265. -/
def ElementaryStream.isVideo (s : ElementaryStream) : Bool :=
  [0x01, 0x02, 0x1B, 0x24].contains s.streamType

/-- Whether a stream carries sound: MPEG-1, MPEG-2 or AAC in one of its two framings. -/
def ElementaryStream.isAudio (s : ElementaryStream) : Bool :=
  [0x03, 0x04, 0x0F, 0x11].contains s.streamType

/-- The stream on a PID. -/
def ProgramMap.stream? (t : ProgramMap) (pid : UInt16) : Option ElementaryStream :=
  t.streams.find? (·.pid == pid)

/-- The name of the network, by its first network name descriptor. -/
def NetworkInformation.name? (t : NetworkInformation) : Option String :=
  match (Descriptor.find? t.descriptors Kind.networkNameTag).map Descriptor.meaning with
  | some (.networkName name) => some name
  | _ => none

/-- Provider and name of a service, by its first service descriptor. -/
def Service.names? (s : Service) : Option (String × String) :=
  match (Descriptor.find? s.descriptors Kind.serviceTag).map Descriptor.meaning with
  | some (.service _ provider name) => some (provider, name)
  | _ => none

/-- The name of a service. -/
def Service.name? (s : Service) : Option String := s.names?.map (·.2)

/-- The service with an id. -/
def ServiceDescription.service? (t : ServiceDescription) (id : UInt16) : Option Service :=
  t.services.find? (·.id == id)

/-- The name of an event, by its first short event descriptor. -/
def Event.title? (e : Event) : Option String :=
  match (Descriptor.find? e.descriptors Kind.shortEventTag).map Descriptor.meaning with
  | some (.shortEvent _ name _) => some name
  | _ => none

/-- The end of an event whose start is known and whose duration can be added to an instant. -/
def Event.end? (e : Event) : Option DateTime :=
  if e.duration.isAddable then e.start.map (·.add e.duration) else none

/-- The first event on air. -/
def EventInformation.running? (t : EventInformation) : Option Event :=
  t.events.find? (·.status == .running)

/-- All descriptors of a body in the order of the section. -/
def Body.descriptors : Body → List Descriptor
  | .pat _ => []
  | .pmt t => t.descriptors ++ t.streams.flatMap (·.descriptors)
  | .nit t => t.descriptors ++ t.streams.flatMap (·.descriptors)
  | .sdt t => t.services.flatMap (·.descriptors)
  | .eit t => t.events.flatMap (·.descriptors)

end Multiplex.Section
