import Multiplex.Section.TableId
import Multiplex.Section.Descriptor

/-!
# Sections

A section is a header, a body in one of five layouts, and a checksum. The types here hold what a
section says; how it is laid out in bytes is the matter of `Section.Reader` and
`Section.Writer`.
-/

namespace Multiplex.Section

open Multiplex.Calendar

/-- The header that all five tables share. -/
structure Header where
  tableId : TableId
  /-- Of the transport stream (in a PAT or SDT), the program (PMT), the network (NIT) or the
  service (EIT). -/
  id : UInt16
  version : UInt8
  /-- In force now, and not only the next version. -/
  isCurrent : Bool
  number : UInt8
  lastNumber : UInt8
  deriving DecidableEq

/-- Whether a service or an event is on air. -/
inductive RunningStatus
  | undefined
  | notRunning
  | startsInAFewSeconds
  | pausing
  | running
  | serviceOffAir
  | reserved (bits : UInt8)
  deriving DecidableEq

namespace RunningStatus

/-- The status that the low three bits stand for. -/
def ofBits (bits : UInt8) : RunningStatus :=
  match (bits % 8).toNat with
  | 0 => undefined
  | 1 => notRunning
  | 2 => startsInAFewSeconds
  | 3 => pausing
  | 4 => running
  | 5 => serviceOffAir
  | _ => reserved (bits % 8)

/-- The three bits of a status. -/
def bits : RunningStatus → UInt8
  | undefined => 0
  | notRunning => 1
  | startsInAFewSeconds => 2
  | pausing => 3
  | running => 4
  | serviceOffAir => 5
  | reserved b => b % 8

/-- The name of a status. -/
def name : RunningStatus → String
  | undefined => "Undefined"
  | notRunning => "NotRunning"
  | startsInAFewSeconds => "StartsInAFewSeconds"
  | pausing => "Pausing"
  | running => "Running"
  | serviceOffAir => "ServiceOffAir"
  | reserved b => "Reserved(" ++ toString b.toNat ++ ")"

end RunningStatus

/-- A program and the PID of its map. Program 0 stands for the network table. -/
structure Program where
  id : UInt16
  pid : UInt16
  deriving DecidableEq

/-- The programs of a transport stream (PAT). -/
structure ProgramAssociation where
  programs : List Program
  deriving DecidableEq

/-- A stream of pictures, sound or data within a program. -/
structure ElementaryStream where
  streamType : UInt8
  pid : UInt16
  descriptors : List Descriptor
  deriving DecidableEq

/-- The streams of a program (PMT). -/
structure ProgramMap where
  clockPid : UInt16
  descriptors : List Descriptor
  streams : List ElementaryStream
  deriving DecidableEq

/-- A transport stream of a network. -/
structure TransportStream where
  id : UInt16
  originalNetworkId : UInt16
  descriptors : List Descriptor
  deriving DecidableEq

/-- The transport streams of a network (NIT). -/
structure NetworkInformation where
  descriptors : List Descriptor
  streams : List TransportStream
  deriving DecidableEq

/-- A service of a transport stream. -/
structure Service where
  id : UInt16
  hasSchedule : Bool
  hasFollowing : Bool
  status : RunningStatus
  scrambled : Bool
  descriptors : List Descriptor
  deriving DecidableEq

/-- The services of a transport stream (SDT). -/
structure ServiceDescription where
  networkId : UInt16
  services : List Service
  deriving DecidableEq

/-- An event of a service. -/
structure Event where
  id : UInt16
  start : Option DateTime
  duration : Duration
  status : RunningStatus
  scrambled : Bool
  descriptors : List Descriptor
  deriving DecidableEq

/-- The events of a service (EIT). -/
structure EventInformation where
  streamId : UInt16
  networkId : UInt16
  lastSection : UInt8
  lastTable : UInt8
  events : List Event
  deriving DecidableEq

/-- What a section says, by layout. -/
inductive Body
  | pat (table : ProgramAssociation)
  | pmt (table : ProgramMap)
  | nit (table : NetworkInformation)
  | sdt (table : ServiceDescription)
  | eit (table : EventInformation)
  deriving DecidableEq

/-- The layout of a body. -/
def Body.layout : Body → Layout
  | .pat _ => .programAssociation
  | .pmt _ => .programMap
  | .nit _ => .networkInformation
  | .sdt _ => .serviceDescription
  | .eit _ => .eventInformation

end Multiplex.Section

namespace Multiplex

/-- A section of a table. The checksum is kept as it was received. -/
structure Section where
  header : Section.Header
  body : Section.Body
  crc : UInt32
  deriving DecidableEq

end Multiplex
