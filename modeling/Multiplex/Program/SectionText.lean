import Multiplex.Program.Color
import Multiplex.Section.Lookup

/-!
# Sections for people to read

A section as lines of text: one for its header, and one or more for each row of its table. What
descriptors mean is shown on request, below the row they belong to.
-/

namespace Multiplex.Program

open Multiplex.Section Multiplex.Text

/-- A number of 16 bits as `0x` and four digits. -/
def word16 (n : UInt16) : String := "0x" ++ hexUpper 4 n.toNat

/-- A name, or a dash if there is none. -/
def orDash (name? : Option String) : String := name?.getD "-"

/-- How sections are shown. -/
structure SectionStyle where
  paint : Paint
  /-- Whether what descriptors mean is shown. -/
  descriptors : Bool

namespace SectionStyle

variable (style : SectionStyle)

/-- The line about a section as a whole. -/
def headerLine (h : Header) : String :=
  style.paint .bold h.tableId.name ++ " id=" ++ word16 h.id ++
    " version=" ++ toString h.version.toNat ++
    " section=" ++ toString h.number.toNat ++ "/" ++ toString h.lastNumber.toNat ++
    (if h.isCurrent then "" else " (next)")

/-- The lines about descriptors, indented. -/
def descriptorLines (indent : String) (ds : List Descriptor) : List String :=
  if style.descriptors then ds.map fun d => indent ++ style.paint .dimmed d.text else []

/-- The line about a program. -/
def programLine (p : Section.Program) : String :=
  if p.id = 0 then "  network          PID " ++ word16 p.pid
  else "  program " ++ word16 p.id ++ "   PID " ++ word16 p.pid

/-- What a stream carries. -/
def contentName (s : ElementaryStream) : String :=
  if s.isVideo then "video" else if s.isAudio then "audio" else "other"

/-- The lines about a stream of a program. -/
def streamLines (s : ElementaryStream) : List String :=
  ("  " ++ padRight 6 (contentName s) ++ " type 0x" ++ hexUpper 2 s.streamType.toNat ++
    "  PID " ++ word16 s.pid) :: style.descriptorLines "    " s.descriptors

/-- The line about a transport stream. -/
def transportLine (stream network : UInt16) : String :=
  "  TSID " ++ word16 stream ++ "  ONID " ++ word16 network

/-- The lines about a transport stream of a network. -/
def transportLines (s : TransportStream) : List String :=
  transportLine s.id s.originalNetworkId :: style.descriptorLines "    " s.descriptors

/-- The lines about a service. -/
def serviceLines (s : Service) : List String :=
  ("  SID " ++ word16 s.id ++ "  " ++ padRight 24 (orDash s.name?) ++ " " ++ s.status.name ++
    (if s.scrambled then " scrambled" else "")) :: style.descriptorLines "    " s.descriptors

/-- The lines about an event. -/
def eventLines (e : Section.Event) : List String :=
  ("  event " ++ word16 e.id ++ "  " ++ (e.start.map (·.displayText)).getD "unknown" ++ "  " ++
    padLeft 5 ' ' (toString e.duration.seconds) ++ "s  " ++ e.status.name ++ "  " ++
    orDash e.title?) :: style.descriptorLines "    " e.descriptors

/-- The lines about the rows of a table. -/
def bodyLines : Body → List String
  | .pat t => t.programs.map programLine
  | .pmt t => ("  PCR PID " ++ word16 t.clockPid) :: style.descriptorLines "  " t.descriptors ++
      t.streams.flatMap style.streamLines
  | .nit t => ("  network " ++ orDash t.name?) :: style.descriptorLines "  " t.descriptors ++
      t.streams.flatMap style.transportLines
  | .sdt t => ("  ONID " ++ word16 t.networkId) :: t.services.flatMap style.serviceLines
  | .eit t => transportLine t.streamId t.networkId :: t.events.flatMap style.eventLines

/-- The lines about a section. -/
def lines (s : Section) : List String := style.headerLine s.header :: style.bodyLines s.body

end SectionStyle

end Multiplex.Program
