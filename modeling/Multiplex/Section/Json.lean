import Multiplex.Json
import Multiplex.Section.Basic

/-!
# Sections as JSON

The JSON form of each part of a section. Bytes are arrays of numbers; a table or a status that
carries a byte of its own is an object with that byte.
-/

namespace Multiplex.Section

open Multiplex.Calendar

/-- Bytes as numbers. -/
def bytesJson (bytes : List UInt8) : Json := .array (bytes.map (.number ·.toNat))

/-- A name, or an object for a schedule. -/
def TableId.json : TableId → Json
  | .eitSchedule b => .object [("EitSchedule", .number b.toNat)]
  | t => .string t.name

/-- A name, or an object for a reserved value. -/
def RunningStatus.json : RunningStatus → Json
  | .reserved b => .object [("Reserved", .number b.toNat)]
  | s => .string s.name

/-- The fields of a header. -/
def Header.json (h : Header) : Json :=
  .object [("table_id", h.tableId.json), ("id", .number h.id.toNat),
    ("version", .number h.version.toNat), ("current_next", .bool h.isCurrent),
    ("section_number", .number h.number.toNat),
    ("last_section_number", .number h.lastNumber.toNat)]

/-- Tag and payload. -/
def Descriptor.json (d : Descriptor) : Json :=
  .object [("tag", .number d.tag.toNat), ("payload", bytesJson d.payload)]

/-- A list of descriptors. -/
def descriptorsJson (descriptors : List Descriptor) : Json :=
  .array (descriptors.map Descriptor.json)

/-- An instant as its text. -/
def instantJson (t : DateTime) : Json := .string t.rfc3339

/-- Seconds and nanoseconds. -/
def durationJson (d : Duration) : Json :=
  .object [("secs", .number d.seconds), ("nanos", .number d.nanos)]

/-- A row of a PAT. -/
def Program.json (p : Program) : Json :=
  .object [("program_id", .number p.id.toNat), ("pid", .number p.pid.toNat)]

/-- A row of a PMT. -/
def ElementaryStream.json (s : ElementaryStream) : Json :=
  .object [("stream_type", .number s.streamType.toNat), ("pid", .number s.pid.toNat),
    ("descriptors", descriptorsJson s.descriptors)]

/-- A row of a NIT. -/
def TransportStream.json (s : TransportStream) : Json :=
  .object [("transport_stream_id", .number s.id.toNat),
    ("original_network_id", .number s.originalNetworkId.toNat),
    ("descriptors", descriptorsJson s.descriptors)]

/-- A row of an SDT. -/
def Service.json (s : Service) : Json :=
  .object [("id", .number s.id.toNat), ("eit_schedule", .bool s.hasSchedule),
    ("eit_following", .bool s.hasFollowing), ("status", s.status.json),
    ("scrambled", .bool s.scrambled), ("descriptors", descriptorsJson s.descriptors)]

/-- A row of an EIT. -/
def Event.json (e : Event) : Json :=
  .object [("id", .number e.id.toNat), ("start", .ofOption instantJson e.start),
    ("duration", durationJson e.duration), ("status", e.status.json),
    ("scrambled", .bool e.scrambled), ("descriptors", descriptorsJson e.descriptors)]

/-- The name of a body's layout and the fields of the body. -/
def Body.jsonFields : Body → String × List (String × Json)
  | .pat t => ("pat", [("programs", .array (t.programs.map Program.json))])
  | .pmt t =>
    ("pmt", [("clock_pid", .number t.clockPid.toNat),
      ("descriptors", descriptorsJson t.descriptors),
      ("streams", .array (t.streams.map ElementaryStream.json))])
  | .nit t =>
    ("nit", [("descriptors", descriptorsJson t.descriptors),
      ("streams", .array (t.streams.map TransportStream.json))])
  | .sdt t =>
    ("sdt", [("network_id", .number t.networkId.toNat),
      ("services", .array (t.services.map Service.json))])
  | .eit t =>
    ("eit", [("stream_id", .number t.streamId.toNat), ("network_id", .number t.networkId.toNat),
      ("last_section", .number t.lastSection.toNat), ("last_table", .number t.lastTable.toNat),
      ("events", .array (t.events.map Event.json))])

/-- The layout's name, the header, the body's fields and the checksum. -/
def json (s : Section) : Json :=
  let (name, fields) := s.body.jsonFields
  .object ([("table", .string name), ("header", s.header.json)] ++ fields ++
    [("crc", bytesJson (Wire.big32 s.crc))])

end Multiplex.Section
