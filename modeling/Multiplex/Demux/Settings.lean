import Multiplex.Calendar.Duration
import Multiplex.Demux.Registry
import Multiplex.Device.Command
import Multiplex.Failure
import Multiplex.Text.Record

/-!
# Settings of filters

What a filter lets through: a section filter takes sections that match a pattern, a stream filter
takes all packets of a PID. The settings are checked here and turned into the words that a demux
is programmed with.
-/

namespace Multiplex.Demux

open Multiplex.Text Multiplex.Calendar Multiplex.Device

/-- The greatest PID. -/
def maxPid : UInt16 := 0x1FFF

/-- Refuses a number that is no PID. -/
def checkPid (pid : UInt16) : Except Failure Unit :=
  if pid ≤ maxPid then .ok ()
  else .error (.badParameter ("PID 0x" ++ hexUpper 4 pid.toNat ++ " is out of range"))

/-- The flag of a filter that drops sections with a wrong checksum. -/
def checkCrcFlag : UInt32 := 1

/-- The flag of a filter that stops after one section. -/
def oneshotFlag : UInt32 := 2

/-- The flag of a filter that starts at once. -/
def immediateStartFlag : UInt32 := 4

/-- Where the packets of a stream filter come from. -/
inductive StreamInput
  | frontend
  | dvr
  deriving DecidableEq

namespace StreamInput

/-- The number of an input. -/
def number : StreamInput → UInt32
  | frontend => 0
  | dvr => 1

/-- The name of an input. -/
def label : StreamInput → String
  | frontend => "Frontend"
  | dvr => "Dvr"

end StreamInput

/-- Where a stream filter delivers. -/
inductive StreamOutput
  /-- To a decoder. -/
  | decoder
  /-- The payload, on the demux node. -/
  | tap
  /-- Packets, on the dvr node. -/
  | tsTap
  /-- Packets, on the demux node. -/
  | tsDemuxTap
  deriving DecidableEq

namespace StreamOutput

/-- The number of an output. -/
def number : StreamOutput → UInt32
  | decoder => 0
  | tap => 1
  | tsTap => 2
  | tsDemuxTap => 3

/-- The name of an output. -/
def label : StreamOutput → String
  | decoder => "Decoder"
  | tap => "Tap"
  | tsTap => "TsTap"
  | tsDemuxTap => "TsDemuxTap"

end StreamOutput

/-- What a stream carries, and for which decoder. -/
inductive PesType
  | audio (decoder : UInt8)
  | video (decoder : UInt8)
  | teletext (decoder : UInt8)
  | subtitle (decoder : UInt8)
  | pcr (decoder : UInt8)
  | other
  deriving DecidableEq

namespace PesType

/-- The name of a type. -/
def label : PesType → String
  | audio n => wrappedText "Audio" (toString n.toNat)
  | video n => wrappedText "Video" (toString n.toNat)
  | teletext n => wrappedText "Teletext" (toString n.toNat)
  | subtitle n => wrappedText "Subtitle" (toString n.toNat)
  | pcr n => wrappedText "Pcr" (toString n.toNat)
  | other => "Other"

/-- The place of a type among the five of a decoder, and the decoder. -/
def slot? : PesType → Option (UInt32 × UInt8)
  | audio n => some (0, n)
  | video n => some (1, n)
  | teletext n => some (2, n)
  | subtitle n => some (3, n)
  | pcr n => some (4, n)
  | other => none

/-- The number of a type. There are four decoders with five types each. -/
def number (t : PesType) : Except Failure UInt32 :=
  match t.slot? with
  | none => .ok 20
  | some (place, decoder) =>
    if decoder > 3 then .error (.badParameter (t.label ++ ": decoder index must be 0..=3"))
    else .ok (decoder.toUInt32 * 5 + place)

end PesType

/-- The settings of a section filter. Byte 0 of the pattern is compared with the table id, and the
others with the bytes after the length field. -/
structure SectionSettings where
  pid : UInt16
  filter : MatchBytes
  mask : MatchBytes
  mode : MatchBytes
  /-- Zero waits for ever. -/
  timeout : Duration
  checkCrc : Bool
  oneshot : Bool
  deriving DecidableEq

namespace SectionSettings

/-- All sections of one table. -/
def ofTable (pid : UInt16) (tableId : UInt8) : SectionSettings where
  pid
  filter := (Vector.replicate 16 0).set 0 tableId
  mask := (Vector.replicate 16 0).set 0 0xFF
  mode := Vector.replicate 16 0
  timeout := .ofSeconds 0
  checkCrc := true
  oneshot := false

/-- Compares one more byte of the pattern, under a mask. -/
def matchByte (s : SectionSettings) (index : Nat) (value mask : UInt8) :
    Except Failure SectionSettings :=
  if h : index < 16 then
    .ok { s with filter := s.filter.set index value, mask := s.mask.set index mask }
  else .error (.badParameter ("filter byte " ++ toString index ++ " is out of range"))

/-- The table id of the pattern. -/
def tableId (s : SectionSettings) : UInt8 := s.filter[0]

/-- A duration in whole milliseconds, as many as a word can hold. -/
def millis (d : Duration) : UInt32 :=
  .ofNat (min (d.seconds * 1000 + d.nanos / 1000000) (UInt32.size - 1))

/-- The flags of the settings. -/
def flags (s : SectionSettings) : UInt32 :=
  immediateStartFlag ||| (if s.checkCrc then checkCrcFlag else 0) |||
    (if s.oneshot then oneshotFlag else 0)

/-- What the demux is programmed with. -/
def program (s : SectionSettings) : Except Failure SectionProgram := do
  checkPid s.pid
  return {
    pid := s.pid, filter := s.filter, mask := s.mask, mode := s.mode
    timeout := millis s.timeout, flags := s.flags }

end SectionSettings

/-- What a filter takes. -/
inductive FilterKind
  | sections (pid : UInt16) (tableId : UInt8)
  | stream (pid : UInt16) (input : StreamInput) (output : StreamOutput) (pesType : PesType)
  deriving DecidableEq

namespace FilterKind

/-- The PID of a filter. -/
def pid : FilterKind → UInt16
  | sections pid _ => pid
  | stream pid .. => pid

/-- What a filter takes, as long text. -/
def text : FilterKind → String
  | sections pid tableId =>
    recordText "Section" [("pid", toString pid.toNat), ("table_id", toString tableId.toNat)]
  | stream pid input output pesType =>
    recordText "Stream" [("pid", toString pid.toNat), ("input", input.label),
      ("output", output.label), ("pes_type", pesType.label)]

end FilterKind

/-- The handle as long text. -/
def FilterId.recordText (id : FilterId) : String :=
  Text.recordText "FilterId"
    [("index", toString id.index), ("generation", toString id.generation.toNat)]

/-- What the demux is programmed with for a stream. -/
def streamProgram (pid : UInt16) (input : StreamInput) (output : StreamOutput) (pesType : PesType) :
    Except Failure StreamProgram := do
  checkPid pid
  return {
    pid, input := input.number, output := output.number
    pesType := ← pesType.number, flags := immediateStartFlag }

end Multiplex.Demux
