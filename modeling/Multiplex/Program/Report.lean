import Multiplex.Failure
import Multiplex.Program.Color
import Multiplex.Scan.Channel
import Multiplex.Tuner.Info

/-!
# Reports

The lines that the program prints about adapters, about the status of a frontend, and about the
channels of a scan table, each as text for people and as JSON.
-/

namespace Multiplex.Program

open Multiplex.Text Multiplex.Tuner

/-! ### Adapters -/

/-- An adapter: the description of its first frontend, or why there is none. -/
structure AdapterEntry where
  adapter : UInt32
  info : Except Failure Info

namespace AdapterEntry

/-- The widths of a table's columns but for the last one, which is as wide as it needs to be. -/
def widths : List Nat := [8, 32, 6, 10]

/-- A row of a table. -/
def row (cells : List String) : String :=
  String.intercalate " " (List.zipWith padRight widths cells ++ cells.drop widths.length)

/-- The row of an adapter. -/
def text (paint : Paint) (e : AdapterEntry) : String :=
  match e.info with
  | .ok i =>
    row [toString e.adapter.toNat, String.ofList (i.name.toList.take 32), i.apiVersion.text,
      i.deliverySystem.name, String.intercalate "," (i.deliverySystems.map (·.name))]
  | .error f => padRight 8 (toString e.adapter.toNat) ++ " " ++ paint .red f.message

/-- The rows of all adapters, with a heading and their number. -/
def tableLines (paint : Paint) (entries : List AdapterEntry) : List String :=
  if entries.isEmpty then ["No adapters found."]
  else [row ["Adapter", "Frontend", "API", "Current", "Systems"],
      String.ofList (List.replicate 80 '-')] ++ entries.map (text paint) ++
    ["", "Total: " ++ toString entries.length ++ " adapters"]

/-- An adapter as JSON. -/
def json (e : AdapterEntry) : Json :=
  .object [("adapter", .number e.adapter.toNat), ("info", .ofOption Info.json e.info.toOption),
    ("error", match e.info with
      | .ok _ => .null
      | .error f => .string f.message)]

end AdapterEntry

/-! ### Status -/

/-- The lines that describe a frontend. -/
def infoLines (i : Info) : List String := [
  "Frontend:         " ++ i.name,
  "API version:      " ++ i.apiVersion.text,
  "Delivery system:  " ++ i.deliverySystem.name,
  "Frequency range:  " ++ toString i.ranges.frequencyMin.toNat ++ " - " ++
    toString i.ranges.frequencyMax.toNat ++
    " (step " ++ toString i.ranges.frequencyStep.toNat ++ ")",
  "Capabilities:     " ++ i.ranges.capabilities.text]

/-- A frontend by its adapter's number and its own. -/
def frontendText (adapter frontend : UInt32) : String :=
  "adapter" ++ toString adapter.toNat ++ "/frontend" ++ toString frontend.toNat

/-- The line about what a frontend sees. -/
def statusLine (paint : Paint) (adapter frontend : UInt32) (s : Status) : String :=
  let lock := if s.isLocked then paint .green (padRight 8 "LOCKED")
    else paint .yellow (padRight 8 "NO LOCK")
  frontendText adapter frontend ++ ": " ++ lock ++ " [" ++ s.text ++ "]"

/-- What a frontend sees as JSON. -/
def statusJson (adapter frontend : UInt32) (s : Status) : Json :=
  .object [("adapter", .number adapter.toNat), ("frontend", .number frontend.toNat),
    ("locked", .bool s.isLocked), ("status", s.json)]

/-! ### Channels -/

/-- The lines about a channel: its name, and the properties that tune to it. -/
def channelLines (c : Scan.Channel) : List String :=
  ("[" ++ c.name ++ "]") :: c.properties.map fun (property, value) =>
    "  " ++ padRight 16 (Property.nameOf property) ++ " = " ++ toString value.toNat

/-- The lines about all channels, with their number. -/
def channelsLines (channels : List Scan.Channel) : List String :=
  channels.flatMap channelLines ++ ["", "Total: " ++ toString channels.length ++ " sections"]

/-- A channel as JSON. -/
def channelJson (c : Scan.Channel) : Json :=
  .object [("name", .string c.name), ("delivery_system", .string c.deliverySystem.name),
    ("frequency", .number c.frequency.toNat), ("bandwidth_hz", .number c.bandwidth.toNat),
    ("symbol_rate", .number c.symbolRate.toNat),
    ("polarization", .ofOption (.string ·.name) c.polarization?),
    ("entries", .array (c.entries.map fun (key, value) => .array [.string key, .string value]))]

end Multiplex.Program
