import Multiplex.Device.Control
import Multiplex.Device.Scripted
import Multiplex.Device.Simulated
import Multiplex.Session.World

/-!
# Traces as text

The events of a session in two forms: as lines about commands, and as the calls that the system
sees. Waiting and reading are left out of both.
-/

namespace Multiplex.Session

open Multiplex.Device

/-- A node by its number. -/
def nodeTag (node : Node) : String := "#" ++ toString node.number

/-- A kind of node with its place. -/
def placeText (kind : Kind) (adapter index : UInt32) : String :=
  kind.name ++ " " ++ toString adapter.toNat ++ "/" ++ toString index.toNat

/-- The line about an event. -/
def Event.line? : Event → Option String
  | .opened n => some ("open " ++ placeText n.kind n.adapter n.index ++ " " ++ nodeTag n)
  | .refused kind adapter index => some ("open " ++ placeText kind adapter index ++ " failed")
  | .issued n c => some (nodeTag n ++ " " ++ c.text n.kind)
  | .closed n => some (nodeTag n ++ " close")
  | .dropped n => some (nodeTag n ++ " drop")
  | .waited .. | .fetched .. | .registered .. | .withdrawn .. | .asked _ => none

/-- A call of the system on a node. -/
def callJson (node call : String) (more : List (String × Json)) : Json :=
  .object ([("node", .string node), ("call", .string call)] ++ more)

/-- The opening of a node: only a dvr is opened for reading alone, and none makes its caller
wait. -/
def openJson (kind : Kind) (adapter index : UInt32) : Json :=
  callJson (nodeName kind adapter index) "open"
    [("write", .bool (kind ≠ .dvr)), ("nonblock", .bool true)]

/-- The argument of a control call. -/
def argumentJson : Argument → Json
  | .nothing => .null
  | .integer n => .number n
  | .bytes bytes => .string (Text.hexBytes bytes)
  | .property bytes => .object [("num", .number 1), ("prop", .string (Text.hexBytes bytes))]

/-- The call that the system sees of an event. -/
def Event.callJson? : Event → Option Json
  | .opened n => some (openJson n.kind n.adapter n.index)
  | .refused kind adapter index => some (openJson kind adapter index)
  | .issued n c =>
    if c.isPassable then
      some (callJson n.name "ioctl"
        [("request", .number c.request.code), ("arg", argumentJson c.argument)])
    else none
  | .closed n => some (callJson n.name "close" [])
  | .dropped n => some (callJson n.name "close" [])
  | .waited .. | .fetched .. | .registered .. | .withdrawn .. | .asked _ => none

end Multiplex.Session
