import Multiplex.Device.Control
import Multiplex.Device.Platform

/-!
# Simulated systems

A system with nodes that answer control calls from lists of replies and deliver packets. Each
opened node has packets of its own.
-/

namespace Multiplex.Device

/-- The reply to a call. -/
inductive Reply
  | refused (code : Nat)
  /-- Success, with bytes written to the argument. -/
  | written (bytes : List UInt8)

/-- What a read finds. -/
inductive Packet
  | data (bytes : List UInt8)
  | refused (code : Nat)

/-- A node: its replies by the name of the call, and the packets that each opening starts with. -/
structure SimulatedNode where
  replies : List (String × List Reply)
  packets : List Packet

/-- A system: its nodes by name, and the packets of the nodes that were opened, by number. -/
structure Simulation where
  nodes : List (String × SimulatedNode)
  queues : List (Nat × List Packet) := []

/-- The name of a node below the directory of adapters. -/
def nodeName (kind : Kind) (adapter index : UInt32) : String :=
  "adapter" ++ toString adapter.toNat ++ "/" ++ kind.name ++ toString index.toNat

/-- The name of an open node. -/
def Node.name (n : Node) : String := nodeName n.kind n.adapter n.index

/-- The names under which the reply to a command is looked up, the more exact one first. -/
def Command.replyNames (c : Command) : List String :=
  let number := toString c.request.number
  match c with
  | getProperty p => [number ++ ":" ++ toString p.toNat, number]
  | setProperty p _ => [number ++ ":" ++ toString p.toNat, number]
  | _ => [number]

/-- The list with the value of a name changed. -/
def updateName (name : String) (f : α → α) (entries : List (String × α)) : List (String × α) :=
  entries.map fun (n, a) => if n = name then (n, f a) else (n, a)

namespace SimulatedNode

/-- Takes the next reply to a call. Replies are used up but for the last one, which stays. -/
def takeReply (n : SimulatedNode) : List String → Option Reply × SimulatedNode
  | [] => (none, n)
  | name :: names =>
    match n.replies.lookup name with
    | some (reply :: rest) =>
      (some reply,
        if rest.isEmpty then n
        else { n with replies := updateName name (fun _ => rest) n.replies })
    | _ => n.takeReply names

/-- Changes the replies to a call. -/
def setReplies (n : SimulatedNode) (name : String) (replies : List Reply) : SimulatedNode :=
  { n with replies := (name, replies) :: n.replies.filter (·.1 ≠ name) }

end SimulatedNode

namespace Simulation

/-- Takes the next reply of a node to a call; none if there is no such node. -/
def reply (s : Simulation) (node : String) (names : List String) :
    Option (Option Reply × Simulation) :=
  (s.nodes.lookup node).map fun n =>
    let (reply, n) := n.takeReply names
    (reply, { s with nodes := updateName node (fun _ => n) s.nodes })

/-- The bytes that a call has written, or why it was refused. -/
def answer (s : Simulation) (node : String) (names : List String) :
    Except SystemError (List UInt8) × Simulation :=
  match s.reply node names with
  | none => (.error .noEntry, s)
  | some (some (.refused code), s) => (.error (.code code), s)
  | some (some (.written bytes), s) => (.ok bytes, s)
  | some (none, s) => (.ok [], s)

/-- The packets that wait at a node. -/
def queue (s : Simulation) (node : Node) : List Packet := (s.queues.lookup node.number).getD []

/-- The system with other packets at a node. -/
def setQueue (s : Simulation) (number : Nat) (packets : List Packet) : Simulation :=
  { s with queues := (number, packets) :: s.queues.filter (·.1 ≠ number) }

/-- Opens a node, with the packets it starts with. -/
def openNode (node : Node) (s : Simulation) : Except SystemError Unit × Simulation :=
  match s.answer node.name ["open"] with
  | (.error cause, s) => (.error cause, s)
  | (.ok _, s) =>
    (.ok (), s.setQueue node.number (((s.nodes.lookup node.name).map (·.packets)).getD []))

/-- Carries out a command. -/
def run (node : Node) (c : Command) (s : Simulation) : Except SystemError c.Answer × Simulation :=
  if c.isPassable then
    let (written, s) := s.answer node.name c.replyNames
    (written.map fun bytes => c.readAnswer bytes, s)
  else (.error .invalidInput, s)

/-- Closes a node. -/
def close (node : Node) (s : Simulation) : Except SystemError Unit × Simulation :=
  let (written, s) := s.answer node.name ["close"]
  (written.map fun _ => (), s)

/-- Waits for a packet. The time is only spent when there is none. -/
def wait (node : Node) (left? : Option Nat) (s : Simulation) :
    Except SystemError Waited × Simulation :=
  (.ok (if (s.queue node).isEmpty then .idle (left?.getD 0) else .ready), s)

/-- Takes the next packet. -/
def read (node : Node) (s : Simulation) : Except SystemError (List UInt8) × Simulation :=
  match s.queue node with
  | [] => (.error .wouldBlock, s)
  | .data bytes :: rest => (.ok bytes, s.setQueue node.number rest)
  | .refused code :: rest => (.error (.code code), s.setQueue node.number rest)

/-- Adds packets to all open nodes of a name. -/
def feed (s : Simulation) (opened : List Node) (name : String) (packets : List Packet) :
    Simulation :=
  (opened.filter (·.name = name)).foldl
    (fun s node => s.setQueue node.number (s.queue node ++ packets)) s

/-- Changes the replies of a node to a call. -/
def setReplies (s : Simulation) (node name : String) (replies : List Reply) : Simulation :=
  { s with nodes := updateName node (·.setReplies name replies) s.nodes }

/-- How many openings of a node can be interrupted, and the one after these. -/
def openings (node : Node) (s : Simulation) : Nat :=
  match s.nodes.lookup node.name with
  | none => 1
  | some n => ((n.replies.lookup "open").getD []).length + 1

/-- How many packets and replies a node still has, and one round more to see that there are none. -/
def patience (node : Node) (s : Simulation) : Nat :=
  let replies := ((s.nodes.lookup node.name).map (·.replies)).getD []
  (s.queue node).length + (replies.flatMap (·.2)).length + 2

end Simulation

/-- A simulated system. Nothing is closed by others, and a node that is let go of is closed by the
system, whatever it replies. -/
def simulated : Platform Simulation where
  gates _ := []
  openNode := Simulation.openNode
  openings := Simulation.openings
  run := Simulation.run
  close := Simulation.close
  letGo node s := (s.close node).2
  wait := Simulation.wait
  read := Simulation.read
  patience := Simulation.patience

end Multiplex.Device
