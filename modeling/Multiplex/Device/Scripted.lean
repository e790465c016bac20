import Multiplex.Device.Platform
import Multiplex.Text.Numeral
import Multiplex.Tuner.Property

/-!
# Scripted devices

A device that follows a script, for trying out sessions without hardware. Things can be closed
while a command is under way, commands can be made to fail after that, and data is delivered from
one queue that all nodes share.
-/

namespace Multiplex.Device

open Multiplex.Text Multiplex.Tuner

namespace Command

/-- The words for a command on a kind of node. -/
def name (kind : Kind) : Command → String
  | info => "FE_GET_INFO"
  | status => "FE_READ_STATUS"
  | getProperty _ => "FE_GET_PROPERTY"
  | setProperty .. => "FE_SET_PROPERTY"
  | setSectionFilter _ => "DMX_SET_FILTER"
  | setStreamFilter _ => "DMX_SET_PES_FILTER"
  | start => "DMX_START"
  | stop => "DMX_STOP"
  | addPid _ => "DMX_ADD_PID"
  | removePid _ => "DMX_REMOVE_PID"
  | setBufferSize _ => if kind = .dvr then "DVR_SET_BUFFER_SIZE" else "DMX_SET_BUFFER_SIZE"
  | pesPids => "DMX_GET_PES_PIDS"
  | clock _ => "DMX_GET_STC"

/-- The arguments of a command. -/
def arguments : Command → List String
  | getProperty property => [toString property.toNat]
  | setProperty property value => [toString property.toNat, toString value.toNat]
  | setSectionFilter p => [
    "pid=" ++ toString p.pid.toNat, "filter=" ++ hexBytes p.filter.toList,
    "mask=" ++ hexBytes p.mask.toList, "mode=" ++ hexBytes p.mode.toList,
    "timeout=" ++ toString p.timeout.toNat, "flags=" ++ toString p.flags.toNat]
  | setStreamFilter p => [
    "pid=" ++ toString p.pid.toNat, "input=" ++ toString p.input.toNat,
    "output=" ++ toString p.output.toNat, "type=" ++ toString p.pesType.toNat,
    "flags=" ++ toString p.flags.toNat]
  | addPid pid => [toString pid.toNat]
  | removePid pid => [toString pid.toNat]
  | setBufferSize size => [toString size.toNat]
  | clock number => [toString number.toNat]
  | info | status | start | stop | pesPids => []

/-- A command and its arguments in words. -/
def text (kind : Kind) (c : Command) : String :=
  String.intercalate " " (c.name kind :: c.arguments)

/-- The names by which a script refers to a command: its own, and for some commands one with the
argument. -/
def scriptNames (kind : Kind) (c : Command) : List String :=
  match c with
  | getProperty property => [c.name kind, c.name kind ++ ":" ++ toString property.toNat]
  | addPid pid => [c.name kind, c.name kind ++ ":" ++ toString pid.toNat]
  | _ => [c.name kind]

end Command

/-- A command that fails, for some times or until further notice. -/
structure Fault where
  code : Nat
  times? : Option Nat

/-- What the queue of a scripted device says about the next wait and read. -/
inductive Delivery
  | data (bytes : List UInt8)
  | readError (code : Nat)
  /-- Nothing to read, although a wait said so. -/
  | nothing
  | waitError (code : Nat)
  /-- A wait that ends at once. -/
  | woken (isReady : Bool)
  /-- A wait during which things are closed. -/
  | closings (closings : List Closing) (isReady : Bool)

/-- A script, as far as it has not been played. -/
structure Script where
  ranges : Ranges
  status : Status
  properties : List (UInt32 × UInt32)
  deliverySystems : List UInt8
  pesPids : List UInt16
  faults : List (String × Fault) := []
  hooks : List (String × List Closing) := []
  queue : List Delivery := []

/-- The list without the entries of a name. -/
def withoutName (name : String) (entries : List (String × α)) : List (String × α) :=
  entries.filter (·.1 ≠ name)

namespace Script

/-- Makes a command fail. -/
def addFault (s : Script) (name : String) (fault : Fault) : Script :=
  { s with faults := (name, fault) :: withoutName name s.faults }

/-- Ends the failing of a command. -/
def clearFault (s : Script) (name : String) : Script :=
  { s with faults := withoutName name s.faults }

/-- Closes things the next time a command is given. -/
def addHook (s : Script) (name : String) (closings : List Closing) : Script :=
  { s with hooks := (name, closings) :: withoutName name s.hooks }

/-- Adds to the queue. -/
def feed (s : Script) (items : List Delivery) : Script := { s with queue := s.queue ++ items }

/-- What is closed when a command is given under a name; that happens once. -/
def takeHook (name : String) (s : Script) : List Closing × Script :=
  ((s.hooks.lookup name).getD [], { s with hooks := withoutName name s.hooks })

/-- Looks up the fault under a name, and counts it. -/
def takeFault (name : String) (s : Script) : Except SystemError Unit × Script :=
  match s.faults.lookup name with
  | none | some ⟨_, some 0⟩ => (.ok (), s)
  | some ⟨code, none⟩ => (.error (.code code), s)
  | some ⟨code, some (times + 1)⟩ => (.error (.code code), s.addFault name ⟨code, some times⟩)

/-- A gate of a command under a name: its hook and its fault. -/
def gate (name : String) : Gate Script := ⟨takeHook name, takeFault name⟩

/-- The name of opening a node. -/
def openName (kind : Kind) : String := "open_" ++ kind.name

/-- The name of closing a node. -/
def closeName (kind : Kind) : String := "close_" ++ kind.name

/-- What is closed during the next wait. -/
def takeClosings (s : Script) : List Closing × Script :=
  match s.queue with
  | .closings closings isReady :: rest => (closings, { s with queue := .woken isReady :: rest })
  | _ => ([], s)

/-- The gates of a call. A command passes one under each of its names. -/
def gates : Call → List (Gate Script)
  | .openNode kind _ _ => [gate (openName kind)]
  | .command node c => (c.scriptNames node.kind).map gate
  | .close node => [gate (closeName node.kind)]
  | .wait _ => [⟨takeClosings, fun s => (.ok (), s)⟩]
  | .read _ => []

/-- The value of a property, zero if it was never set. -/
def property (s : Script) (p : UInt32) : UInt32 := (s.properties.lookup p).getD 0

/-- What a command answers that has passed its gates. -/
def answer (s : Script) : (c : Command) → c.Answer × Script
  | .info => (s.ranges, s)
  | .status => (s.status, s)
  | .getProperty p =>
    (⟨s.property p, if p = Property.deliverySystems then s.deliverySystems else []⟩, s)
  | .setProperty p value => ((), { s with properties := (p, value) :: s.properties })
  | .pesPids => ((s.pesPids ++ List.replicate 5 0xFFFF).take 5, s)
  | .clock number => (⟨1, .ofNat (90000 * (number.toNat + 1))⟩, s)
  | .setSectionFilter _ | .setStreamFilter _ | .start | .stop | .addPid _ | .removePid _
  | .setBufferSize _ => ((), s)

/-- Waits for data. The time is only spent when the queue is empty. -/
def wait (left? : Option Nat) (s : Script) : Except SystemError Waited × Script :=
  match s.queue with
  | [] => (.ok (.idle (left?.getD 0)), s)
  | .waitError code :: rest => (.error (.code code), { s with queue := rest })
  | .woken isReady :: rest => (.ok (if isReady then .ready else .idle 0), { s with queue := rest })
  | _ => (.ok .ready, s)

/-- Takes the front of the queue. -/
def read (s : Script) : Except SystemError (List UInt8) × Script :=
  match s.queue with
  | [] => (.error .wouldBlock, s)
  | .data bytes :: rest => (.ok bytes, { s with queue := rest })
  | .readError code :: rest => (.error (.code code), { s with queue := rest })
  | _ :: rest => (.error .wouldBlock, { s with queue := rest })

end Script

/-- A device that follows a script. -/
def scripted : Platform Script where
  gates := Script.gates
  openNode _ s := (.ok (), s)
  openings _ _ := 1
  run _ c s :=
    let (answer, s) := s.answer c
    (.ok answer, s)
  close _ s := (.ok (), s)
  letGo _ s := s
  wait _ := Script.wait
  read _ := Script.read
  patience _ s := s.queue.length + 2

end Multiplex.Device
