import Multiplex.Session.Closing
import Multiplex.Tuner.Property

/-!
# Frontends of a session

A frontend is asked for its description when it is opened. If one of the questions fails, its node
is closed again. From then on each operation is one command on the node, until the frontend is
closed.
-/

namespace Multiplex.Session

open Multiplex.Device Multiplex.Tuner

variable (P : Platform σ)

/-- Gives a command to a node. -/
def issue (node : Node) (c : Command) : Act σ (Except SystemError c.Answer) := do
  record (.issued node c)
  match ← meanwhile P (.command node c) with
  | .ok () => onDevice (P.run node c)
  | .error cause => return .error cause

/-- Gives a command to a node; a refusal is a failure of the command called `name`. -/
def command (name : String) (node : Node) (c : Command) : Attempt σ c.Answer :=
  ExceptT.mk (return orCommand name (← issue P node c))

/-- Tries to open a node, and again when it was interrupted, for so many times at most. -/
def tryOpen (node : Node) : (times : Nat) → Act σ (Except SystemError Unit)
  | 0 => return .error .interrupted
  | times + 1 => do
    match ← onDevice (P.openNode node) with
    | .ok () =>
      modify fun w => { w with nodeCount := node.number }
      record (.opened node)
      return .ok ()
    | .error cause =>
      record (.refused node.kind node.adapter node.index)
      if cause.isInterrupted then tryOpen node times else return .error cause

/-- Opens a node. -/
def openNode (kind : Kind) (adapter index : UInt32) : Attempt σ Node := ExceptT.mk do
  match ← meanwhile P (.openNode kind adapter index) with
  | .error cause =>
    record (.refused kind adapter index)
    return .error (.system cause)
  | .ok () =>
    let w ← get
    let node : Node := ⟨w.nodeCount + 1, kind, adapter, index⟩
    return ((← tryOpen P node (P.openings node w.device)).map fun () => node).mapError .system

/-- Closes a node that has not come into use. A failure is only noted. -/
def abandon (node : Node) (what : String) : Act σ Unit := do
  match ← closeNode P (meanwhile P) node with
  | .ok () => return
  | .error cause => note .warning ("Failed to close " ++ what ++ ": " ++ cause.message)

/-- Asks a frontend for its description, in four questions. -/
def askInfo (node : Node) : Attempt σ Info := do
  let apiVersion ← command P "DTV_API_VERSION" node (.getProperty Property.apiVersion)
  let ranges ← command P "FE_GET_INFO" node .info
  let systems ← command P "DTV_ENUM_DELSYS" node (.getProperty Property.deliverySystems)
  let system ← command P "DTV_DELIVERY_SYSTEM" node (.getProperty Property.deliverySystem)
  return {
    adapter := node.adapter, index := node.index
    apiVersion := .ofNumber apiVersion.data
    ranges
    deliverySystems := systems.buffer.map (.ofNumber ·.toNat)
    deliverySystem := .ofNumber system.data.toNat }

/-- Opens a frontend; gives its place. -/
def openFrontend (adapter index : UInt32) : Attempt σ Nat := do
  let node ← openNode P .frontend adapter index
  match ← outcome (askInfo P node) with
  | .error f =>
    abandon P node "frontend after failed open"
    throw f
  | .ok info =>
    let text := "Opened adapter" ++ toString adapter.toNat ++ "/frontend" ++ toString index.toNat ++
      ": " ++ info.name ++ " (DVB API " ++ info.apiVersion.text ++ ", " ++
      info.deliverySystem.name ++ ")"
    (note .info text : Act σ Unit)
    let place := (← get).frontends.length
    modify fun w => { w with
      frontends := w.frontends ++ [⟨node, info, true⟩]
      held := w.held ++ [place] }
    return place

/-- The failure of an operation on a frontend that is closed. -/
def Frontend.closedFailure (f : Frontend) : Failure :=
  .notFound ("frontend" ++ toString f.info.index.toNat ++ " on adapter" ++
    toString f.info.adapter.toNat ++ " is closed")

/-- The node of a frontend that is open. -/
def frontendNode (place : Nat) : Attempt σ Node := do
  match (← get).frontends[place]? with
  | none => throw (.notFound "frontend")
  | some f => if f.isOpen then return f.node else throw f.closedFailure

/-- Reads what a frontend sees of the signal. -/
def readStatus (place : Nat) : Attempt σ Status := do
  command P "FE_READ_STATUS" (← frontendNode place) .status

/-- Reads a property. -/
def getProperty (place : Nat) (property : UInt32) : Attempt σ UInt32 := do
  return (← command P "FE_GET_PROPERTY" (← frontendNode place) (.getProperty property)).data

/-- Sets a property. -/
def setProperty (place : Nat) (property value : UInt32) : Attempt σ Unit := do
  command P "FE_SET_PROPERTY" (← frontendNode place) (.setProperty property value)

/-- Asks for the delivery system in use. -/
def deliverySystem (place : Nat) : Attempt σ DeliverySystem := do
  return .ofNumber (← getProperty P place Property.deliverySystem).toNat

/-- Tuning is not offered. -/
def tune (place : Nat) (_properties : List (UInt32 × UInt32)) : Attempt σ Unit := do
  let _ ← frontendNode place
  throw (.notImplemented "tune")

end Multiplex.Session
