import Multiplex.Device.Command
import Multiplex.SystemError

/-!
# Platforms

A platform is what carries out calls on nodes: real hardware, or something that plays its part. It
is a state and the answers to each call. While a call is under way, filters, managers and
frontends may be closed by others; the platform tells which, and when.
-/

namespace Multiplex.Device

/-- A call on a device. -/
inductive Call
  | openNode (kind : Kind) (adapter index : UInt32)
  | command (node : Node) (command : Command)
  | close (node : Node)
  | wait (node : Node)
  | read (node : Node)
  deriving DecidableEq

/-- Something that is closed while a call is under way, by its place among those that were
opened. -/
inductive Closing
  | filter (place : Nat)
  | manager (place : Nat)
  | frontend (place : Nat)
  deriving DecidableEq

/-- How a wait for data ended. -/
inductive Waited
  /-- There is something to read. -/
  | ready
  /-- There is nothing yet, after so many nanoseconds. -/
  | idle (elapsed : Nat)
  deriving DecidableEq

/-- A point that a call passes before it is carried out. First things are closed by others, then the
call may be refused. -/
structure Gate (σ : Type) where
  closings : σ → List Closing × σ
  verdict : σ → Except SystemError Unit × σ

/-- The answers to calls. A call passes its gates one after the other, and is carried out behind the
last one. -/
structure Platform (σ : Type) where
  gates : Call → List (Gate σ)
  /-- Opens the node that will have a number. -/
  openNode : Node → σ → Except SystemError Unit × σ
  /-- How often a node is tried to be opened at most as long as that is interrupted. -/
  openings : Node → σ → Nat
  /-- Carries out a command. -/
  run : Node → (c : Command) → σ → Except SystemError c.Answer × σ
  /-- Closes a node; whatever the answer, the node is gone. -/
  close : Node → σ → Except SystemError Unit × σ
  /-- Lets go of a node that nobody closes. -/
  letGo : Node → σ → σ
  /-- Waits for data, for so many nanoseconds at most or without a limit. -/
  wait : Node → Option Nat → σ → Except SystemError Waited × σ
  /-- Takes what a node delivers next. -/
  read : Node → σ → Except SystemError (List UInt8) × σ
  /-- How many rounds of calls may pass before a node has nothing new to say. -/
  patience : Node → σ → Nat

end Multiplex.Device
