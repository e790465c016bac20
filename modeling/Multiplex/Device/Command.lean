import Multiplex.Tuner.Info

/-!
# Nodes and commands

A device is reached through nodes. A node is opened, takes commands, delivers data, and is closed.
-/

namespace Multiplex.Device

open Multiplex.Tuner

/-- The kinds of nodes: a frontend receives a signal, a demux filters it, and a dvr delivers what a
demux has filtered. -/
inductive Kind
  | frontend
  | demux
  | dvr
  deriving DecidableEq

/-- The name of a kind, which its nodes are named for. -/
def Kind.name : Kind → String
  | frontend => "frontend"
  | demux => "demux"
  | dvr => "dvr"

/-- An open node. Nodes are numbered in the order in which they were opened. -/
structure Node where
  number : Nat
  kind : Kind
  adapter : UInt32
  index : UInt32
  deriving DecidableEq

/-- Sixteen bytes to compare with the start of a section. -/
abbrev MatchBytes := Vector UInt8 16

/-- What a section filter is programmed with. -/
structure SectionProgram where
  pid : UInt16
  filter : MatchBytes
  mask : MatchBytes
  mode : MatchBytes
  /-- In milliseconds; zero waits for ever. -/
  timeout : UInt32
  flags : UInt32
  deriving DecidableEq

/-- What a stream filter is programmed with. -/
structure StreamProgram where
  pid : UInt16
  input : UInt32
  output : UInt32
  pesType : UInt32
  flags : UInt32
  deriving DecidableEq

/-- The value of a property: a number, or a list of bytes. -/
structure PropertyValue where
  data : UInt32
  buffer : List UInt8
  deriving DecidableEq

/-- A counter of system time, and what to divide it by to come to 90 kHz. -/
structure SystemClock where
  base : UInt32
  ticks : UInt64
  deriving DecidableEq

/-- The commands that nodes take. -/
inductive Command
  | info
  | status
  | getProperty (property : UInt32)
  | setProperty (property value : UInt32)
  | setSectionFilter (program : SectionProgram)
  | setStreamFilter (program : StreamProgram)
  | start
  | stop
  | addPid (pid : UInt16)
  | removePid (pid : UInt16)
  | setBufferSize (size : UInt32)
  | pesPids
  | clock (number : UInt32)
  deriving DecidableEq

/-- What a command answers. -/
abbrev Command.Answer : Command → Type
  | info => Ranges
  | status => Status
  | getProperty _ => PropertyValue
  | pesPids => List UInt16
  | clock _ => SystemClock
  | setProperty .. | setSectionFilter _ | setStreamFilter _ | start | stop | addPid _ | removePid _
  | setBufferSize _ => Unit

end Multiplex.Device
