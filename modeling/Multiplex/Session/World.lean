import Multiplex.Demux.Settings
import Multiplex.Device.Platform
import Multiplex.Text.Lines
import Multiplex.Text.Plain

/-!
# Sessions

The state of a session with a device: the frontends, managers and filters that were opened, and the
trace of what happened. An `Act` is a step that changes the state and always ends; an `Attempt`
is an act that can fail, and what it has changed by then stays changed.
-/

namespace Multiplex.Session

open Multiplex.Device Multiplex.Demux

/-- The nodes of a filter: the demux, and the dvr if it delivers there. -/
structure FilterNodes where
  demux : Node
  dvr? : Option Node
  deriving DecidableEq

/-- The node that a filter's data comes from. -/
def FilterNodes.source (n : FilterNodes) : Node := n.dvr?.getD n.demux

/-- A filter as its users hold it: where its nodes are kept, and what it takes. -/
structure Filter where
  manager : Nat
  id : FilterId
  kind : FilterKind
  deriving DecidableEq

/-- What happened: on a node, to a filter, or to a call that was under way. -/
inductive Event
  | opened (node : Node)
  /-- A node that did not open. -/
  | refused (kind : Kind) (adapter index : UInt32)
  | issued (node : Node) (command : Command)
  /-- Closed by a call, whether or not the call succeeded. -/
  | closed (node : Node)
  /-- Let go of without a call. -/
  | dropped (node : Node)
  | waited (node : Node) (answer : Except SystemError Waited)
  | fetched (node : Node) (answer : Except SystemError (List UInt8))
  /-- A filter came into use, with its nodes. -/
  | registered (filter : Filter) (nodes : FilterNodes)
  /-- The nodes of a filter were taken out of its manager's registry, to be closed. -/
  | withdrawn (manager : Nat) (nodes : FilterNodes)
  /-- Others asked for a closing while a call was under way. -/
  | asked (closing : Closing)

/-- The nodes that are open after some events and were among `nodes` or opened since. -/
def openAfter (nodes : List Node) : List Event → List Node
  | [] => nodes
  | .opened node :: rest => openAfter (nodes ++ [node]) rest
  | .closed node :: rest => openAfter (nodes.erase node) rest
  | .dropped node :: rest => openAfter (nodes.erase node) rest
  | _ :: rest => openAfter nodes rest

/-- How much a line of the log matters. -/
inductive Level
  | info
  | warning
  | error
  deriving DecidableEq

/-- The name of a level. -/
def Level.name : Level → String
  | info => "INFO"
  | warning => "WARN"
  | error => "ERROR"

/-- A frontend that was opened. -/
structure Frontend where
  node : Node
  info : Tuner.Info
  isOpen : Bool

/-- The filters of one demux. -/
structure Manager where
  adapter : UInt32
  demux : UInt32
  /-- The frontend the demux belongs to, until the manager is closed. -/
  frontend? : Option Nat
  filters : Registry FilterNodes

/-- The state of a session. Frontends and managers are known by their places in the lists. -/
structure World (σ : Type) where
  device : σ
  trace : List Event := []
  /-- How many nodes were opened. -/
  nodeCount : Nat := 0
  frontends : List Frontend := []
  /-- The frontends that users still hold. -/
  held : List Nat := []
  managers : List Manager := []
  filters : List Filter := []
  /-- The demux node of the filter that is in use, by its number. -/
  busy? : Option Nat := none
  /-- The frontends of managers that are being closed. -/
  leaving : List Nat := []
  log : List (Level × String) := []

/-- A step that always ends. -/
abbrev Act (σ : Type) := StateM (World σ)

/-- A step that can fail. -/
abbrev Attempt (σ : Type) := ExceptT Failure (StateM (World σ))

namespace World

/-- The nodes that are open. -/
def openNodes (w : World σ) : List Node := openAfter [] w.trace

/-- The nodes of a filter that is not closed. -/
def nodes? (w : World σ) (f : Filter) : Option FilterNodes :=
  (w.managers[f.manager]?).bind (·.filters.get? f.id)

/-- Whether a filter is not closed. -/
def isLive (w : World σ) (f : Filter) : Bool := (w.nodes? f).isSome

/-- How many things could still be closed: open frontends, open managers and their filters. -/
def closable (w : World σ) : Nat :=
  w.frontends.countP (·.isOpen) +
    w.managers.foldr (fun m n => m.filters.values.length + m.frontend?.toList.length + n) 0

/-- Whether a user or a manager refers to a frontend. -/
def isReferenced (w : World σ) (frontend : Nat) : Bool :=
  w.held.contains frontend || w.leaving.contains frontend ||
    w.managers.any (·.frontend? == some frontend)

/-- The state with a manager changed. -/
def setManager (w : World σ) (place : Nat) (m : Manager) : World σ :=
  { w with managers := w.managers.set place m }

/-- The state with a frontend changed. -/
def setFrontend (w : World σ) (place : Nat) (f : Frontend) : World σ :=
  { w with frontends := w.frontends.set place f }

end World

/-- Asks the device. -/
def onDevice (call : σ → α × σ) : Act σ α := fun w =>
  let (a, device) := call w.device
  (a, { w with device })

/-- Adds an event to the trace. -/
def record (e : Event) : Act σ Unit := modify fun w => { w with trace := w.trace ++ [e] }

/-- What a log shows of a text: its first line, as plain text. -/
def logText (text : String) : String :=
  String.ofList ((Text.lines (Text.plain text.toList)).headD [])

/-- Adds a line to the log. -/
def note (level : Level) (text : String) : Act σ Unit :=
  modify fun w => { w with log := w.log ++ [(level, logText text)] }

/-- The outcome of an attempt, for a step that goes on after a failure. -/
def outcome (a : Attempt σ α) : Attempt σ (Except Failure α) := ExceptT.mk (.ok <$> a.run)

/-- The failure of a command that the device refused. -/
def orCommand (name : String) (r : Except SystemError α) : Except Failure α :=
  r.mapError (.command name)

end Multiplex.Session
