import Multiplex.Session.World

/-!
# Closing

Frontends, managers and filters can be closed at any time, also while a call of another operation
is under way. A filter that is in use is only marked as closed, and whoever uses it lets go of its
nodes at the end. The number of things that are open bounds how deep closings can be nested in the
calls of other closings.
-/

namespace Multiplex.Session

open Multiplex.Device Multiplex.Demux

section

variable (P : Platform σ) (during : Call → Act σ (Except SystemError Unit))

/-- Closes a node. Whatever the answer, the node is gone. -/
def closeNode (node : Node) : Act σ (Except SystemError Unit) := do
  record (.closed node)
  match ← during (.close node) with
  | .ok () => onDevice (P.close node)
  | .error cause => return .error cause

/-- Closes a node; gives the failure if there was one. -/
def closeNodeFailures (node : Node) : Act σ (List Failure) := do
  match ← closeNode P during node with
  | .ok () => return []
  | .error cause => return [.command "close" cause]

/-- Closes the nodes of a filter, the dvr first. Both are closed, whatever becomes of the first. -/
def closeNodes (nodes : FilterNodes) : Act σ (Except Failure Unit) := do
  let first ← match nodes.dvr? with
    | none => pure []
    | some dvr => closeNodeFailures P during dvr
  let second ← closeNodeFailures P during nodes.demux
  return Failure.collect (first ++ second)

/-- Closes the nodes of a filter that is no longer registered, unless it is in use. -/
def release (nodes : FilterNodes) : Act σ (Except Failure Unit) := do
  if (← get).busy? = some nodes.demux.number then return .ok ()
  else closeNodes P during nodes

/-- Closes filters one after the other; gives the failures. -/
def releaseAll : List FilterNodes → Act σ (List Failure)
  | [] => return []
  | nodes :: rest => do
    let failures ← match ← release P during nodes with
      | .ok () => pure []
      | .error f => pure [f]
    return failures ++ (← releaseAll rest)

/-- Closes a filter. A filter that is closed already stays so. -/
def closeFilterDuring (f : Filter) : Act σ (Except Failure Unit) := do
  match ((← get).managers[f.manager]?).bind fun m => (m.filters.remove f.id).map (m, ·) with
  | none => return .ok ()
  | some (m, nodes, filters) =>
    modify (·.setManager f.manager { m with filters })
    record (.withdrawn f.manager nodes)
    release P during nodes

/-- Lets go of a node that nobody closes. -/
def letGo (node : Node) : Act σ Unit := do
  record (.dropped node)
  modify fun w => { w with device := P.letGo node w.device }

/-- Lets go of a frontend that nobody refers to any more. -/
def dropFrontend (place : Nat) : Act σ Unit := do
  let w ← get
  match w.frontends[place]? with
  | some f =>
    if f.isOpen ∧ !w.isReferenced place then
      set (w.setFrontend place { f with isOpen := false })
      letGo P f.node
  | none => return

/-- Closes all filters of a manager and lets go of its frontend. All are closed, whatever becomes
of each. -/
def closeManagerDuring (place : Nat) : Act σ (Except Failure Unit) := do
  match (← get).managers[place]? with
  | none => return .ok ()
  | some m =>
    let (nodes, filters) := m.filters.drain
    modify fun w => { w.setManager place { m with filters, frontend? := none } with
      trace := w.trace ++ nodes.map (.withdrawn place)
      leaving := m.frontend?.toList ++ w.leaving }
    let failures ← releaseAll P during nodes
    if let some frontend := m.frontend? then
      modify fun w => { w with leaving := w.leaving.erase frontend }
      dropFrontend P frontend
    return Failure.collect failures

/-- Closes a frontend. A frontend that is closed already stays so. -/
def closeFrontendDuring (place : Nat) : Act σ (Except Failure Unit) := do
  match (← get).frontends[place]? with
  | some f =>
    if f.isOpen then
      modify (·.setFrontend place { f with isOpen := false })
      return orCommand "close" (← closeNode P during f.node)
    else return .ok ()
  | none => return .ok ()

/-- Closes something that the session knows; whether that works does not matter. -/
def perform : Closing → Act σ Unit
  | .filter place => do
    if let some f := (← get).filters[place]? then discard (closeFilterDuring P during f)
  | .manager place => discard (closeManagerDuring P during place)
  | .frontend place => do
    if let some f := (← get).held[place]? then discard (closeFrontendDuring P during f)

end

/-- Passes gates, up to the first that refuses. `act` is what becomes of the closings. -/
def passGates (act : Closing → Act σ Unit) : List (Gate σ) → Act σ (Except SystemError Unit)
  | [] => return .ok ()
  | gate :: rest => do
    (← onDevice gate.closings).forM fun closing => do
      record (.asked closing)
      act closing
    match ← onDevice gate.verdict with
    | .ok () => passGates act rest
    | .error cause => return .error cause

/-- What happens before a call is carried out. Closings make calls of their own, during which more
can be closed, down to a depth. -/
def interrupt (P : Platform σ) : (depth : Nat) → Call → Act σ (Except SystemError Unit)
  | 0, call => passGates (fun _ => return) (P.gates call)
  | depth + 1, call => passGates (perform P (interrupt P depth)) (P.gates call)

/-- What happens before a call is carried out. No closing that still closes something is left out,
since each of those that contain it has closed something else. -/
def meanwhile (P : Platform σ) (call : Call) : Act σ (Except SystemError Unit) := do
  interrupt P (← get).closable call

section

variable (P : Platform σ)

/-- Closes a filter. -/
def closeFilter (f : Filter) : Attempt σ Unit := ExceptT.mk (closeFilterDuring P (meanwhile P) f)

/-- Closes a manager. -/
def closeManager (place : Nat) : Attempt σ Unit :=
  ExceptT.mk (closeManagerDuring P (meanwhile P) place)

/-- Closes a frontend. -/
def closeFrontend (place : Nat) : Attempt σ Unit :=
  ExceptT.mk (closeFrontendDuring P (meanwhile P) place)

/-- Takes a frontend from its user. -/
def forgetFrontend (place : Nat) : Act σ Unit := do
  modify fun w => { w with held := w.held.erase place }
  dropFrontend P place

end

end Multiplex.Session
