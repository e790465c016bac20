import Multiplex.Section.Reader
import Multiplex.Session.Frontend

/-!
# Filters of a session

A manager belongs to a demux of an open frontend and keeps the filters that were opened there. A
filter is opened, programmed and registered; whatever fails before it is registered, its nodes are
closed again. A filter that is registered takes commands and delivers data until it is closed, and
whoever holds it afterwards only learns that it is closed.
-/

namespace Multiplex.Session

open Multiplex.Calendar Multiplex.Device Multiplex.Demux

variable (P : Platform σ)

/-- Starts to manage the filters of a demux; gives the manager's place. -/
def newManager (frontend : Nat) (demux : UInt32) : Attempt σ Nat := do
  let w ← get
  match w.frontends[frontend]? with
  | none => throw (.notFound "frontend")
  | some f =>
    if f.isOpen then
      let m : Manager := ⟨f.node.adapter, demux, some frontend, .empty⟩
      set { w with managers := w.managers ++ [m] }
      return w.managers.length
    else throw (.badParameter "frontend is not open")

/-- The failure of an operation on a manager that is closed. -/
def Manager.closedFailure (m : Manager) : Failure :=
  .notFound ("demux" ++ toString m.demux.toNat ++ " on adapter" ++ toString m.adapter.toNat ++
    " is closed")

/-- A manager that is not closed. -/
def openManager (place : Nat) : Attempt σ Manager := do
  match (← get).managers[place]? with
  | none => throw (.notFound "manager")
  | some m => if m.frontend?.isSome then return m else throw m.closedFailure

/-- Closes the nodes of a filter that could not be set up, the dvr first. -/
def abandonNodes (nodes : FilterNodes) : Act σ Unit := do
  if let some dvr := nodes.dvr? then abandon P dvr "dvr node"
  abandon P nodes.demux "demux node"

/-- Runs a step of setting up a filter; if it fails, the nodes are closed again. -/
def orAbandon (nodes : FilterNodes) (step : Attempt σ α) : Attempt σ α := do
  match ← outcome step with
  | .ok a => return a
  | .error f =>
    abandonNodes P nodes
    throw f

/-- Registers the nodes of a filter, if the manager has not been closed in the meantime. -/
def register (place : Nat) (nodes : FilterNodes) (kind : FilterKind) : Attempt σ Filter := do
  let m ← orAbandon P nodes (openManager place)
  let (id, filters) := m.filters.insert nodes
  let f : Filter := ⟨place, id, kind⟩
  modify fun w => { w.setManager place { m with filters } with
    trace := w.trace ++ [.registered f nodes]
    filters := w.filters ++ [f] }
  return f

/-- Opens a section filter. -/
def newSectionFilter (place : Nat) (settings : SectionSettings) : Attempt σ Filter := do
  let program ← settings.program
  let m ← openManager place
  let nodes : FilterNodes := ⟨← openNode P .demux m.adapter m.demux, none⟩
  orAbandon P nodes (command P "DMX_SET_FILTER" nodes.demux (.setSectionFilter program))
  register P place nodes (.sections settings.pid settings.tableId)

/-- Opens a stream filter, and a dvr node if it delivers there. -/
def newStreamFilter (place : Nat) (pid : UInt16) (input : StreamInput) (output : StreamOutput)
    (pesType : PesType) : Attempt σ Filter := do
  let program ← streamProgram pid input output pesType
  let m ← openManager place
  let demux ← openNode P .demux m.adapter m.demux
  let dvr? ← orAbandon P ⟨demux, none⟩ do
    if output = .tsTap then return some (← openNode P .dvr m.adapter m.demux) else return none
  let nodes : FilterNodes := ⟨demux, dvr?⟩
  orAbandon P nodes (command P "DMX_SET_PES_FILTER" demux (.setStreamFilter program))
  register P place nodes (.stream pid input output pesType)

/-- The failure of an operation on a filter that is closed. -/
def Filter.closedFailure (f : Filter) : Failure := .notFound (f.id.text ++ " is closed")

/-- Ends the use of a filter. If it was closed in the meantime, its nodes are let go of. -/
def leave (f : Filter) (nodes : FilterNodes) : Act σ Unit := do
  modify fun w => { w with busy? := none }
  if !(← get).isLive f then
    letGo P nodes.demux
    if let some dvr := nodes.dvr? then letGo P dvr

/-- Uses the nodes of a filter that is not closed. -/
def withNodes (f : Filter) (op : FilterNodes → Attempt σ α) : Attempt σ α := do
  match (← get).nodes? f with
  | none => throw f.closedFailure
  | some nodes =>
    modify fun w => { w with busy? := some nodes.demux.number }
    let r ← outcome (op nodes)
    (leave P f nodes : Act σ Unit)
    ExceptT.mk (return r)

/-- Starts a filter. -/
def start (f : Filter) : Attempt σ Unit :=
  withNodes P f fun nodes => command P "DMX_START" nodes.demux .start

/-- Stops a filter. -/
def stop (f : Filter) : Attempt σ Unit :=
  withNodes P f fun nodes => command P "DMX_STOP" nodes.demux .stop

/-- Adds a PID to a filter. -/
def addPid (f : Filter) (pid : UInt16) : Attempt σ Unit := do
  checkPid pid
  withNodes P f fun nodes => command P "DMX_ADD_PID" nodes.demux (.addPid pid)

/-- Adds PIDs to a filter, up to the first that fails. -/
def addPids (f : Filter) : List UInt16 → Attempt σ Unit
  | [] => return
  | pid :: rest => do
    addPid P f pid
    addPids f rest

/-- Takes a PID from a filter. -/
def removePid (f : Filter) (pid : UInt16) : Attempt σ Unit := do
  checkPid pid
  withNodes P f fun nodes => command P "DMX_REMOVE_PID" nodes.demux (.removePid pid)

/-- Sets the size of the buffer that a filter delivers from. -/
def setBufferSize (f : Filter) (size : UInt32) : Attempt σ Unit :=
  withNodes P f fun nodes => command P "DMX_SET_BUFFER_SIZE" nodes.source (.setBufferSize size)

/-- The PIDs of a decoder's five streams. -/
def pesPids (f : Filter) : Attempt σ (List UInt16) :=
  withNodes P f fun nodes => command P "DMX_GET_PES_PIDS" nodes.demux .pesPids

/-- A counter of system time. -/
def clock (f : Filter) (number : UInt32) : Attempt σ SystemClock :=
  withNodes P f fun nodes => command P "DMX_GET_STC" nodes.demux (.clock number)

/-! ### Reading -/

/-- Waits for data on a node. -/
def wait (node : Node) (left? : Option Nat) : Act σ (Except SystemError Waited) := do
  let answer ← match ← meanwhile P (.wait node) with
    | .ok () => onDevice (P.wait node left?)
    | .error cause => pure (.error cause)
  record (.waited node answer)
  return answer

/-- Takes data from a node. -/
def fetch (node : Node) : Act σ (Except SystemError (List UInt8)) := do
  let answer ← match ← meanwhile P (.read node) with
    | .ok () => onDevice (P.read node)
    | .error cause => pure (.error cause)
  record (.fetched node answer)
  return answer

/-- Refuses to go on with a filter that is closed. -/
def checkLive (f : Filter) : Attempt σ Unit := do
  if !(← get).isLive f then throw f.closedFailure

/-- Waits and reads until there is data, the time is up, the filter is closed, or the device
refuses; for `rounds` rounds at most. Reads that found nothing after all are tried again. Gives
nothing if the rounds are over first. -/
def readRounds (f : Filter) (node : Node) :
    (rounds : Nat) → (left? : Option Nat) → Attempt σ (Option (List UInt8))
  | 0, _ => return none
  | rounds + 1, left? => do
    checkLive f
    if left? = some 0 then throw (.system .timedOut)
    match ← wait P node left? with
    | .error cause => throw (.command "poll" cause)
    | .ok (.idle elapsed) => readRounds f node rounds (left?.map (· - elapsed))
    | .ok .ready =>
      checkLive f
      match ← fetch P node with
      | .ok bytes => return some bytes
      | .error cause =>
        if cause.isTransient then readRounds f node rounds left?
        else throw (.command "read" cause)

/-- Reads what a filter delivers next into a buffer; what does not fit is lost. Without a timeout it
waits for as long as it takes; it gives nothing if the device has nothing more to say. -/
def read (f : Filter) (size : Nat) (timeout? : Option Duration) : Attempt σ (Option (List UInt8)) :=
  withNodes P f fun nodes => do
    let rounds := P.patience nodes.source (← get).device
    let data? ← readRounds P f nodes.source rounds (timeout?.map (·.totalNanos))
    return data?.map (·.take size)

/-- The size of the buffer for sections. -/
def sectionBufferSize : Nat := 4096

/-- Reads the bytes of a section. -/
def readRawSection (f : Filter) (timeout? : Option Duration) : Attempt σ (Option (List UInt8)) :=
  read P f sectionBufferSize timeout?

/-- Reads a section. -/
def readSection (f : Filter) (timeout? : Option Duration) : Attempt σ (Option Section) := do
  match ← readRawSection P f timeout? with
  | none => return none
  | some raw =>
    match Section.decode raw with
    | .ok s => return some s
    | .error cause => throw (.decode cause)

end Multiplex.Session
