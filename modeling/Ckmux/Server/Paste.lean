import Mathlib
import Ckmux.Proto.Frame
import Ckmux.Semantics.System
import Ckmux.Terminal.Subsession

/-!
# Pastes

One paste at a time goes to a terminal. The first chunk of a paste takes the
terminal's slot and the final one releases it; a chunk from anyone else waits, and
is written when the slot is drained. Every chunk written is acknowledged, and an
acknowledgement may find its client so far behind that it is dropped, which
releases what that client held and drains again.

The calls that are still to return are kept as a list of tasks, the next first, and
each is carried out as a step of its own. How much a client's socket has queued,
and in what order the slots are gone through, are the step's to say. Attaching,
detaching and moving a terminal leave every slot as it is, so they are no steps here;
whether a client only watches comes with its chunk.
-/

namespace Ckmux

open Proto (PasteChunk)
open Semantics (System)

/-- A client of the server, by number. -/
abbrev ClientId := Nat

/-- Neither a client's id nor a terminal's is ever given out again. -/
inductive Life where
  | unborn | live | gone
deriving DecidableEq

/-- A chunk as a client sent it. Which of the client's pastes to the terminal it is
part of, counted from nought, is kept beside it. -/
structure PendingPaste where
  client : ClientId
  chunk : PasteChunk
  paste : Nat

/-- The chunk says it is its paste's last. -/
def PendingPaste.finished (pending : PendingPaste) : Bool := pending.chunk.finalChunk ≠ 0

/-- A terminal's turn at pasting: whose it is, and what waits behind it. -/
structure PasteSlot where
  /-- Nobody is in the middle of a paste when it is nought. -/
  owner : ClientId := 0
  waiting : List PendingPaste := []

/-- A slot without what a client held of it. -/
def PasteSlot.without (slot : PasteSlot) (client : ClientId) : PasteSlot where
  owner := if slot.owner = client then 0 else slot.owner
  waiting := slot.waiting.filter fun pending => pending.client ≠ client

/-- A call that is still to return. -/
inductive PasteTask where
  | drain (term : TerminalId)
  | ack (pending : PendingPaste)
  | close (client : ClientId)
  | remove (term : TerminalId)

/-- The server as pasting sees it. `arrived`, `written` and `acked` are the logs of what has come,
what has been typed and what has been answered. -/
structure PasteServer where
  clients : ClientId → Life
  terminals : TerminalId → Life
  slots : TerminalId → Option PasteSlot
  tasks : List PasteTask
  arrived : List PendingPaste
  written : List PendingPaste
  acked : List PendingPaste

/-- What a socket may have queued before its client is dropped. -/
def kHardLimitBytes : Nat := 32 * 1024 * 1024

/-- How many chunks a client sends before it waits for one to be acknowledged. -/
def kPasteCredit : Nat := 2

namespace PasteServer

/-- What one client has sent to one terminal. -/
def sentTo (client : ClientId) (term : TerminalId) (log : List PendingPaste) : List PendingPaste :=
  log.filter fun pending => pending.client = client ∧ pending.chunk.term = term

/-- What has been written to one terminal's child. -/
def writtenTo (server : PasteServer) (term : TerminalId) : List PendingPaste :=
  server.written.filter fun pending => pending.chunk.term = term

/-- The server with one terminal's slot replaced. -/
def putSlot (server : PasteServer) (term : TerminalId) (slot : PasteSlot) : PasteServer :=
  { server with slots := Function.update server.slots term (some slot) }

/-- One chunk written, to be acknowledged; and the slot taken, or released and then
drained. -/
def writePasteChunk (server : PasteServer) (pending : PendingPaste) : PasteServer :=
  let term := pending.chunk.term
  let slot := (server.slots term).getD {}
  { server with
    written := server.written ++ [pending]
    slots := Function.update server.slots term
      (some { slot with owner := if pending.finished then 0 else pending.client })
    tasks := .ack pending ::
      ((if pending.finished then [.drain term] else []) ++ server.tasks) }

/-- Everything that waits for a terminal acknowledged, and nothing written. -/
def forgetPasteSlot (server : PasteServer) (term : TerminalId) : PasteServer :=
  match server.slots term with
  | none => server
  | some slot =>
      { server with
        slots := Function.update server.slots term none
        tasks := slot.waiting.map .ack ++ server.tasks }

/-- One pass of the loop that hands a free slot to whoever has waited longest. -/
def drainPasteSlot (server : PasteServer) (term : TerminalId) : PasteServer :=
  match server.slots term with
  | none => server
  | some slot =>
      if slot.owner ≠ 0 then server
      else match slot.waiting with
        | [] => { server with slots := Function.update server.slots term none }
        | next :: waiting =>
            let popped := server.putSlot term { slot with waiting := waiting }
            if server.terminals term ≠ .live then popped.forgetPasteSlot term
            -- Its reader left while it waited; the next in line gets the slot.
            else if server.clients next.client ≠ .live then
              { popped with tasks := .drain term :: server.tasks }
            else popped.writePasteChunk next

/-- What a client held released: the sweep, and then a drain of each slot it freed. -/
def releasePasteSlots (server : PasteServer) (client : ClientId) (order : List TerminalId) :
    PasteServer :=
  let freed := order.filter fun term =>
    ((server.slots term).map fun slot => slot.owner) = some client
  { server with
    slots := fun term => (server.slots term).map fun slot => slot.without client
    tasks := freed.map .drain ++ server.tasks }

/-- A client dropped: its slots are released before its stream is closed. -/
def drop (server : PasteServer) (client : ClientId) (order : List TerminalId) : PasteServer :=
  releasePasteSlots { server with tasks := .close client :: server.tasks } client order

/-- An acknowledgement sent, unless the client is gone or too far behind to keep. -/
def sendAck (server : PasteServer) (pending : PendingPaste) (queued : Nat)
    (order : List TerminalId) : PasteServer :=
  if server.clients pending.client ≠ .live then server
  else if queued + (Proto.encode (.pasteAck ⟨pending.chunk.seq⟩)).length > kHardLimitBytes then
    server.drop pending.client order
  else { server with acked := server.acked ++ [pending] }

/-- A chunk as it arrives: as many of its client's pastes to the terminal are over. -/
def pendingPaste (server : PasteServer) (client : ClientId) (chunk : PasteChunk) : PendingPaste where
  client := client
  chunk := chunk
  paste := ((sentTo client chunk.term server.arrived).filter PendingPaste.finished).length

/-- A chunk from a client. One that only watches is answered and nothing written. -/
def handlePasteChunk (server : PasteServer) (client : ClientId) (chunk : PasteChunk)
    (watching : Bool) : PasteServer :=
  let pending := server.pendingPaste client chunk
  let told := { server with arrived := server.arrived ++ [pending] }
  if watching then { told with tasks := .ack pending :: server.tasks }
  else if server.terminals chunk.term ≠ .live then
    forgetPasteSlot { told with tasks := .ack pending :: server.tasks } chunk.term
  else
    let slot := (server.slots chunk.term).getD {}
    if slot.owner ≠ 0 ∧ slot.owner ≠ client then
      told.putSlot chunk.term { slot with waiting := slot.waiting ++ [pending] }
    else writePasteChunk (told.putSlot chunk.term slot) pending

/-- The next task carried out. -/
def work (server : PasteServer) (queued : Nat) (order : List TerminalId) : PasteServer :=
  match server.tasks with
  | [] => server
  | .drain term :: tasks => drainPasteSlot { server with tasks := tasks } term
  | .ack pending :: tasks => sendAck { server with tasks := tasks } pending queued order
  | .close client :: tasks =>
      { server with tasks := tasks, clients := Function.update server.clients client .gone }
  | .remove term :: tasks =>
      { server with tasks := tasks, terminals := Function.update server.terminals term .gone }

end PasteServer

/-! ### Runs -/

/-- What happens to the pasting side of the server. -/
inductive PasteEvent where
  | connect (client : ClientId)
  | spawn (term : TerminalId)
  | arrive (client : ClientId) (chunk : PasteChunk) (watching : Bool)
  | drop (client : ClientId) (order : List TerminalId)
  | remove (term : TerminalId)
  | kill (term : TerminalId)
  | work (queued : Nat) (order : List TerminalId)

/-- Every slot is gone through. -/
def Lists (server : PasteServer) (order : List TerminalId) : Prop :=
  ∀ term, server.slots term ≠ none → term ∈ order

/-- The server after one event. -/
def PasteServer.step (server : PasteServer) : PasteEvent → PasteServer
  | .connect client => { server with clients := Function.update server.clients client .live }
  | .spawn term => { server with terminals := Function.update server.terminals term .live }
  | .arrive client chunk watching => server.handlePasteChunk client chunk watching
  | .drop client order => server.drop client order
  | .remove term => PasteServer.forgetPasteSlot { server with tasks := .remove term :: server.tasks } term
  -- The end of a session closes its terminals without a word to their slots.
  | .kill term => { server with terminals := Function.update server.terminals term .gone }
  | .work queued order => server.work queued order

/-- Any number of clients, and any order of chunks, drops and drains: the server asks
nothing of how many chunks a client has unacknowledged. A message is handled when the
one before it has been. -/
def pasteSystem : System PasteServer PasteEvent where
  initial server :=
    server.clients = (fun _ => .unborn) ∧ server.terminals = (fun _ => .unborn) ∧
      server.slots = (fun _ => none) ∧ server.tasks = [] ∧ server.arrived = [] ∧
      server.written = [] ∧ server.acked = []
  allows server
    | .connect client => server.tasks = [] ∧ client ≠ 0 ∧ server.clients client = .unborn
    | .spawn term => server.tasks = [] ∧ server.terminals term = .unborn
    | .arrive client _ _ => server.tasks = [] ∧ server.clients client = .live
    | .drop client order => server.tasks = [] ∧ server.clients client = .live ∧ Lists server order
    | .remove term => server.tasks = [] ∧ server.terminals term = .live
    | .kill term => server.tasks = [] ∧ server.terminals term = .live
    | .work _ order => server.tasks ≠ [] ∧ Lists server order
  step := PasteServer.step

/-- A step of the system is a step of the server. -/
@[simp] theorem pasteSystem_step : pasteSystem.step = PasteServer.step := rfl

/-- No client sends a chunk while as many of its chunks as it may have are unacknowledged. -/
def inCredit (server : PasteServer) : PasteEvent → Prop
  | .arrive client _ _ =>
      (server.arrived.filter fun pending => pending.client = client).length <
        (server.acked.filter fun pending => pending.client = client).length + kPasteCredit
  | _ => True

instance (server : PasteServer) : ∀ event : PasteEvent, Decidable (inCredit server event)
  | .arrive .. => inferInstanceAs (Decidable (_ < _))
  | .connect _ | .spawn _ | .drop .. | .remove _ | .kill _ | .work .. => .isTrue trivial

/-- The runs of clients that keep to their credit, as a client of one connection does
that never gives a paste up. -/
def creditSystem : System PasteServer PasteEvent :=
  pasteSystem.guarded inCredit

/-- A step within the credit is a step of the server. -/
@[simp] theorem creditSystem_step : creditSystem.step = PasteServer.step := rfl

end Ckmux
