import Mathlib
import Ckmux.Semantics.System
import Ckmux.Server.Tick

/-!
# Runs of the server

Connections come and go, messages arrive on them, children write, and every so often
there is a tick. What a child has written is whatever its emulator says next. The order
in which chunks of pastes are written is the paste slots' to say, so here any may be
written, and any acknowledged, of a client that is still there.
-/

namespace Ckmux

open Proto (Message PasteChunk)
open Semantics (System)

/-- An emulator that shows nothing. -/
abbrev blankEmulator : Emulator where
  launch _ := ({}, {})
  resize shown _ _ := shown
  pixels _ := ⟨1, 1, [0, 0, 0, 255], rfl⟩

namespace Server

/-- Somebody new, who has said nothing yet. -/
def connect (server : Server) : Server :=
  { server with
    clients := server.clients ++ [{ id := server.nextClient }]
    nextClient := server.nextClient + 1 }

/-- Whether a client's connection is still read. -/
def hears (server : Server) (id : ClientId) : Prop :=
  ∃ client, server.client id = some client ∧ client.stream.isOpen ∧ ¬client.closing

instance (server : Server) (id : ClientId) : Decidable (server.hears id) :=
  decidable_of_iff
    ((server.client id).any (fun client => client.stream.isOpen && !client.closing) = true) (by
      rw [Option.any_eq_true, hears]
      refine exists_congr fun client => and_congr_right fun _ => ?_
      simp)

/-- A socket that can be written to again, or turns out to be gone. -/
def writable (server : Server) (id : ClientId) : Server :=
  let flushed := server.flush id
  if ((flushed.client id).map fun client => client.stream.writeFailed).getD false then
    flushed.drop id
  else flushed

/-- A chunk of a paste, as its child reads it. -/
def writePasteChunk (server : Server) (id : ClientId) (chunk : PasteChunk) : Server :=
  (server.input id ⟨chunk.term, chunk.bytes⟩).send id (.pasteAck ⟨chunk.seq⟩)

/-- What a child has written, as its emulator tells it. -/
def output (server : Server) (id : TerminalId) (session : TerminalSubsession) (program : Program) :
    Server :=
  server.setTerminal id fun terminal =>
    ({ terminal with session := session, program := program }).observeExit

/-- The connections that are over, forgotten. -/
def sweep (server : Server) : Server :=
  { server with
    clients := server.clients.filter fun client => !client.closing && client.stream.isOpen }

end Server

/-- What happens to the server from outside. -/
inductive ServerEvent where
  | connect
  | message (id : ClientId) (message : Message)
  | hangUp (id : ClientId)
  | writable (id : ClientId)
  | paste (id : ClientId) (chunk : PasteChunk)
  | pasteAck (id : ClientId) (seq : UInt32)
  | output (id : TerminalId) (session : TerminalSubsession) (program : Program)
  | wait (now : Int)
  | tick
  | sweep

section

variable [CkVision] [Emulator]

/-- The server after one event. -/
def Server.step (server : Server) : ServerEvent → Server
  | .connect => server.connect
  | .message id message => server.handle id message
  | .hangUp id => server.drop id
  | .writable id => server.writable id
  | .paste id chunk => server.writePasteChunk id chunk
  | .pasteAck id seq => server.send id (.pasteAck ⟨seq⟩)
  | .output id session program => server.output id session program
  | .wait now => { server with nowNanos := now }
  | .tick => server.flushTick
  | .sweep => server.sweep

/-- Any settings and any readers, who may say anything at any time. -/
def serverSystem : System Server ServerEvent where
  initial server :=
    ∃ settings kernel now, server = { settings := settings, kernel := kernel, nowNanos := now }
  allows server
    | .message id _ | .hangUp id | .writable id | .paste id _ | .pasteAck id _ => server.hears id
    | .wait now => server.nowNanos ≤ now
    | _ => True
  step := Server.step

/-- A step of the system is a step of the server. -/
@[simp] theorem serverSystem_step : serverSystem.step = Server.step := rfl

instance (server : Server) : ∀ event, Decidable (serverSystem.allows server event)
  | .message id _ | .hangUp id | .writable id | .paste id _ | .pasteAck id _ =>
      inferInstanceAs (Decidable (server.hears id))
  | .wait now => inferInstanceAs (Decidable (server.nowNanos ≤ now))
  | .connect | .output .. | .tick | .sweep => .isTrue trivial

/-- A server just started, on a host whose sockets take all they are given. -/
def freshServer : Server := { kernel := fun _ => some kHardLimitBytes }

/-- A fresh server is reached. -/
theorem freshServer_reached : serverSystem.Reachable freshServer := .start ⟨{}, _, 0, rfl⟩

end

/-- The greeting of a user interface of our own version. -/
def hello : Message := .hello { protoVersion := Proto.kProtocolVersion, clientKind := .ui }

/-- An attach to the first session, in some mode. -/
def attachTo (mode : AttachMode) : Proto.Attach :=
  { session := 1, columns := 80, rows := 24, mode := mode.toWire }

/-- A client as it stands. -/
def clientOf (server : Server) (id : ClientId) : Client := (server.client id).getD { id := 0 }

end Ckmux
