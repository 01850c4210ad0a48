import Mathlib
import Ckmux.Client.Session
import Ckmux.Semantics.System

/-!
# A reader and its client

What happens to a client: the server says something, a batch of that is over, its reader
goes to a session or does something else there, or the connection is gone. Of what the
client sends, the attaches that no reader asked for are its heals.
-/

namespace Ckmux

open Grammar (Bytes)
open Proto (Message LayoutEntry)
open Semantics (System)

/-- `heals` are the places of the heals in what it has sent. A client is `evicted` that
was told it is detached and whose reader has not gone to a session since. -/
structure Reader where
  session : ServerSession := {}
  heals : List Nat := []
  evicted : Bool := false

/-- What a client may do, and what may happen to it. -/
inductive ReaderEvent where
  | hear (message : Message)
  | heal
  | switchTo (id : SessionId) (mode : AttachMode) (desktop cellPixels : Size)
  | setReaderMode (scope : ReaderScope) (mode : AttachMode)
  | paste (term : TerminalId) (bytes : Bytes)
  | desktopResized (desktop cellPixels : Size)
  | reportLayout (entries : List LayoutEntry)
  | watchStats (on : Bool)
  | capabilities (hostSixel : Bool)
  | leave
  | say (message : Message)
  | lost

/-- Whether a message asks for a session. -/
def Proto.Message.isAttach : Message → Bool
  | .attach _ => true
  | _ => false

namespace ServerSession

variable (session : ServerSession)

/-- To another session, or to the same in another mode. -/
def switchTo (id : SessionId) (mode : AttachMode) (desktop cellPixels : Size) : ServerSession :=
  if session.attached ∧ session.session = id ∧ session.mode = mode then session
  else (session.setAttachMode mode).windowsForgotten.attach id desktop cellPixels

/-- A reader's own mode is remembered. -/
def setReaderMode (scope : ReaderScope) (mode : AttachMode) : ServerSession :=
  if ¬session.attached then session
  else
    (if scope = .me then session.setAttachMode mode else session).request (.setReaderMode
      { scope := if scope = .me then 0 else 1, mode := mode.toWire })

/-- A client that leaves says so, and waits for the answer. -/
def leave : ServerSession := { session with leaving := true }.request (.detach ⟨⟩)

section

variable [CkVision]

/-- Each event carried out. -/
def step : ReaderEvent → ServerSession
  | .hear message => session.handle message
  | .heal => session.healIfNeeded
  | .switchTo id mode desktop cellPixels => session.switchTo id mode desktop cellPixels
  | .setReaderMode scope mode => session.setReaderMode scope mode
  | .paste term bytes => session.paste term bytes
  | .desktopResized desktop cellPixels => session.desktopResized desktop cellPixels
  | .reportLayout entries => session.reportLayout entries
  | .watchStats on => session.setStatsWatched on
  | .capabilities hostSixel => { session with hostSixel := hostSixel }
  | .leave => session.leave
  | .say message => session.request message
  | .lost => session.connectionLost

end

end ServerSession

/-- The places of the attaches among some messages, the first of which is at `base`. -/
def attachPlaces (base : Nat) : List Message → List Nat
  | [] => []
  | message :: messages =>
      (if message.isAttach then [base] else []) ++ attachPlaces (base + 1) messages

/-- A reader going to a session is the reader's own doing. -/
def ReaderEvent.asks : ReaderEvent → Bool
  | .switchTo .. => true
  | _ => false

/-- Whether a client is evicted, told so or asked to be somewhere. -/
def ReaderEvent.evicts (evicted : Bool) : ReaderEvent → Bool
  | .hear (.detached _) => true
  | .switchTo .. | .lost => false
  | _ => evicted

section

variable [CkVision]

/-- Beside each message that asks for a session it is kept whether it was a repair. -/
def Reader.step (reader : Reader) (event : ReaderEvent) : Reader :=
  let session := reader.session.step event
  let said := session.sent.drop reader.session.sent.length
  { session := session
    heals :=
      if event.asks then reader.heals
      else reader.heals ++ attachPlaces reader.session.sent.length said
    evicted := event.evicts reader.evicted }

/-- A client in any state, and a server that may say anything. Windows say what they like,
but attaching is the reader's. -/
def readerSystem : System Reader ReaderEvent where
  initial _ := True
  allows _
    | .say message => message.isAttach = false
    | _ => True
  step := Reader.step

/-- A step of the system is a reader's. -/
@[simp] theorem readerSystem_step : readerSystem.step = Reader.step := rfl

end

end Ckmux
