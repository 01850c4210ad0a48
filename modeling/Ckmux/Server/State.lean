import Mathlib
import Ckmux.Server.Paste
import Ckmux.Server.Terminals

/-!
# The server's state

The clients in the order they connected, the terminals, the sessions that hold them,
and what is to be told to whom. A frame is queued on a client's socket, which takes
as much of it as the other end has room for; `kernel` is what the sockets will answer,
one answer for a write, and nothing when the other end is gone.

The paste slots are a component of their own: a chunk to be pasted is handed to it,
as is a client whose slots are released or a terminal whose slot is forgotten. The statistics a client may ask for are not
modelled, but for its wish to have them.
-/

namespace Ckmux

open Grammar (Bytes)
open Proto (Message)

/-- A session, by number. None has number nought. -/
abbrev SessionId := UInt64

/-- What a reader means to do: have the session to itself, share it, or only look. -/
inductive AttachMode where
  | takeOver | join | watch
deriving DecidableEq

/-- The mode a byte on the wire names, if any. -/
def AttachMode.ofWire (byte : UInt8) : Option AttachMode :=
  if byte = 0 then some .takeOver
  else if byte = 1 then some .join
  else if byte = 2 then some .watch
  else none

/-- The byte a mode goes by. -/
def AttachMode.toWire : AttachMode → UInt8
  | .takeOver => 0
  | .join => 1
  | .watch => 2

/-- Whose mode is asked to change. -/
inductive ReaderScope where
  | me | others
deriving DecidableEq

/-- The scope a byte stands for. -/
def ReaderScope.ofWire (byte : UInt8) : Option ReaderScope :=
  if byte = 0 then some .me else if byte = 1 then some .others else none

/-- Why a request was refused. -/
inductive ErrorCode where
  | unknown | notImplemented | noSuchTerminal | noSuchSession | nameTaken | limitReached
  | readOnly | invalidRequest
deriving DecidableEq

/-- The number a refusal goes by. -/
def ErrorCode.toWire : ErrorCode → UInt16
  | .unknown => 0
  | .notImplemented => 1
  | .noSuchTerminal => 2
  | .noSuchSession => 3
  | .nameTaken => 4
  | .limitReached => 5
  | .readOnly => 6
  | .invalidRequest => 7

/-- What the desktop's size follows. -/
inductive DesktopSizePolicy where
  | fixed | fitSmallest | fitLatest
deriving DecidableEq

/-- What becomes of a terminal whose child has ended. -/
inductive ExitPolicy where
  | close | hold | holdOnError
deriving DecidableEq

/-- What the reader has configured, as far as the server asks. `build` is the name this
build goes by. -/
structure Settings where
  build : Bytes := []
  workingDirectory : Bytes := utf8 "/"
  maxTerminals : Int := 64
  killEmptySession : Bool := true
  onExit : ExitPolicy := .holdOnError
  osc52 : Bool := true
  desktopSize : DesktopSizePolicy := .fixed
  printerMode : Proto.PrinterMode := .ask
  printerAskCacheBytes : Nat := 256 * 1024
  printerSpoolLimitBytes : Nat := 1024 * 1024

/-- A session: its terminals in order, the desktop they are laid out on, and what was focused last.
-/
structure Session where
  id : SessionId
  name : Bytes
  terminals : List TerminalId := []
  lastFocused : UInt64 := 0
  desktop : Size := {}
  printer : PrinterOverride := {}
deriving DecidableEq

/-- What a socket may have queued before a client is told less. -/
def kHighWaterBytes : Nat := 4 * 1024 * 1024

/-- How much screen may be queued ahead of a reader. -/
def kDeltaBacklogBytes : Nat := 256 * 1024

/-- One end of a connection. Every frame ever queued whole is in `sent`. -/
structure Socket where
  isOpen : Bool := true
  writeFailed : Bool := false
  queued : Nat := 0
  sent : List Message := []

/-- A frame queued, and as much of the queue written as the other end takes. -/
def Socket.send (socket : Socket) (message : Message) (length : Nat) (taken : Option Nat) :
    Socket :=
  if socket.writeFailed then socket
  else
    match taken with
    | none => { socket with writeFailed := true, queued := 0 }
    | some bytes =>
        { socket with
          queued := socket.queued + length - bytes
          sent := socket.sent ++ [message] }

/-- As much of the queue written as the other end takes. -/
def Socket.flush (socket : Socket) (taken : Option Nat) : Socket :=
  if socket.writeFailed then socket
  else
    match taken with
    | none => { socket with writeFailed := true, queued := 0 }
    | some bytes => { socket with queued := socket.queued - bytes }

/-- Is there room for another screen?. -/
def Socket.readyForScreen (socket : Socket) : Bool := socket.queued ≤ kDeltaBacklogBytes

/-- Is more queued than a client is to have?. -/
def Socket.overHighWater (socket : Socket) : Bool := socket.queued > kHighWaterBytes

/-- A connection, and what is known of who is at the other end. -/
structure Client where
  id : ClientId
  stream : Socket := {}
  greeted : Bool := false
  kind : Proto.ClientKind := .ui
  awaitingSessionRemoval : SessionId := 0
  awaitingKillFromMismatchedCli : Bool := false
  mismatchKillDeadlineNanos : Int := 0
  attached : Bool := false
  session : SessionId := 0
  mode : AttachMode := .takeOver
  desktop : Size := {}
  cellPixels : Size := {}
  hostSixel : Bool := false
  focused : UInt64 := 0
  dirtySnapshot : Bool := false
  owed : PictureDebt := {}
  drainingHeal : Bool := false
  closing : Bool := false
  watchStats : Bool := false
  statsDeadAnnounced : List TerminalId := []

/-- Whether a client may only look. -/
def Client.watching (client : Client) : Bool := client.mode = .watch

/-- What a message changes of the deaths a client has been told of. -/
def Client.hear (message : Message) (client : Client) : Client :=
  match message with
  | .attached _ | .detached _ => { client with statsDeadAnnounced := [] }
  | .termClosed closed =>
      if closed.hold ≠ 0 then client
      else { client with
        statsDeadAnnounced := client.statsDeadAnnounced.filter fun term => term ≠ closed.term }
  | _ => client

/-- A client that is no longer attached. Its debt was its attachment's. -/
def Client.leave (client : Client) : Client :=
  { client with
    attached := false
    dirtySnapshot := false
    owed := {}
    drainingHeal := false }

/-- A client whose connection is given up. -/
def Client.close (client : Client) : Client :=
  { client with
    attached := false
    closing := true
    stream := { client.stream with isOpen := false } }

/-- A client that has missed something. -/
def Client.fallBehind (client : Client) : Client := { client with dirtySnapshot := true }

/-- A client that is sent everything. -/
def Client.catchUp (client : Client) : Client := { client with dirtySnapshot := false }

/-- A session that is being ended, and the time its children have for it. -/
structure PendingKill where
  session : SessionId
  deadlineNanos : Int
  force : Bool
  killDeadlineNanos : Int := 0
  killed : Bool := false

/-- A terminal that is being closed, and the time its child has for it. -/
structure PendingClose where
  term : TerminalId
  deadlineNanos : Int
  force : Bool
  killDeadlineNanos : Int := 0
  killed : Bool := false

/-- The server between two events. `writes` counts the writes so far, `kernel` says how much each of
them takes, and `nowNanos` is the clock. -/
structure Server where
  settings : Settings := {}
  clients : List Client := []
  nextClient : ClientId := 1
  terminals : List Terminal := []
  nextTerminal : TerminalId := 1
  diffs : TerminalId → TerminalDiffer := fun _ => {}
  pictures : TerminalId → List BelievedRaster := fun _ => []
  nextImageId : WireId := 1
  sessions : List Session := []
  nextSession : SessionId := 1
  kills : List PendingKill := []
  closes : List PendingClose := []
  aSessionHasExisted : Bool := false
  sessionListDirty : Bool := false
  running : Bool := true
  nowNanos : Int := 0
  kernel : Nat → Option Nat
  writes : Nat := 0
  pasted : List (ClientId × Proto.PasteChunk) := []
  released : List ClientId := []
  forgotten : List TerminalId := []

/-- Whether a client is attached to a session. -/
def Client.reads (client : Client) (id : SessionId) : Bool :=
  client.attached && !client.closing && client.session = id

namespace Server

/-! ### Looking things up -/

section

variable (server : Server)

/-- The client of that number. -/
def client (id : ClientId) : Option Client := server.clients.find? fun client => client.id = id

/-- The terminal of that number. -/
def terminal (id : TerminalId) : Option Terminal :=
  server.terminals.find? fun terminal => terminal.id = id

/-- The session of that number. -/
def sessionFor (id : SessionId) : Option Session :=
  server.sessions.find? fun session => session.id = id

/-- The session a client is attached to, if it is to any. -/
def sessionOf (client : Client) : Option Session :=
  if client.attached then server.sessionFor client.session else none

/-- The session a terminal is in. -/
def sessionHolding (term : TerminalId) : Option Session :=
  server.sessions.find? fun session => term ∈ session.terminals

/-- Whoever is attached to a session, in the order they connected. -/
def readers (id : SessionId) : List Client := server.clients.filter fun client => client.reads id

/-- The first client that reads a session. -/
def clientAttachedTo (id : SessionId) : Option Client :=
  server.clients.find? fun client => client.reads id

/-- How many read a session. -/
def attachedCount (id : SessionId) : Nat := (server.readers id).length

/-- One client changed. -/
def setClient (id : ClientId) (change : Client → Client) : Server :=
  { server with
    clients := server.clients.map fun client => if client.id = id then change client else client }

/-- One terminal changed. -/
def setTerminal (id : TerminalId) (change : Terminal → Terminal) : Server :=
  { server with
    terminals := server.terminals.map fun terminal =>
      if terminal.id = id then change terminal else terminal }

/-- One session changed. -/
def setSession (id : SessionId) (change : Session → Session) : Server :=
  { server with
    sessions := server.sessions.map fun session =>
      if session.id = id then change session else session }

end

/-! ### Sending -/

/-- A connection given up. What its client held of the paste slots is released. -/
def drop (server : Server) (id : ClientId) : Server :=
  match server.client id with
  | none => server
  | some client =>
      { server with
        released := server.released ++ [id]
        sessionListDirty := server.sessionListDirty || client.attached }.setClient id Client.close

/-- A frame on a client's socket. A client whose socket is full afterwards has missed
something, unless what it was sent is the whole of its session. -/
def queue (server : Server) (id : ClientId) (message : Message) (frame : Bytes) : Server :=
  { server with writes := server.writes + 1 }.setClient id fun client =>
    let stream := client.stream.send message frame.length (server.kernel server.writes)
    let behind := stream.writeFailed || stream.overHighWater
    { client with
      stream := stream
      dirtySnapshot :=
        client.dirtySnapshot || (behind && Proto.typeOf message ≠ Proto.MessageType.attached) }

/-- A message to a client, or what becomes of one that no frame can carry. -/
def deliver (server : Server) (id : ClientId) (message : Message) (refused : Server → Server) :
    Server :=
  match server.client id with
  | none => server
  | some client =>
      if ¬client.stream.isOpen then server
      else
        let heard := server.setClient id (Client.hear message)
        let frame := Proto.encode message
        if frame.isEmpty then refused heard
        else if client.stream.queued + frame.length > kHardLimitBytes then heard.drop id
        else heard.queue id message frame

/-- Anything but a session whole. -/
def tell (server : Server) (id : ClientId) (message : Message) : Server :=
  server.deliver id message fun heard => heard.setClient id Client.fallBehind

/-- A client sent away with a reason. -/
def detach (server : Server) (id : ClientId) (reason : Proto.DetachReason) (text : Bytes) : Server :=
  match server.client id with
  | none => server
  | some client =>
      if ¬client.attached then server
      else
        { (server.setClient id Client.leave).tell id (.detached ⟨reason, text⟩) with
          sessionListDirty := true }

/-- A message to a client. A session no frame can carry is one it cannot stay in. -/
def send (server : Server) (id : ClientId) (message : Message) : Server :=
  match message with
  | .attached _ =>
      server.deliver id message fun heard =>
        heard.detach id .sessionKilled (utf8 "this session is too large to send")
  | _ => server.tell id message

/-- A request refused, with what it was about. -/
def refuse (server : Server) (id : ClientId) (code : ErrorCode) (context human : Bytes) : Server :=
  server.send id (.error ⟨code.toWire, context, human⟩)

/-- What the other end takes of what is queued. -/
def flush (server : Server) (id : ClientId) : Server :=
  { server with writes := server.writes + 1 }.setClient id fun client =>
    { client with stream := client.stream.flush (server.kernel server.writes) }

/-- Something done to every client there is, in the order they connected. -/
def forEachClient (server : Server) (act : Server → Client → Server) : Server :=
  (server.clients.map Client.id).foldl (fun server each =>
    match server.client each with
    | none => server
    | some client => act server client) server

/-- Something done to every terminal there is, in the order they were opened. -/
def forEachTerminal (server : Server) (act : Server → Terminal → Server) : Server :=
  (server.terminals.map Terminal.id).foldl (fun server each =>
    match server.terminal each with
    | none => server
    | some terminal => act server terminal) server

/-- Something done to everybody attached to a session. -/
def forEachAttached (server : Server) (id : SessionId) (act : Server → ClientId → Server) : Server :=
  (server.clients.map Client.id).foldl (fun server each =>
    match server.client each with
    | none => server
    | some client => if client.reads id then act server each else server) server

end Server

end Ckmux
