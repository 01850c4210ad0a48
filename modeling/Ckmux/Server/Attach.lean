import Mathlib
import Ckmux.Server.Snapshot

/-!
# Who reads a session

A client attaches to a session and takes it over, joins it or only watches; a reader
says what it or the others may do from now on; and a session's desktop follows the
screens of its readers as the reader has configured.
-/

namespace Ckmux

open Grammar (Bytes)

/-- A cell's size in pixels, from an area measured in both. -/
def cellMetric (columns rows pixelWidth pixelHeight : UInt16) : Size :=
  if columns = 0 ∨ rows = 0 then {}
  else ⟨pixelWidth.toNat / columns.toNat, pixelHeight.toNat / rows.toNat⟩

/-- A desktop that is there already, and a screen that arrives. -/
def DesktopSizePolicy.fit (policy : DesktopSizePolicy) (desktop arriving : Size) : Size :=
  match policy with
  | .fixed => desktop
  | .fitSmallest => ⟨min desktop.width arriving.width, min desktop.height arriving.height⟩
  | .fitLatest => arriving

/-- Whether there is anything of a screen. -/
def Size.positive (size : Size) : Bool := size.width > 0 ∧ size.height > 0

/-- The mode an attach asks for. One this build does not know is a takeover. -/
def attachModeOf (request : Proto.Attach) : AttachMode :=
  (AttachMode.ofWire request.mode).getD .takeOver

namespace Server

/-- The session an attach asks for: nought is whichever there is, or a new one. -/
def attachSession (server : Server) (request : Proto.Attach) : Option Session × Server :=
  match server.sessionFor request.session with
  | some session => (some session, server)
  | none =>
      if request.session ≠ 0 then (none, server)
      else
        match server.sessions with
        | first :: _ => (some first, server)
        | [] =>
            let made := server.createSession []
            (some made.1, made.2)

/-- The desktop of a session that a client of some size attaches to. -/
def arrivingDesktop (server : Server) (session : Session) (arriving : Size) : Size :=
  if ¬arriving.positive then session.desktop
  else if ¬session.desktop.positive then arriving
  else server.settings.desktopSize.fit session.desktop arriving

/-- A session taken from whoever holds it. -/
def takeOver (server : Server) (id : ClientId) (session : SessionId) : Server :=
  match server.clientAttachedTo session with
  | none => server
  | some previous =>
      if previous.id = id then server
      else
        server.detach previous.id .takeover
          (utf8 "taken over by another client on this machine")

/-- What an attached client has said of itself. -/
def settle (request : Proto.Attach) (session : SessionId) (client : Client) : Client :=
  { client with
    attached := true
    session := session
    mode := attachModeOf request
    dirtySnapshot := false
    hostSixel := request.hostSixel ≠ 0
    desktop :=
      if request.columns > 0 ∧ request.rows > 0 then
        ⟨request.columns.toNat, request.rows.toNat⟩
      else client.desktop
    cellPixels :=
      if request.columns > 0 ∧ request.rows > 0 then
        cellMetric request.columns request.rows request.pixelWidth request.pixelHeight
      else client.cellPixels }

/-- A client in a session, whose desktop and other readers it finds as its request has
them. -/
def seat (server : Server) (id : ClientId) (request : Proto.Attach) (session : Session) : Server :=
  let arriving : Size := ⟨request.columns.toNat, request.rows.toNat⟩
  let sized := server.setSession session.id fun session =>
    { session with desktop := server.arrivingDesktop session arriving }
  let granted :=
    if attachModeOf request = .takeOver then sized.takeOver id session.id else sized
  granted.setClient id (settle request session.id)

/-- A client attaches: the session is found or made, others are detached if it takes over, and it is
shown all there is. -/
def attach [Emulator] (server : Server) (id : ClientId) (request : Proto.Attach) : Server :=
  match server.attachSession request with
  | (none, server) => server.refuse id .noSuchSession (utf8 "Attach") (utf8 "no such session")
  | (some session, server) =>
      { (server.seat id request session).sendSnapshot id with sessionListDirty := true }

/-! ### Reader modes -/

/-- Everybody else's mode. Only those for whom it changes are told. -/
def setOthersMode (server : Server) (id : ClientId) (session : SessionId) (mode : AttachMode) :
    Server :=
  server.forEachAttached session fun server each =>
    match server.client each with
    | none => server
    | some other =>
        if each = id ∨ other.mode = mode then server
        else
          (server.setClient each fun other => { other with mode := mode }).send each
            (.readerMode ⟨mode.toWire⟩)

/-- Everybody else detached. -/
def evictOthers (server : Server) (id : ClientId) (session : SessionId) : Server :=
  let going := ((server.readers session).map Client.id).filter fun each => each ≠ id
  going.foldl (fun server each =>
    match server.client each with
    | none => server
    | some other =>
        if ¬other.stream.isOpen then server
        else server.detach each .takeover (utf8 "another reader took this session over")) server

/-- A client's own mode is changed, or everybody else's is, or they are detached. -/
def handleSetReaderMode (server : Server) (id : ClientId) (wish : Proto.SetReaderMode) : Server :=
  match server.client id with
  | none => server
  | some client =>
      let refused := fun code text => server.refuse id code (utf8 "SetReaderMode") (utf8 text)
      match server.sessionOf client, ReaderScope.ofWire wish.scope, AttachMode.ofWire wish.mode with
      | none, _, _ =>
          refused .noSuchSession "attach to a session before changing what its readers may do"
      | some _, none, _ =>
          refused .invalidRequest "a reader mode is aimed either at you or at the others"
      | some _, some _, none => refused .invalidRequest "no such reader mode"
      | some _, some .me, some .takeOver =>
          refused .invalidRequest
            "attaching is how a session is taken; aim this at the other readers"
      | some _, some .me, some mode =>
          server.setClient id fun client => { client with mode := mode }
      | some session, some .others, some .takeOver => server.evictOthers id session.id
      | some session, some .others, some mode => server.setOthersMode id session.id mode

/-! ### Desktops -/

/-- How many readers with a screen a session has. -/
def screens (server : Server) (session : SessionId) : Nat :=
  (server.clients.filter fun client =>
    client.attached && client.kind = .ui && client.session = session).length

/-- The desktop a session has once one of its readers' screens is of another size. -/
def resizedDesktop (server : Server) (session : Session) (arriving : Size) : Size :=
  if server.screens session.id ≤ 1 then arriving
  else server.settings.desktopSize.fit session.desktop arriving

/-- A desktop changed, and everybody told. -/
def changeDesktop (server : Server) (session : Session) (wanted : Size) : Server :=
  if ¬wanted.positive ∨ wanted = session.desktop then server
  else
    (server.setSession session.id fun session =>
      { session with desktop := wanted }).announceLayout session.id

/-- What a client says of its screen is kept, and moves the desktop as the policy has it. -/
def clientResize (server : Server) (id : ClientId) (resize : Proto.ClientResize) : Server :=
  let arriving : Size := ⟨resize.columns.toNat, resize.rows.toNat⟩
  let measured := server.setClient id fun client =>
    { client with
      desktop := arriving
      cellPixels := cellMetric resize.columns resize.rows resize.pixelWidth resize.pixelHeight }
  match (measured.client id).bind fun client => measured.sessionFor client.session with
  | none => measured
  | some home =>
      if ¬arriving.positive then measured
      else measured.changeDesktop home (measured.resizedDesktop home arriving)

/-- The desktop of the client's session becomes the size asked for. -/
def setDesktopSize (server : Server) (id : ClientId) (fit : Proto.SetDesktopSize) : Server :=
  match (server.client id).bind fun client => server.sessionFor client.session with
  | none => server
  | some home => server.changeDesktop home ⟨fit.columns.toNat, fit.rows.toNat⟩

end Server

end Ckmux
