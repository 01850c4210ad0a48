import Mathlib
import Ckmux.Server.Attach

/-!
# What the server does with a message

A connection says hello first. From then on a client that only watches has every
message refused that would change the session, by one gate in front of all the
handlers; the rest is each message's own.
-/

namespace Ckmux

open Grammar (Bytes)
open Proto (Message MessageType typeOf)

/-- Whether a message would change the session its sender is attached to. -/
def changesTheSession : MessageType → Bool
  | .input | .pasteChunk | .newTerminal | .closeTerminal | .killTerminal | .respawnTerminal
  | .moveTerminal | .renameTerminal | .renameSession | .killSession | .newSession | .setLayout
  | .zoomTerm | .raise | .moveResize | .setDesktopSize | .setPrinterPolicy | .printJobDiscard
  | .killServer => true
  | _ => false

/-- What a message is called when it is refused. -/
def nameOf : MessageType → String
  | .hello => "Hello"
  | .helloAck => "HelloAck"
  | .refuse => "Refuse"
  | .ping => "Ping"
  | .pong => "Pong"
  | .listSessions => "ListSessions"
  | .newSession => "NewSession"
  | .attach => "Attach"
  | .detach => "Detach"
  | .clientResize => "ClientResize"
  | .renameSession => "RenameSession"
  | .killSession => "KillSession"
  | .killServer => "KillServer"
  | .sessionList => "SessionList"
  | .sessionsChanged => "SessionsChanged"
  | .attached => "Attached"
  | .detached => "Detached"
  | .newTerminal => "NewTerminal"
  | .closeTerminal => "CloseTerminal"
  | .killTerminal => "KillTerminal"
  | .respawnTerminal => "RespawnTerminal"
  | .moveTerminal => "MoveTerminal"
  | .moveResize => "MoveResize"
  | .raise => "Raise"
  | .focusTerm => "FocusTerm"
  | .zoomTerm => "ZoomTerm"
  | .renameTerminal => "RenameTerminal"
  | .input => "Input"
  | .pasteChunk => "PasteChunk"
  | .pasteAck => "PasteAck"
  | .setLayout => "SetLayout"
  | .watchStats => "WatchStats"
  | .setDesktopSize => "SetDesktopSize"
  | .setReaderMode => "SetReaderMode"
  | .readerMode => "ReaderMode"
  | .layoutDelta => "LayoutDelta"
  | .termOpened => "TermOpened"
  | .termClosed => "TermClosed"
  | .termMeta => "TermMeta"
  | .gridDelta => "GridDelta"
  | .imageAddBegin => "ImageAddBegin"
  | .imageChunk => "ImageChunk"
  | .imageEnd => "ImageEnd"
  | .imagePlace => "ImagePlace"
  | .imageRemove => "ImageRemove"
  | .clipboardSet => "ClipboardSet"
  | .termDiagnostic => "TermDiagnostic"
  | .termStats => "TermStats"
  | .error => "Error"
  | .setPrinterPolicy => "SetPrinterPolicy"
  | .printState => "PrintState"
  | .printJobAdded => "PrintJobAdded"
  | .printJobFetch => "PrintJobFetch"
  | .printJobData => "PrintJobData"
  | .printJobDiscard => "PrintJobDiscard"

/-- How much of a print job one message carries. -/
def kPrintChunk : Nat := 48 * 1024

/-- The chunks of a print job from some byte on, as they are gone through. A job that kept nothing
still has its one chunk, and no pass is made behind the one that is marked. -/
def chunksFrom (term : TerminalId) (job : HeldJob) (position : Nat) (seq : UInt32) :
    List Proto.PrintJobData :=
  if position < job.text.length ∨ position = 0 then
    let start := min position job.text.length
    let take := min kPrintChunk (job.text.length - start)
    let final := position + kPrintChunk ≥ job.text.length
    { term := term
      job := job.id
      seq := seq
      bytes := (job.text.drop start).take take
      finalChunk := if final then 1 else 0 } ::
      if final then [] else chunksFrom term job (position + kPrintChunk) (seq + 1)
  else []
termination_by job.text.length - position
decreasing_by
  simp only [kPrintChunk] at *
  omega

/-- What a print job is sent as. -/
def printJobData (term : TerminalId) (job : HeldJob) : List Proto.PrintJobData :=
  chunksFrom term job 0 0

namespace Server

/-! ### Greeting -/

/-- The first thing a connection says. -/
def greet (server : Server) (id : ClientId) (message : Message) : Server :=
  match message with
  | .hello hello =>
      if hello.protoVersion ≠ Proto.kProtocolVersion then
        let refused := server.send id (.refuse ⟨
          utf8 "this server speaks protocol version " ++
            utf8 (toString Proto.kProtocolVersion.toNat) ++ utf8 " and the client speaks " ++
            utf8 (toString hello.protoVersion.toNat) ++
            utf8 (". They are the same program, so one of them is from before an " ++
              "upgrade: end the running server with `ckmux kill-server` (every " ++
              "terminal in it is lost) or keep using the client that matches it.")⟩)
        -- A command line may still ask for what the refusal tells it to.
        if hello.clientKind = .cli then
          refused.setClient id fun client =>
            { client with
              awaitingKillFromMismatchedCli := true
              mismatchKillDeadlineNanos := refused.nowNanos + 2000000000 }
        else refused.drop id
      else
        (server.setClient id fun client =>
          { client with greeted := true, kind := hello.clientKind }).send id
            (.helloAck { build := server.settings.build })
  | other =>
      (server.send id (.refuse ⟨
        utf8 "the first message on a connection must be Hello; this one was " ++
          utf8 (nameOf (typeOf other))⟩)).drop id

/-! ### Sessions -/

/-- A session made under a name that nobody has, with a terminal if so wished. -/
def newSession [Emulator] (server : Server) (id : ClientId) (request : Proto.NewSession) : Server :=
  match server.sessionNamed request.name 0 with
  | some taken =>
      server.refuse id .nameTaken (utf8 "NewSession")
        (utf8 "a session is already called \"" ++ taken.name ++ utf8 "\"")
  | none =>
      let made := server.createSession request.name
      let opened :=
        if request.spawnFirst ≠ 0 then
          (made.2.openTerminal made.1.id
            { command := request.command
              workingDirectory := server.settings.workingDirectory
              hostSixel := ((server.client id).map Client.hostSixel).getD false }).2
        else made.2
      opened.broadcastSessionList (some id)

/-- The session a request names, or its sender's if it names none. -/
def namedOrOwn (server : Server) (id : ClientId) (named : SessionId) : Option Session :=
  if named ≠ 0 then server.sessionFor named
  else (server.client id).bind fun client => server.sessionFor client.session

/-- The session that is named, or one's own, begins to end. -/
def killSession (server : Server) (id : ClientId) (request : Proto.KillSession) : Server :=
  match server.namedOrOwn id request.session with
  | none => server.refuse id .noSuchSession (utf8 "KillSession") (utf8 "no such session")
  | some session =>
      (server.setClient id fun client =>
        { client with
          awaitingSessionRemoval :=
            if client.kind = .cli then session.id else client.awaitingSessionRemoval }).beginKill
        session (request.force ≠ 0) request.graceSeconds

/-- The session that is named, or one's own, gets a name that nobody has. -/
def renameSession (server : Server) (id : ClientId) (request : Proto.RenameSession) : Server :=
  match server.namedOrOwn id request.id with
  | none => server.refuse id .noSuchSession (utf8 "RenameSession") (utf8 "no such session")
  | some session =>
      match server.sessionNamed request.name session.id with
      | some taken =>
          server.refuse id .nameTaken (utf8 "RenameSession")
            (utf8 "a session is already called \"" ++ taken.name ++ utf8 "\"")
      | none =>
          (server.setSession session.id fun session =>
            { session with
              name := if request.name.isEmpty then session.name else request.name
            }).broadcastSessionList (some id)

/-! ### Terminals -/

/-- A terminal a request names, or a refusal. -/
def withTerminal (server : Server) (id : ClientId) (type : MessageType) (term : TerminalId)
    (act : Terminal → Server) : Server :=
  match server.terminal term with
  | none => server.refuse id .noSuchTerminal (utf8 (nameOf type)) (utf8 "no such terminal")
  | some terminal => act terminal

/-- The size of a terminal a client asks for, held to what the wire carries. -/
def askedSize (asked : UInt16) (limit default : Nat) : Nat :=
  if asked > 0 then min asked.toNat limit else default

/-- A terminal opened if the session has room for one more. -/
def newTerminal [Emulator] (server : Server) (id : ClientId) (request : Proto.NewTerminal) : Server :=
  match (server.client id).bind fun client =>
    (server.sessionOf client).map fun session => (client, session) with
  | none =>
      server.refuse id .noSuchSession (utf8 "NewTerminal")
        (utf8 "attach to a session before opening a terminal in it")
  | some (client, session) =>
      if (session.terminals.length : Int) ≥ server.settings.maxTerminals then
        server.refuse id .limitReached (utf8 "NewTerminal")
          (utf8 "this session already holds " ++ utf8 (toString server.settings.maxTerminals) ++
            utf8 " terminals, which is [general] max-terminals")
      else
        let columns := askedSize request.rect.width Proto.kMaxGridColumns 80
        let rows := askedSize request.rect.height Proto.kMaxGridRows 24
        let believed := server.setClient id fun client =>
          { client with hostSixel := request.hostSixel ≠ 0 }
        let opened := believed.openTerminal session.id
          { command := request.command
            workingDirectory := server.settings.workingDirectory
            columns := columns
            rows := rows
            pixelWidth := columns * client.cellPixels.width
            pixelHeight := rows * client.cellPixels.height
            hostSixel := request.hostSixel ≠ 0 }
        opened.2.forEachAttached session.id fun server each =>
          server.send each (.termOpened
            { term := opened.1.id
              session := session.id
              columns := UInt16.ofNat columns
              rows := UInt16.ofNat rows })

/-- A terminal whose child has ended gets a new one. -/
def respawnTerminal [Emulator] (server : Server) (id : ClientId) (request : Proto.RespawnTerminal) :
    Server :=
  server.withTerminal id .respawnTerminal request.term fun terminal =>
    if terminal.live then
      server.refuse id .noSuchTerminal (utf8 "RespawnTerminal") (utf8 "that terminal is still running")
    else
      let again := server.setTerminal terminal.id fun terminal => terminal.relaunch
      -- Everything believed of it is wrong now, so it is believed no more.
      let forgotten := { again with
        diffs := Function.update again.diffs terminal.id {}
        pictures := Function.update again.pictures terminal.id [] }
      match forgotten.sessionHolding terminal.id with
      | none => forgotten
      | some home =>
          forgotten.forEachAttached home.id fun server each =>
            server.send each (.termOpened
              { term := terminal.id
                session := home.id
                columns := UInt16.ofNat terminal.columns
                rows := UInt16.ofNat terminal.rows })

/-- A terminal's grid becomes the size asked for, within what there may be. -/
def moveResize [Emulator] (server : Server) (id : ClientId) (request : Proto.MoveResize) : Server :=
  server.withTerminal id .moveResize request.term fun terminal =>
    let columns := min (max request.rect.width.toNat 1) Proto.kMaxGridColumns
    let rows := min (max request.rect.height.toNat 1) Proto.kMaxGridRows
    let cell := ((server.client id).map Client.cellPixels).getD {}
    server.setTerminal terminal.id fun terminal =>
      terminal.resize columns rows (columns * cell.width) (rows * cell.height)

/-- Where a client's windows are now. Of terminals its session does not hold nothing is
kept. -/
def setLayout (server : Server) (id : ClientId) (report : Proto.SetLayout) : Server :=
  match (server.client id).bind server.sessionOf with
  | none =>
      server.refuse id .noSuchSession (utf8 "SetLayout")
        (utf8 "attach to a session before reporting its layout")
  | some session =>
      report.entries.foldl (fun server entry =>
        if entry.term ∉ session.terminals then server
        else server.setTerminal entry.term fun terminal =>
          terminal.setLayout ⟨entry.rect, entry.zOrder, entry.zoomed ≠ 0, entry.tile⟩) server

/-- A terminal given something to read is the one its reader is in. -/
def input (server : Server) (id : ClientId) (given : Proto.Input) : Server :=
  match server.terminal given.term with
  | none => server
  | some _ =>
      let typed := (server.setTerminal given.term fun terminal =>
        terminal.ask (.input given.bytes)).setClient id fun client =>
          { client with focused := given.term }
      match typed.sessionHolding given.term with
      | none => typed
      | some home => typed.setSession home.id fun session =>
          { session with lastFocused := given.term }

/-! ### Printing -/

/-- A print job's chunks said one behind the other. -/
def sendChunks (server : Server) (id : ClientId) (chunks : List Proto.PrintJobData) : Server :=
  chunks.foldl (fun server data => server.send id (.printJobData data)) server

/-- A job that is held is sent whole to the one who asks. -/
def printJobFetch (server : Server) (id : ClientId) (request : Proto.PrintJobFetch) : Server :=
  match server.terminal request.term with
  | none => server.refuse id .noSuchTerminal (utf8 "PrintJobFetch") (utf8 "no such terminal")
  | some terminal =>
      match terminal.printJob request.job with
      | none => server.refuse id .noSuchTerminal (utf8 "PrintJobFetch") (utf8 "no such print job")
      | some job => server.sendChunks id (printJobData request.term job)

/-- A job that is held is thrown away. -/
def printJobDiscard (server : Server) (id : ClientId) (request : Proto.PrintJobDiscard) : Server :=
  server.withTerminal id .printJobDiscard request.term fun terminal =>
    let discarded := terminal.discardPrintJobs request.job
    if ¬discarded.1 then server
    else server.setTerminal terminal.id fun _ => { discarded.2 with printerNews := true }

/-- What is said of printing is kept where it is to reach, and applied. -/
def setPrinterPolicy (server : Server) (id : ClientId) (request : Proto.SetPrinterPolicy) : Server :=
  let said : PrinterOverride :=
    { mode := some request.mode
      askCache := if request.askCache ≠ 0 then some request.askCache else none
      spoolLimit := if request.spoolLimit ≠ 0 then some request.spoolLimit else none }
  match request.scope with
  | .terminal =>
      server.withTerminal id .setPrinterPolicy request.target fun terminal =>
        (server.setTerminal terminal.id fun terminal =>
          { terminal with printer := said }).applyPrinterPolicies
  | .session =>
      match server.namedOrOwn id request.target with
      | none => server.refuse id .noSuchSession (utf8 "SetPrinterPolicy") (utf8 "no such session")
      | some session =>
          (server.setSession session.id fun session =>
            { session with printer := said }).applyPrinterPolicies
  | .global =>
      applyPrinterPolicies { server with
        settings := { server.settings with
          printerMode := request.mode
          printerAskCacheBytes :=
            (said.askCache.map UInt32.toNat).getD server.settings.printerAskCacheBytes
          printerSpoolLimitBytes :=
            (said.spoolLimit.map UInt32.toNat).getD server.settings.printerSpoolLimitBytes } }

/-! ### The handlers, and the gate before them -/

/-- What each message of a client that has said hello does. -/
def act [Emulator] (server : Server) (id : ClientId) (message : Message) : Server :=
  match message with
  | .ping ping => server.send id (.pong ⟨ping.nonce⟩)
  | .watchStats watch =>
      server.setClient id fun client =>
        { client with
          statsDeadAnnounced :=
            if client.watchStats = (watch.on ≠ 0) then client.statsDeadAnnounced else []
          watchStats := watch.on ≠ 0 }
  | .hello _ => server.drop id
  | .listSessions _ => server.sendSessionList id
  | .newSession request => server.newSession id request
  | .killSession request => server.killSession id request
  | .renameSession request => server.renameSession id request
  | .renameTerminal request =>
      server.withTerminal id .renameTerminal request.id fun terminal =>
        server.setTerminal terminal.id fun terminal => terminal.setCustomTitle request.name
  | .printJobFetch request => server.printJobFetch id request
  | .printJobDiscard request => server.printJobDiscard id request
  | .setPrinterPolicy request => server.setPrinterPolicy id request
  | .attach request => server.attach id request
  | .detach _ => server.detach id .user (utf8 "detached")
  | .clientResize resize => server.clientResize id resize
  | .setDesktopSize fit => server.setDesktopSize id fit
  | .moveResize request => server.moveResize id request
  | .setLayout report => server.setLayout id report
  | .newTerminal request => server.newTerminal id request
  | .respawnTerminal request => server.respawnTerminal id request
  | .input given => server.input id given
  | .pasteChunk chunk => { server with pasted := server.pasted ++ [(id, chunk)] }
  | .setReaderMode wish => server.handleSetReaderMode id wish
  | .closeTerminal request => server.beginClose request.term (request.force ≠ 0) request.graceSeconds
  | .killTerminal request => server.beginKillTerminal request.term
  | .moveTerminal request => server.moveTerminal id request
  | .killServer _ => { server with running := false }
  | other =>
      let name := utf8 (nameOf (typeOf other))
      server.refuse id .notImplemented name
        (name ++ utf8 " is not something this build of the server does.")

/-- A message of a watcher that would change the session. -/
def refuseWatcher (server : Server) (id : ClientId) (message : Message) : Server :=
  match message with
  | .input _ => server
  -- Its sender waits for the acknowledgement, whatever became of the bytes.
  | .pasteChunk chunk => server.send id (.pasteAck ⟨chunk.seq⟩)
  | other =>
      server.refuse id .readOnly (utf8 (nameOf (typeOf other)))
        (utf8 "this client is watching this session; stop watching to change it")

/-- A message from a client. -/
def handle [Emulator] (server : Server) (id : ClientId) (message : Message) : Server :=
  match server.client id with
  | none => server
  | some client =>
      if client.awaitingKillFromMismatchedCli then
        match message with
        | .killServer _ => { server with running := false }
        | _ => server.drop id
      else if ¬client.greeted then server.greet id message
      else if client.watching ∧ changesTheSession (typeOf message) then
        server.refuseWatcher id message
      else server.act id message

end Server

end Ckmux
