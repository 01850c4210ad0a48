import Mathlib
import Ckmux.Server.State

/-!
# Sessions

Sessions are named, listed, opened into, moved between and ended. Everybody who can
see a list of them is told when one changes, and everybody attached to one where its
windows are.
-/

namespace Ckmux

open Grammar (Bytes)

/-- What a terminal's printing is held to, after the defaults. -/
structure EffectivePrinterPolicy where
  mode : Proto.PrinterMode := .ask
  askCache : UInt32 := 0
  spoolLimit : UInt32 := 0
  modeFrom : Proto.PrinterScope := .global
  askCacheFrom : Proto.PrinterScope := .global
  spoolLimitFrom : Proto.PrinterScope := .global

/-- What a scope says of printing; of the rest, what was said before. -/
def EffectivePrinterPolicy.override (resolved : EffectivePrinterPolicy) (said : PrinterOverride)
    (scope : Proto.PrinterScope) : EffectivePrinterPolicy where
  mode := said.mode.getD resolved.mode
  askCache := said.askCache.getD resolved.askCache
  spoolLimit := said.spoolLimit.getD resolved.spoolLimit
  modeFrom := if said.mode.isSome then scope else resolved.modeFrom
  askCacheFrom := if said.askCache.isSome then scope else resolved.askCacheFrom
  spoolLimitFrom := if said.spoolLimit.isSome then scope else resolved.spoolLimitFrom

/-- A size as it fits in four bytes. -/
def cappedSize (bytes : Nat) : UInt32 := UInt32.ofNat (min bytes 0xFFFFFFFF)

/-- The number after "session-" in a name that has just that form, as far as it goes. -/
def sessionNumber (name : Bytes) : Option Nat :=
  let front := utf8 "session-"
  if name.take front.length ≠ front then none
  else
    let tail := name.drop front.length
    if tail.isEmpty ∨ tail.any fun digit => digit < 48 ∨ digit > 57 then none
    else
      let value := tail.foldl (fun value digit => 10 * value + (digit.toNat - 48)) 0
      some (min value (2 ^ 63 - 1))

namespace Server

/-! ### Making sessions -/

/-- The largest number taken by a session's name. -/
def highestNumber (server : Server) : Nat :=
  (server.sessions.filterMap fun session => sessionNumber session.name).foldl max 0

/-- The number is kept in a signed word. The successor of the largest is not defined there;
it is taken to wrap. -/
def nextSessionName (server : Server) : Bytes :=
  utf8 "session-" ++ utf8 (toString (Int64.ofNat server.highestNumber + 1))

/-- A session of some name, if the name is not empty. -/
def sessionNamed (server : Server) (name : Bytes) (except : SessionId) : Option Session :=
  if name.isEmpty then none
  else server.sessions.find? fun session => session.id ≠ except ∧ session.name = name

/-- A new session, named as asked or by number. -/
def createSession (server : Server) (name : Bytes) : Session × Server :=
  let session : Session :=
    { id := server.nextSession
      name := if name.isEmpty then server.nextSessionName else name }
  (session,
   { server with
     aSessionHasExisted := true
     nextSession := server.nextSession + 1
     sessions := server.sessions ++ [session] })

/-- A terminal started, in a session that may have to be made for it. -/
def openTerminal [Emulator] (server : Server) (session : SessionId) (spec : TerminalSpec) :
    Terminal × Server :=
  let terminal := Terminal.opened server.nextTerminal spec
  let stored := { server with
    terminals := server.terminals ++ [terminal]
    nextTerminal := server.nextTerminal + 1 }
  let found :=
    match stored.sessionFor session with
    | some home => some home
    | none => if session = 0 then stored.sessions.head? else none
  let homed :=
    match found with
    | some home => (home, stored)
    | none => stored.createSession []
  (terminal, homed.2.setSession homed.1.id fun home =>
    { home with terminals := home.terminals ++ [terminal.id], lastFocused := terminal.id })

/-! ### Telling of them -/

/-- Every session, as a client is told of them. -/
def sessionList (server : Server) : Proto.SessionList where
  sessions := server.sessions.map fun session =>
    { id := session.id
      name := session.name
      terminals := UInt16.ofNat session.terminals.length
      attached := UInt8.ofNat (min (server.attachedCount session.id) 255) }

/-- The list to one client. A client that awaits a session's removal is let go when the list no
longer has it. -/
def sendSessionList (server : Server) (id : ClientId) : Server :=
  let list := server.sessionList
  (server.send id (.sessionList list)).setClient id fun client =>
    if client.awaitingSessionRemoval ≠ 0 ∧
        list.sessions.all fun session => session.id ≠ client.awaitingSessionRemoval then
      { client with awaitingSessionRemoval := 0 }
    else client

/-- Every list, as the one who asked and those who keep one are told. -/
def broadcastSessionList (server : Server) (requester : Option ClientId) : Server :=
  (server.clients.map Client.id).foldl (fun server each =>
    match server.client each with
    | none => server
    | some client =>
        if client.greeted ∧
            (client.kind = .ui ∨ requester = some each ∨ client.awaitingSessionRemoval ≠ 0) then
          server.sendSessionList each
        else server) { server with sessionListDirty := false }

/-- The windows of a session whose arrangement has changed, or that is told anyway. -/
def announceSessionLayout (server : Server) (session : Session) (forced : Bool) : Server :=
  let moved := forced || session.terminals.any fun id =>
    ((server.terminal id).map fun terminal => !terminal.layoutAnnounced).getD false
  if ¬moved then server
  else
    match server.clientAttachedTo session.id with
    | none => server
    | some first =>
        let desktop :=
          if session.desktop.width > 0 ∧ session.desktop.height > 0 then session.desktop
          else first.desktop
        let entries := session.terminals.filterMap fun id =>
          (server.terminal id).map fun terminal =>
            { term := id
              rect := terminal.layout.rect
              zOrder := terminal.layout.zOrder
              zoomed := if terminal.layout.zoomed then 1 else 0
              tile := terminal.layout.tile : Proto.LayoutEntry }
        let told := server.forEachAttached session.id fun server each =>
          server.send each (.layoutDelta
            { session := session.id
              entries := entries
              focusedTerm := ((server.client each).map Client.focused).getD 0
              desktopColumns := UInt16.ofNat desktop.width
              desktopRows := UInt16.ofNat desktop.height })
        session.terminals.foldl (fun server id => server.setTerminal id fun terminal =>
          { terminal with layoutAnnounced := true }) told

/-- Every session's layout where it has changed, and one whatever it is. -/
def announceLayout (server : Server) (forceSession : SessionId) : Server :=
  server.sessions.foldl (fun server session =>
    server.announceSessionLayout session (session.id = forceSession ∧ forceSession ≠ 0)) server

/-! ### Ending them -/

/-- A session taken away. Those attached are detached first. -/
def forgetSession (server : Server) (id : SessionId) (reason : Proto.DetachReason) (text : Bytes) :
    Server :=
  let left := (server.clients.map Client.id).foldl (fun server each =>
    match server.client each with
    | none => server
    | some client =>
        if client.attached ∧ client.session = id then server.detach each reason text else server)
    server
  let forgotten := { left with sessions := left.sessions.filter fun session => session.id ≠ id }
  let told := forgotten.broadcastSessionList none
  if told.sessions.isEmpty ∧ told.aSessionHasExisted then { told with running := false } else told

/-- So many seconds, counted in the clock's own unit. -/
def graceNanos (seconds : UInt16) : Int := seconds.toNat * 1000000000

/-- Every child of a session asked to end, and the session with them. -/
def beginKill (server : Server) (session : Session) (force : Bool) (grace : UInt16) : Server :=
  let asked := session.terminals.foldl (fun server id => server.setTerminal id fun terminal =>
    terminal.ask .terminate) server
  { asked with
    kills := asked.kills ++
      [{ session := session.id, deadlineNanos := asked.nowNanos + graceNanos grace, force := force }] }

/-- A close is under way from now on. -/
def beginClose (server : Server) (id : TerminalId) (force : Bool) (grace : UInt16) : Server :=
  match server.terminal id with
  | none => server
  | some _ =>
      let asked := server.setTerminal id fun terminal => terminal.ask .terminate
      let close : PendingClose :=
        { term := id, deadlineNanos := asked.nowNanos + graceNanos grace, force := force }
      if asked.closes.any fun pending => pending.term = id then
        { asked with
          closes := asked.closes.map fun pending => if pending.term = id then close else pending }
      else { asked with closes := asked.closes ++ [close] }

/-- A kill is under way from now on. -/
def beginKillTerminal (server : Server) (id : TerminalId) : Server :=
  match server.terminal id with
  | none => server
  | some _ =>
      let asked := server.setTerminal id fun terminal => terminal.ask .kill
      let close : PendingClose :=
        { term := id
          deadlineNanos := asked.nowNanos
          force := true
          killDeadlineNanos := asked.nowNanos + 2000000000
          killed := true }
      if asked.closes.any fun pending => pending.term = id then
        { asked with
          closes := asked.closes.map fun pending => if pending.term = id then close else pending }
      else { asked with closes := asked.closes ++ [close] }

/-! ### Moving a terminal -/

/-- A terminal out of one session and into another. -/
def moveInto (server : Server) (term : TerminalId) (source target : SessionId) : Server :=
  let unclosed : Server :=
    { server with closes := server.closes.filter fun pending => pending.term ≠ term }
  let taken := unclosed.setSession source fun session =>
    { session with terminals := session.terminals.filter fun id => id ≠ term }
  let placed := taken.setSession target fun session =>
    { session with terminals := session.terminals ++ [term] }
  let cleared := placed.setTerminal term Terminal.clearLayout
  let left := cleared.forEachAttached source fun server each =>
    server.send each (.termClosed { term := term, exited := 0 })
  let missed := left.forEachAttached target fun server each =>
    server.setClient each Client.fallBehind
  let told := missed.broadcastSessionList none
  let emptied := ((told.sessionFor source).map fun session => session.terminals.isEmpty).getD false
  if emptied ∧ told.settings.killEmptySession then
    told.forgetSession source .sessionKilled (utf8 "its last terminal moved away")
  else told

/-- A terminal moved to another session, or to one of its own. -/
def moveTerminal (server : Server) (id : ClientId) (request : Proto.MoveTerminal) : Server :=
  match server.terminal request.term, server.sessionHolding request.term with
  | some _, some source =>
      if request.toNewSession ≠ 0 then
        let made := server.createSession []
        made.2.moveInto request.term source.id made.1.id
      else
        match server.sessionFor request.destinationSession with
        | none =>
            server.refuse id .noSuchSession (utf8 "MoveTerminal") (utf8 "no such session")
        | some target =>
            if target.id = source.id then server
            else server.moveInto request.term source.id target.id
  | _, _ => server.refuse id .noSuchTerminal (utf8 "MoveTerminal") (utf8 "no such terminal")

/-! ### Printing -/

/-- What a terminal's printing comes down to: its own say, then its session's, then
the server's. -/
def effectivePrinterPolicy (server : Server) (id : TerminalId) : EffectivePrinterPolicy :=
  let global : EffectivePrinterPolicy :=
    { mode := server.settings.printerMode
      askCache := cappedSize server.settings.printerAskCacheBytes
      spoolLimit := cappedSize server.settings.printerSpoolLimitBytes }
  let homed :=
    match server.sessionHolding id with
    | none => global
    | some home => global.override home.printer .session
  match server.terminal id with
  | none => homed
  | some terminal => homed.override terminal.printer .terminal

/-- Every terminal's policy as the configuration now has it. -/
def applyPrinterPolicies (server : Server) : Server :=
  { server with
    terminals := server.terminals.map fun terminal =>
      let policy := server.effectivePrinterPolicy terminal.id
      { terminal with
        printerNews := true
        program := { terminal.program with
          printerPolicy := if policy.mode = .off then .deny else .capture
          printerSpoolLimit :=
            (if policy.mode = .ask then policy.askCache else policy.spoolLimit).toNat } } }

end Server

end Ckmux
