import Mathlib
import Ckmux.Server.Runs
import Ckmux.Server.Tells

/-!
# What a server does, one act at a time

Whatever a server does upon an event is a number of acts: somebody is told something, a
session is made or renamed or forgotten, a terminal is opened, moved or removed, or changed
in one of a few ways. Each act says when it may come. What every act keeps, every step keeps.
-/

namespace Ckmux

open Grammar (Bytes)
open Proto (Message typeOf)

/-- What is done to one terminal. -/
inductive Deed where
  | terminate
  | give (bytes : Bytes)
  | lay (layout : WindowLayout)
  | retitle (title : Bytes)
  | resize (columns rows pixelWidth pixelHeight : Nat)
  | observe
  | emulate (session : TerminalSubsession) (program : Program)
  | override (said : PrinterOverride)
  | discard (job : UInt64)
  | exit
  | clearDamage

/-- A terminal it has been done to. -/
def Deed.apply [Emulator] (terminal : Terminal) : Deed → Terminal
  | .terminate => terminal.ask .terminate
  | .give bytes => terminal.ask (.input bytes)
  | .lay layout => terminal.setLayout layout
  | .retitle title => terminal.setCustomTitle title
  | .resize columns rows pixelWidth pixelHeight =>
      terminal.resize columns rows pixelWidth pixelHeight
  | .observe => terminal.observeExit
  | .emulate session program => ({ terminal with session := session, program := program }).observeExit
  | .override said => { terminal with printer := said }
  | .discard job => { (terminal.discardPrintJobs job).2 with printerNews := true }
  | .exit => { terminal.observeExit with exitAnnounced := true }
  | .clearDamage => terminal.clearDamage

namespace Server

/-- Whether a message of a client is carried out: it said hello in our own words, and does
not ask for more than a watcher may. -/
def Obeys (server : Server) (id : ClientId) (message : Message) : Prop :=
  ∃ client, server.client id = some client ∧ client.awaitingKillFromMismatchedCli = false ∧
    client.greeted = true ∧ ¬(client.watching ∧ changesTheSession (typeOf message))

instance (server : Server) (id : ClientId) (message : Message) :
    Decidable (server.Obeys id message) :=
  decidable_of_iff ((server.client id).any (fun client =>
      client.awaitingKillFromMismatchedCli = false ∧ client.greeted = true ∧
        ¬(client.watching ∧ changesTheSession (typeOf message))) = true) (by
    rw [Option.any_eq_true, Obeys]
    exact exists_congr fun client => and_congr_right fun _ => decide_eq_true_iff)

/-- Whether an event is a message that is carried out. -/
def Asks (server : Server) (event : ServerEvent) (id : ClientId) (message : Message) : Prop :=
  event = .message id message ∧ server.Obeys id message

/-- A message that is carried out is acted upon. -/
theorem step_of_asks [CkVision] [Emulator] {origin : Server} {event : ServerEvent} {id : ClientId}
    {message : Message} (asks : origin.Asks event id message) :
    origin.step event = origin.act id message := by
  obtain ⟨rfl, client, found, matched, greeted, gate⟩ := asks
  simp only [Server.step, Server.handle, found, matched, greeted, not_true_eq_false, if_neg gate,
    Bool.false_eq_true, if_false]

/-- What one terminal has to say beside its screen. -/
def announceNews (server : Server) (terminal : Terminal) : Server :=
  match server.sessionHolding terminal.id with
  | none => server
  | some home =>
      let marked := server.setTerminal terminal.id fun terminal =>
        mark terminal (home.lastFocused = terminal.id)
      match marked.clientAttachedTo home.id with
      | none => marked
      | some watcher =>
          (((marked.announceMarks terminal.id home watcher.id).announceClipboard terminal.id
            watcher.id).announcePrinting terminal.id watcher.id).announceDiagnostic terminal.id
              watcher.id

/-- News are announced terminal by terminal. -/
theorem announceTerminalNews_eq (server : Server) :
    server.announceTerminalNews =
      server.forEachTerminal fun server terminal => server.announceNews terminal := rfl

section

variable (origin : Server) (event : ServerEvent)

/-- Whether a close is waited for since before the event, or is what it asks for. -/
def Waits (pending : PendingClose) : Prop :=
  (∃ before ∈ origin.closes, before.term = pending.term ∧ before.force = pending.force ∧
    before.deadlineNanos = pending.deadlineNanos) ∨
  (∃ id request, origin.Asks event id (.closeTerminal request) ∧ request.term = pending.term ∧
    (origin.terminal pending.term).isSome ∧ pending.force = decide (request.force ≠ 0) ∧
    pending.deadlineNanos = origin.nowNanos + graceNanos request.graceSeconds) ∨
  (∃ id request, origin.Asks event id (.killTerminal request) ∧ request.term = pending.term ∧
    (origin.terminal pending.term).isSome)

/-- Whether a session's end is waited for since before the event, or is what it asks for. -/
def Dooms (pending : PendingKill) : Prop :=
  (∃ before ∈ origin.kills, before.session = pending.session ∧ before.force = pending.force ∧
    before.deadlineNanos = pending.deadlineNanos) ∨
  (∃ id request session, origin.Asks event id (.killSession request) ∧
    origin.namedOrOwn id request.session = some session ∧ session.id = pending.session ∧
    pending.force = decide (request.force ≠ 0) ∧
    pending.deadlineNanos = origin.nowNanos + graceNanos request.graceSeconds)

/-- What a deed is done upon. -/
def Deed.Meant (id : TerminalId) : Deed → Prop
  | .lay _ => ∃ client report session, origin.Asks event client (.setLayout report) ∧
      (origin.client client).bind origin.sessionOf = some session ∧ id ∈ session.terminals
  | .discard job => ∃ client request, origin.Asks event client (.printJobDiscard request) ∧
      request.term = id ∧ request.job = job
  | .emulate session program => event = .output id session program
  | .resize .. => ∃ client request, origin.Asks event client (.moveResize request) ∧
      request.term = id
  | .observe | .exit | .clearDamage => event = .tick
  | _ => True

/-- Whether an event has a name chosen for a session it makes. -/
def ChoosesName : Prop :=
  (∃ id request, origin.Asks event id (.newSession request) ∧ request.name = []) ∨
  (∃ id request, origin.Asks event id (.moveTerminal request) ∧ request.toNewSession ≠ 0 ∧
    (origin.terminal request.term).isSome ∧ (origin.sessionHolding request.term).isSome) ∨
  (∃ id request, origin.Asks event id (.attach request) ∧ request.session = 0 ∧
    origin.sessionFor 0 = none ∧ origin.sessions = [])

variable (server : Server)

/-- Whether a session may be made under a name. -/
def Names (name : Bytes) : Prop :=
  server.sessions = origin.sessions ∧ server.nextSession = origin.nextSession ∧
    if name = [] then origin.ChoosesName event
    else (∃ id request, origin.Asks event id (.newSession request) ∧ request.name = name) ∧
      origin.sessionNamed name 0 = none

/-- Why a terminal's child may be killed. -/
def Kills (term : TerminalId) : Prop :=
  (∃ id request, origin.Asks event id (.killTerminal request) ∧ request.term = term) ∨
  event = .tick ∧
    ((∃ pending, origin.Waits event pending ∧ pending.term = term ∧ pending.force = true ∧
        pending.deadlineNanos ≤ server.nowNanos) ∨
      ∃ pending session, origin.Dooms event pending ∧ server.sessionFor pending.session = some session ∧
        term ∈ session.terminals ∧ ((server.terminal term).map Terminal.live).getD false = true ∧
        pending.force = true ∧ pending.deadlineNanos ≤ server.nowNanos)

/-- Why a terminal may be removed: its child has ended, or was killed in time. -/
def Ends (term : TerminalId) : Prop :=
  event = .tick ∧ ∀ terminal, server.terminal term = some terminal → terminal.live = true →
    ∃ pending, origin.Waits event pending ∧ pending.term = term ∧ pending.force = true ∧
      pending.deadlineNanos ≤ server.nowNanos

/-- Why a session may be ended with what it holds. -/
def Buries (session : Session) : Prop :=
  event = .tick ∧ ∃ pending, origin.Dooms event pending ∧
    server.sessionFor pending.session = some session ∧
    ((∃ term ∈ session.terminals, ((server.terminal term).map Terminal.live).getD false = true) →
      pending.force = true ∧ pending.deadlineNanos ≤ server.nowNanos)

/-- Why a session's desktop may become of another size. -/
def Reshapes (session : Session) (wanted : Size) : Prop :=
  ∃ id client, server.client id = some client ∧ server.sessionFor client.session = some session ∧
    ((∃ resize, origin.Asks event id (.clientResize resize) ∧
        wanted = server.resizedDesktop session ⟨resize.columns.toNat, resize.rows.toNat⟩) ∨
      ∃ fit, origin.Asks event id (.setDesktopSize fit) ∧
        wanted = ⟨fit.columns.toNat, fit.rows.toNat⟩) ∧
    (origin.client id).map Client.session = some client.session

end

/-- A terminal out of one session and into another, where it has no place yet. -/
def rehome (server : Server) (term : TerminalId) (source target : SessionId) : Server :=
  ((server.setSession source fun session =>
    { session with terminals := session.terminals.filter fun id => id ≠ term }).setSession target
      fun session => { session with terminals := session.terminals ++ [term] }).setTerminal term
        Terminal.clearLayout

/-- A terminal given up and taken from its session. -/
def takeOut (server : Server) (term : TerminalId) (home : SessionId) : Server :=
  (server.closeTerminal term).setSession home fun session =>
    { session with terminals := session.terminals.filter fun held => held ≠ term }

/-- A session's readers told of a terminal that is there again or anew. -/
def tellOpened (server : Server) (home : SessionId) (opened : Proto.TermOpened) : Server :=
  server.forEachAttached home fun server each => server.send each (.termOpened opened)

/-- Another child where the last one was, and nothing believed of it. -/
def relaunch [Emulator] (server : Server) (term : TerminalId) : Server :=
  let again := server.setTerminal term fun terminal => terminal.relaunch
  { again with
    diffs := Function.update again.diffs term {}
    pictures := Function.update again.pictures term [] }

/-- One act of a server upon an event. `origin` is where the event found it. -/
inductive Act [CkVision] [Emulator] (origin : Server) (event : ServerEvent) :
    Server → Server → Prop where
  | speak {before after : Server}
      (told : Tells (fun _ message => states message = false) Eq before after) :
      Act origin event before after
  | connect (asked : event = .connect) : Act origin event origin origin.connect
  | sweep (asked : event = .sweep) : Act origin event origin origin.sweep
  | wait {now : Int} (asked : event = .wait now) :
      Act origin event origin { origin with nowNanos := now }
  | closes {server : Server} {pending : List PendingClose}
      (known : ∀ each ∈ pending, origin.Waits event each) :
      Act origin event server { server with closes := pending }
  | kills {server : Server} {pending : List PendingKill}
      (known : ∀ each ∈ pending, origin.Dooms event each) :
      Act origin event server { server with kills := pending }
  -- Sessions.
  | create {server : Server} {name : Bytes} (named : origin.Names event server name) :
      Act origin event server (server.createSession name).2
  | rename {server : Server} {name : Bytes} {session : Session}
      (found : server.sessionFor session.id = some session)
      (fresh : server.sessionNamed name session.id = none) :
      Act origin event server (server.setSession session.id fun session =>
        { session with name := if name.isEmpty then session.name else name })
  | print {server : Server} {id : SessionId} {said : PrinterOverride} :
      Act origin event server (server.setSession id fun session => { session with printer := said })
  | reshape {server : Server} {session : Session} {wanted : Size}
      (asked : origin.Reshapes event server session wanted) :
      Act origin event server (server.changeDesktop session wanted)
  | forget {server : Server} {session : Session} {reason : Proto.DetachReason} {text : Bytes}
      (found : server.sessionFor session.id = some session) (empty : session.terminals = []) :
      Act origin event server (server.forgetSession session.id reason text)
  | bury {server : Server} {session : Session} {text : Bytes}
      (due : origin.Buries event server session) :
      Act origin event server
        ((session.terminals.foldl closeTerminal server).forgetSession session.id .sessionKilled text)
  -- Terminals coming, going and moving.
  | spawn {server : Server} {home : Session} {spec : TerminalSpec} {id : ClientId}
      {request : Proto.NewSession} (asked : origin.Asks event id (.newSession request))
      (made : home.id = origin.nextSession) (found : server.sessionFor home.id = some home)
      (first : server.nextTerminal = origin.nextTerminal) :
      Act origin event server (server.openTerminal home.id spec).2
  | opens {server : Server} {home : Session} {spec : TerminalSpec} {columns rows : UInt16}
      {id : ClientId} {request : Proto.NewTerminal}
      (asked : origin.Asks event id (.newTerminal request))
      (found : server.sessionFor home.id = some home)
      (first : server.nextTerminal = origin.nextTerminal) :
      Act origin event server ((server.openTerminal home.id spec).2.tellOpened home.id
        { term := server.nextTerminal, session := home.id, columns := columns, rows := rows })
  | respawn {server : Server} {terminal : Terminal} {id : ClientId} {request : Proto.RespawnTerminal}
      (asked : origin.Asks event id (.respawnTerminal request)) (named : request.term = terminal.id)
      (found : server.terminal terminal.id = some terminal) (ended : terminal.live = false)
      (homeless : server.sessionHolding terminal.id = none) :
      Act origin event server (server.relaunch terminal.id)
  | respawnIn {server : Server} {terminal : Terminal} {home : Session} {id : ClientId}
      {request : Proto.RespawnTerminal} {columns rows : UInt16}
      (asked : origin.Asks event id (.respawnTerminal request)) (named : request.term = terminal.id)
      (found : server.terminal terminal.id = some terminal) (ended : terminal.live = false)
      (holds : server.sessionHolding terminal.id = some home) :
      Act origin event server ((server.relaunch terminal.id).tellOpened home.id
        { term := terminal.id, session := home.id, columns := columns, rows := rows })
  | rehome {server : Server} {term : TerminalId} {source target : Session} {id : ClientId}
      {request : Proto.MoveTerminal} (asked : origin.Asks event id (.moveTerminal request))
      (named : request.term = term) (known : (server.terminal term).isSome)
      (holds : server.sessionHolding term = some source)
      (found : server.sessionFor target.id = some target)
      (apart : target.id ≠ source.id ∨ target.id = origin.nextSession) :
      Act origin event server (server.rehome term source.id target.id)
  | takeOut {server : Server} {term : TerminalId} {home : Session}
      (ends : origin.Ends event server term) (holds : server.sessionHolding term = some home) :
      Act origin event server (server.takeOut term home.id)
  | lose {server : Server} {term : TerminalId} (ends : origin.Ends event server term)
      (homeless : server.sessionHolding term = none) :
      Act origin event server (server.closeTerminal term)
  -- What is done to a terminal.
  | deed {server : Server} {term : TerminalId} {deed : Deed} {change : Terminal → Terminal}
      (meant : Deed.Meant origin event term deed)
      (does : ∀ terminal, server.terminal term = some terminal → change terminal = deed.apply terminal) :
      Act origin event server (server.setTerminal term change)
  | kill {server : Server} {term : TerminalId} (due : origin.Kills event server term) :
      Act origin event server (server.setTerminal term fun terminal => terminal.ask .kill)
  | policies {server : Server} : Act origin event server server.applyPrinterPolicies
  | observed {server : Server} (ticks : event = .tick) : Act origin event server server.observeExits
  -- What readers do, and are told.
  | types {id : ClientId} {given : Proto.Input}
      (asked : origin.Asks event id (.input given) ∨
        ∃ chunk, event = .paste id chunk ∧ given = ⟨chunk.term, chunk.bytes⟩) :
      Act origin event origin (origin.input id given)
  | fetch {id : ClientId} {request : Proto.PrintJobFetch} {terminal : Terminal} {job : HeldJob}
      (asked : origin.Asks event id (.printJobFetch request))
      (known : origin.terminal request.term = some terminal)
      (holds : terminal.printJob request.job = some job) :
      Act origin event origin (origin.sendChunks id (printJobData request.term job))
  | welcome {made : Server} {id : ClientId} {request : Proto.Attach} {session : Session}
      (asked : origin.Asks event id (.attach request))
      (found : origin.attachSession request = (some session, made)) :
      Act origin event made ((made.seat id request session).sendSnapshot id)
  | heal {server : Server} {client : Client} (ticks : event = .tick)
      (found : server.client client.id = some client) (attached : client.attached = true)
      (dirty : client.dirtySnapshot = true) :
      Act origin event server (server.sendSnapshot client.id)
  | news {server : Server} {terminal : Terminal} (ticks : event = .tick)
      (found : server.terminal terminal.id = some terminal) :
      Act origin event server (server.announceNews terminal)
  | layout {server : Server} {session : Session} (ticks : event = .tick)
      (listed : session ∈ server.sessions) :
      Act origin event server (server.announceSessionLayout session false)

/-- Any number of acts. -/
abbrev Acts [CkVision] [Emulator] (origin : Server) (event : ServerEvent) : Server → Server → Prop :=
  Relation.ReflTransGen (Act origin event)

end Server

end Ckmux
