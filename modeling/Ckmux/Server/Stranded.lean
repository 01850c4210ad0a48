import Mathlib
import Ckmux.Server.Leaving
import Ckmux.Server.Names
import Ckmux.Server.TooLarge
import Ckmux.Server.Watching

/-!
# Watchers without a session

What a client may do outlives its attachment: one that watched and lost its session is refused
whatever would change the session it no longer has. A client is not left so as long as nobody who
watches loses its session but with its connection.
-/

namespace Ckmux

open Grammar (Bytes)
open Proto (Message kSnapshotPayloadBudget)
open Semantics (System)

/-- A client that still watches and is attached to nothing. -/
def Client.Stranded (client : Client) : Prop :=
  client.watching = true ∧ client.attached = false ∧ client.closing = false

instance (client : Client) : Decidable client.Stranded := inferInstanceAs (Decidable (_ ∧ _))

/-- Whoever was attached to a session to watch it, and nothing more. -/
def Client.watches (client : Client) : Bool := client.attached && client.watching

/-- A client is not left watching nothing if it may do something else only where it is attached,
and is not detached while it watches. -/
theorem Client.Hears.unstranded {news : Message → Prop} {before after : Client}
    (hears : Hears False news before after) (fine : ¬before.Stranded)
    (modes : ∀ said, news (.readerMode said) → before.attached = true)
    (stays : ∀ said, news (.detached said) →
      before.watches = false ∧ ∀ said, ¬news (.readerMode said)) : ¬after.Stranded := by
  rintro ⟨watching, gone, open_⟩
  have there : before.closing = false :=
    Bool.eq_false_of_not_eq_true fun shut => absurd (hears.closed shut) (by rw [open_]; decide)
  cases attached : before.attached with
  | false =>
      have same : after.mode = before.mode :=
        hears.mode.resolve_right fun ⟨said, told⟩ =>
          Bool.false_ne_true (attached.symm.trans (modes said told))
      refine fine ⟨?_, attached, there⟩
      rwa [Client.watching, ← same]
  | true =>
      obtain ⟨said, told⟩ := hears.left attached gone open_
      obtain ⟨idle, unmoded⟩ := stays said told
      have same : after.mode = before.mode :=
        hears.mode.resolve_right fun ⟨said, told⟩ => unmoded said told
      have watched : before.watching = true := by rwa [Client.watching, ← same]
      exact absurd idle (by rw [Client.watches, attached, watched]; decide)

namespace Server

/-- Whether everybody who watches is attached to what it watches. -/
def NobodyStranded (server : Server) : Prop := ∀ client ∈ server.clients, ¬client.Stranded

variable {server before middle after : Server} {news : ClientId → Message → Prop}

/-- Nobody is stranded by what is heard, if whoever is told of a mode is attached and whoever is
told it is detached was not watching. -/
theorem Heard.unstranded (heard : Heard news before after) (nobody : before.NobodyStranded)
    (modes : ∀ client ∈ before.clients, ∀ said, news client.id (.readerMode said) →
      client.attached = true)
    (stays : ∀ client ∈ before.clients, ∀ said, news client.id (.detached said) →
      client.watches = false ∧ ∀ said, ¬news client.id (.readerMode said)) :
    after.NobodyStranded := by
  intro client there
  obtain ⟨one, was, hears⟩ := Data.paired_before heard there
  exact hears.unstranded (nobody one was) (modes one was) (stays one was)

/-- Of those who go none watches. -/
theorem Heard.spares {goes : ClientId → Prop} (heard : Heard (Parting goes) before after)
    (nobody : before.NobodyStranded)
    (spared : ∀ client ∈ before.clients, goes client.id → client.watches = false) :
    after.NobodyStranded :=
  heard.unstranded nobody (fun _ _ _ said => said.elim) fun client there _ goes =>
    ⟨spared client there goes, fun _ said => said⟩

/-- One client changed, and not left watching nothing. -/
theorem NobodyStranded.setClient (nobody : server.NobodyStranded) (id : ClientId)
    {change : Client → Client}
    (fine : ∀ client ∈ server.clients, ¬client.Stranded → ¬(change client).Stranded) :
    (server.setClient id change).NobodyStranded := by
  intro client changed
  obtain ⟨one, there, rfl⟩ := List.mem_map.mp changed
  split
  · exact fine one there (nobody one there)
  · exact nobody one there

/-- Somebody who does not watch, detached. -/
theorem NobodyStranded.detach (nobody : server.NobodyStranded) {id : ClientId}
    (idle : ∀ client ∈ server.clients, client.id = id → client.watches = false)
    (reason : Proto.DetachReason) (text : Bytes) :
    (server.detach id reason text).NobodyStranded := by
  have gone : Tells (Parting (· = id)) Eq server (server.detach id reason text) :=
    .detach server id rfl
  exact Heard.spares (.told gone fun _ _ said => said) nobody idle

/-! ### Whatever leaves everybody attached -/

/-- Nobody is detached, nor told what it may do from now on. -/
abbrev Steady (before after : Server) : Prop := Heard Steadily before after

namespace Steady

/-- What leaves everybody attached strands nobody. -/
theorem unstranded (steady : Steady before after) (nobody : before.NobodyStranded) :
    after.NobodyStranded :=
  Heard.unstranded steady nobody (fun _ _ _ said => absurd said Bool.false_ne_true)
    fun _ _ _ said => absurd said Bool.false_ne_true

/-- What is told calmly leaves everybody attached. -/
theorem tells {notes : Terminal → Terminal → Prop} (told : Tells Calmly notes before after) :
    Steady before after := .calmly told

/-- The same where nothing is noted. -/
theorem calmly (told : Tells Calmly Eq before after) : Steady before after := tells told

/-- What comes of a server whose clients are the same ones. -/
theorem since (steady : Steady middle after) (same : middle.clients = before.clients) :
    Steady before after := Heard.trans (.same same) steady

/-- A calm message leaves everybody attached. -/
theorem say (server : Server) (id : ClientId) {message : Message} (said : calm message = true) :
    Steady server (server.send id message) :=
  calmly (.say server id said (whole_of_places (places_of_calm said)))

theorem refuse (server : Server) (id : ClientId) (code : ErrorCode) (context human : Bytes) :
    Steady server (server.refuse id code context human) := say server id rfl

/-- A client dropped is no longer there to be stranded. -/
theorem drop (server : Server) (id : ClientId) : Steady server (server.drop id) :=
  calmly (.drop server id)

/-- A client of whom something changes that is beside the point. -/
theorem idle (server : Server) (id : ClientId) {change : Client → Client}
    (same : ∀ client, ((change client).seat, (change client).mode, (change client).attached,
        (change client).closing, (change client).stream) =
      (client.seat, client.mode, client.attached, client.closing, client.stream)) :
    Steady server (server.setClient id change) :=
  calmly (.idle server id same)

theorem sayAll (server : Server) (id : SessionId) {message : Message} (said : calm message = true) :
    Steady server (server.forEachAttached id fun server each => server.send each message) :=
  calmly (.forEachAttached id fun middle _ each =>
    .say middle each said (whole_of_places (places_of_calm said)))

theorem broadcastSessionList (server : Server) (requester : Option ClientId) :
    Steady server (server.broadcastSessionList requester) :=
  calmly (.broadcastSessionList server requester fun _ _ => rfl)

/-- A request that names a terminal is as steady as what it does there. -/
theorem withTerminal (server : Server) (id : ClientId) (type : Proto.MessageType)
    (term : TerminalId) {act : Terminal → Server} (acts : ∀ terminal, Steady server (act terminal)) :
    Steady server (server.withTerminal id type term act) := by
  unfold Server.withTerminal
  split
  · exact refuse ..
  · exact acts _

/-! ### What messages do -/

/-- A greeting leaves everybody attached. -/
theorem greet (server : Server) (id : ClientId) (message : Message) :
    Steady server (server.greet id message) := by
  unfold Server.greet
  split
  · split
    · dsimp only
      split
      · exact (say server id rfl).trans (idle _ id fun _ => rfl)
      · exact (say server id rfl).trans (drop ..)
    · refine Heard.trans (idle server id ?_) (say _ id rfl)
      exact fun _ => rfl
  · exact (say server id rfl).trans (drop ..)

theorem refuseWatcher (server : Server) (id : ClientId) (message : Message) :
    Steady server (server.refuseWatcher id message) := by
  unfold Server.refuseWatcher
  split
  · exact .refl server
  · exact say server id rfl
  · exact refuse ..

/-- Opening a terminal leaves everybody attached. -/
theorem openTerminal [Emulator] (server : Server) (session : SessionId) (spec : TerminalSpec) :
    Steady server (server.openTerminal session spec).2 := by
  refine .same ?_
  unfold Server.openTerminal
  dsimp only
  split <;> rfl

theorem newSession [Emulator] (server : Server) (id : ClientId) (request : Proto.NewSession) :
    Steady server (server.newSession id request) := by
  unfold Server.newSession
  split
  · exact refuse ..
  · dsimp only
    have made : Steady server (server.createSession request.name).2 := .same rfl
    split
    · exact (made.trans (openTerminal ..)).trans (broadcastSessionList ..)
    · exact made.trans (broadcastSessionList ..)

/-- A session's end only begins here. -/
theorem killSession (server : Server) (id : ClientId) (request : Proto.KillSession) :
    Steady server (server.killSession id request) := by
  unfold Server.killSession
  split
  · exact refuse ..
  · rename_i session _
    have asked := foldl_keeps Server.clients session.terminals
      (show ∀ (server : Server) id, (server.setTerminal id fun terminal =>
        terminal.ask .terminate).clients = server.clients from fun _ _ => rfl)
    refine Heard.trans (idle server id ?_) (.same (asked _))
    exact fun _ => rfl

theorem renameSession (server : Server) (id : ClientId) (request : Proto.RenameSession) :
    Steady server (server.renameSession id request) := by
  unfold Server.renameSession
  split
  · exact refuse ..
  · split
    · exact refuse ..
    · exact since (broadcastSessionList ..) rfl

theorem newTerminal [Emulator] (server : Server) (id : ClientId) (request : Proto.NewTerminal) :
    Steady server (server.newTerminal id request) := by
  unfold Server.newTerminal
  split
  · exact refuse ..
  · split
    · exact refuse ..
    · refine Heard.trans (idle server id ?_) ((openTerminal ..).trans (sayAll _ _ rfl))
      exact fun _ => rfl

theorem respawnTerminal [Emulator] (server : Server) (id : ClientId)
    (request : Proto.RespawnTerminal) : Steady server (server.respawnTerminal id request) := by
  refine withTerminal server id _ _ fun terminal => ?_
  split
  · exact refuse ..
  · dsimp only
    split
    · exact .same rfl
    · exact since (sayAll _ _ rfl) rfl

theorem setLayout (server : Server) (id : ClientId) (report : Proto.SetLayout) :
    Steady server (server.setLayout id report) := by
  unfold Server.setLayout
  split
  · exact refuse ..
  · refine .same (foldl_keeps Server.clients report.entries (fun middle entry => ?_) server)
    split <;> rfl

theorem printJobFetch (server : Server) (id : ClientId) (request : Proto.PrintJobFetch) :
    Steady server (server.printJobFetch id request) := by
  unfold Server.printJobFetch
  split
  · exact refuse ..
  · split
    · exact refuse ..
    · exact calmly ((Tells.sendChunks ..).mono (by rintro _ _ ⟨_, _, _, rfl⟩; rfl) fun _ _ same => same)

theorem printJobDiscard (server : Server) (id : ClientId) (request : Proto.PrintJobDiscard) :
    Steady server (server.printJobDiscard id request) := by
  refine withTerminal server id _ _ fun terminal => ?_
  dsimp only
  split
  · exact .refl server
  · exact .same rfl

theorem setPrinterPolicy (server : Server) (id : ClientId) (request : Proto.SetPrinterPolicy) :
    Steady server (server.setPrinterPolicy id request) := by
  unfold Server.setPrinterPolicy
  dsimp only
  split
  · exact withTerminal server id _ _ fun _ => .same rfl
  · split
    · exact refuse ..
    · exact .same rfl
  · exact .same rfl

/-- A layout announced leaves everybody attached. -/
theorem announceLayout (server : Server) (force : SessionId) :
    Steady server (server.announceLayout force) := by
  refine .foldl _ fun middle session => .told (Tells.announceSessionLayout middle session _) ?_
  rintro _ _ ⟨_, _, rfl, _⟩
  rfl

theorem changeDesktop (server : Server) (session : Session) (wanted : Size) :
    Steady server (server.changeDesktop session wanted) := by
  unfold Server.changeDesktop
  split
  · exact .refl server
  · exact since (announceLayout ..) rfl

theorem clientResize (server : Server) (id : ClientId) (resize : Proto.ClientResize) :
    Steady server (server.clientResize id resize) := by
  have measured : Steady server (server.setClient id (measure resize)) := idle server id fun _ => rfl
  rw [clientResize_eq]
  split
  · exact measured
  · dsimp only
    split
    · exact measured
    · exact measured.trans (changeDesktop ..)

theorem setDesktopSize (server : Server) (id : ClientId) (fit : Proto.SetDesktopSize) :
    Steady server (server.setDesktopSize id fit) := by
  unfold Server.setDesktopSize
  split
  · exact .refl server
  · exact changeDesktop ..

theorem beginClose (server : Server) (id : TerminalId) (force : Bool) (grace : UInt16) :
    Steady server (server.beginClose id force grace) := by
  refine .same ?_
  unfold Server.beginClose
  split
  · rfl
  · dsimp only
    split <;> rfl

theorem beginKillTerminal (server : Server) (id : TerminalId) :
    Steady server (server.beginKillTerminal id) := by
  refine .same ?_
  unfold Server.beginKillTerminal
  split
  · rfl
  · dsimp only
    split <;> rfl

end Steady

/-! ### Whatever may detach somebody -/

/-- Typing strands nobody. -/
theorem NobodyStranded.input (nobody : server.NobodyStranded) (id : ClientId)
    (given : Proto.Input) : (server.input id given).NobodyStranded := by
  unfold Server.input
  split
  · exact nobody
  · have typed : ((server.setTerminal given.term fun terminal =>
        terminal.ask (.input given.bytes)).setClient id fun client =>
          { client with focused := given.term }).NobodyStranded :=
      @NobodyStranded.setClient (server.setTerminal given.term fun terminal =>
        terminal.ask (.input given.bytes)) nobody id _ fun _ _ fine => fine
    dsimp only
    split
    · exact typed
    · exact typed

/-- Whether a session holds nothing beside a terminal. -/
def holdsOnly (server : Server) (home : SessionId) (term : TerminalId) : Bool :=
  (server.sessionFor home).any fun session => session.terminals.all fun held => held = term

/-- What is done to a session's readers one by one leaves the settings as they are. -/
theorem forEachAttached_settings (server : Server) (id : SessionId) {act : Server → ClientId → Server}
    (each : ∀ middle client, (act middle client).settings = middle.settings) :
    (server.forEachAttached id act).settings = server.settings := by
  refine foldl_keeps Server.settings _ (fun middle other => ?_) server
  split
  · rfl
  · split
    · exact each middle other
    · rfl

/-- Telling of the sessions changes no setting. -/
theorem broadcastSessionList_settings (server : Server) (requester : Option ClientId) :
    (server.broadcastSessionList requester).settings = server.settings := by
  refine foldl_keeps Server.settings _ (fun middle other => ?_) _
  split
  · rfl
  · split
    · exact (Spares.sendSessionList middle other).settings
    · rfl

/-- Only readers of a session that a move leaves empty are detached by it. -/
theorem Heard.moveInto (server : Server) (term : TerminalId) (source target : SessionId) :
    Heard (Parting (server.Reads fun home => home = source ∧
        server.settings.killEmptySession = true ∧ server.holdsOnly source term = true))
      server (server.moveInto term source target) := by
  obtain ⟨cleared, clears⟩ : ∃ cleared, cleared = ((({ server with
      closes := server.closes.filter fun pending => pending.term ≠ term }.setSession source
        fun session => { session with
          terminals := session.terminals.filter fun id => id ≠ term }).setSession target
        fun session => { session with
          terminals := session.terminals ++ [term] }).setTerminal term Terminal.clearLayout) :=
    ⟨_, rfl⟩
  obtain ⟨told, tells⟩ : ∃ told, told =
      ((cleared.forEachAttached source fun server each =>
        server.send each (.termClosed { term := term, exited := 0 })).forEachAttached target
          fun server each => server.setClient each Client.fallBehind).broadcastSessionList none :=
    ⟨_, rfl⟩
  have news : Tells Calmly Eq cleared told := by
    rw [tells]
    have left : Tells Calmly Eq cleared (cleared.forEachAttached source fun server each =>
        server.send each (.termClosed { term := term, exited := 0 })) :=
      .forEachAttached source fun middle _ each => .say middle each rfl rfl
    exact (left.next (.forEachAttached target fun middle _ each => .fallBehind middle each)).next
      (.broadcastSessionList _ none fun _ _ => rfl)
  have steady : Steady server told := by
    refine Steady.since (.calmly news) ?_
    rw [clears]
    rfl
  have moves : server.moveInto term source target =
      if ((told.sessionFor source).map fun session => session.terminals.isEmpty).getD false ∧
          told.settings.killEmptySession then
        told.forgetSession source .sessionKilled (utf8 "its last terminal moved away")
      else told := by
    rw [tells, clears]
    rfl
  have settings : told.settings = server.settings := by
    rw [tells, broadcastSessionList_settings, forEachAttached_settings, forEachAttached_settings, clears]
    · rfl
    · exact fun middle each => (Spares.send middle each _).settings
    · exact fun _ _ => rfl
  have emptied : ((told.sessionFor source).map fun session => session.terminals.isEmpty).getD
      false = true → server.holdsOnly source term = true := by
    have placed := @sessionFor_setSession (server.setSession source fun session =>
      { session with terminals := session.terminals.filter fun id => id ≠ term }) target source
      (fun session => { session with terminals := session.terminals ++ [term] }) fun _ => rfl
    have taken := @sessionFor_setSession server source source
      (fun session => { session with
        terminals := session.terminals.filter fun id => id ≠ term }) fun _ => rfl
    have stands : told.sessionFor source = ((server.setSession source fun session =>
        { session with terminals := session.terminals.filter fun id => id ≠ term }).setSession target
          fun session => { session with terminals := session.terminals ++ [term] }).sessionFor
            source := by
      rw [news.sessionFor, clears]
      rfl
    rw [stands, placed, taken, if_pos rfl, Server.holdsOnly]
    cases server.sessionFor source with
    | none => split <;> exact fun absurd => absurd
    | some session =>
        split
        · simp
        · simp
  rw [moves]
  split
  · rename_i empties
    refine Heard.trans (steady.imp fun _ _ hears => hears.mono fun _ => parting_of_steady) ?_
    refine (Heard.forgets told source _ _).imp fun _ _ hears => hears.mono fun _ said => ?_
    refine said.mono fun _ => steady.reads ?_
    rintro home rfl
    exact ⟨rfl, settings ▸ empties.2, emptied empties.1⟩
  · exact steady.imp fun _ _ hears => hears.mono fun _ => parting_of_steady

/-! ### What may be asked of it -/

section

variable (server : Server)

/-- Whether a session can be sent whole: its screens are within the budget and what is on them
can be said. -/
def Shows (home : Session) : Prop :=
  server.screenBytes home ≤ kSnapshotPayloadBudget ∧
    ∀ terminal ∈ server.terminals, terminal.session.Legible

/-- Whether a move takes the last terminal from a session, which then ends. -/
def Empties (request : Proto.MoveTerminal) (source : Session) : Prop :=
  (server.terminal request.term).isSome ∧ server.sessionHolding request.term = some source ∧
    server.settings.killEmptySession = true ∧ server.holdsOnly source.id request.term = true ∧
    (request.toNewSession ≠ 0 ∨
      ∃ target, server.sessionFor request.destinationSession = some target ∧ target.id ≠ source.id)

/-- Whether what a client asks for detaches nobody who watches: not itself, not whom it takes a
session from, and nobody with a session that it leaves empty. One that comes to watch finds
a session that it can be sent. -/
def AsksFairly (id : ClientId) : Message → Prop
  | .detach _ => ∀ client ∈ server.client id, client.watches = false
  | .attach request => ∀ home ∈ (server.attachSession request).1,
      (attachModeOf request = .takeOver → ∀ previous ∈ server.clientAttachedTo home.id,
        previous.id ≠ id → previous.watches = false) ∧
      (attachModeOf request = .watch → server.Shows home)
  | .setReaderMode wish => ReaderScope.ofWire wish.scope = some .others →
      AttachMode.ofWire wish.mode = some .takeOver → ∀ client ∈ server.client id,
        ∀ home ∈ server.sessionOf client, ∀ other ∈ server.readers home.id, other.id ≠ id →
          other.watches = false
  | .moveTerminal request => ∀ source, server.Empties request source →
      ∀ client ∈ server.clients, client.watches = true → client.session ≠ source.id
  | _ => True

/-- Whether a tick detaches nobody who watches: no session that it ends is watched, and a watcher
that fell behind can be sent its session. -/
def TicksFairly : Prop :=
  (∀ client ∈ server.clients, client.watches = true → (server.sessionFor client.session).isSome →
    (server.noticed.sessionFor client.session).isSome) ∧
  ∀ client ∈ server.noticed.clients, client.watches = true → client.dirtySnapshot = true →
    ∃ home, server.noticed.sessionFor client.session = some home ∧ server.noticed.Shows home

/-- Whether an event detaches nobody who watches but with its connection. -/
def SparesWatchers : ServerEvent → Prop
  | .message id message => server.Obeys id message → server.AsksFairly id message
  | .tick => server.TicksFairly
  | _ => True

end

/-- A terminal moved strands nobody, unless it leaves its session empty with somebody watching. -/
theorem NobodyStranded.moveInto (nobody : server.NobodyStranded)
    (distinct : (server.clients.map Client.id).Nodup) {term : TerminalId} {source : SessionId}
    (spared : server.settings.killEmptySession = true → server.holdsOnly source term = true →
      ∀ client ∈ server.clients, client.watches = true → client.session ≠ source)
    (target : SessionId) : (server.moveInto term source target).NobodyStranded := by
  refine (Heard.moveInto server term source target).spares nobody fun client there goes => ?_
  obtain ⟨other, found, _, here, ends, only⟩ := goes
  obtain rfl : client = other := Option.some.inj ((Data.find_of_mem distinct there).symm.trans found)
  exact Bool.eq_false_of_not_eq_true fun watches => spared ends only client there watches here

/-- A fair request to move a terminal strands nobody. -/
theorem NobodyStranded.moveTerminal (nobody : server.NobodyStranded) (sound : server.Sound)
    (id : ClientId) (request : Proto.MoveTerminal)
    (fair : server.AsksFairly id (.moveTerminal request)) :
    (server.moveTerminal id request).NobodyStranded := by
  unfold Server.moveTerminal
  split
  · rename_i terminal source known holds
    have there : (server.terminal request.term).isSome := by rw [known]; rfl
    dsimp only
    split
    · rename_i anew
      have only : (server.createSession []).2.holdsOnly source.id request.term =
          server.holdsOnly source.id request.term := by
        obtain ⟨session, found⟩ : ∃ session, server.sessionFor source.id = some session := by
          refine Option.isSome_iff_exists.mp (List.find?_isSome.mpr ⟨source, ?_, ?_⟩)
          · exact List.mem_of_find?_eq_some holds
          · exact decide_eq_true rfl
        have still : (server.createSession []).2.sessionFor source.id = some session := by
          change List.find? _ (server.sessions ++ _) = _
          rw [List.find?_append, show List.find? _ server.sessions = _ from found]
          rfl
        rw [holdsOnly, holdsOnly, found, still]
      refine @NobodyStranded.moveInto (server.createSession []).2 nobody sound.distinct _ _
        (fun ends alone => ?_) _
      exact fair source ⟨there, holds, ends, only ▸ alone, .inl anew⟩
    · split
      · exact (Steady.refuse ..).unstranded nobody
      · rename_i target found
        split
        · exact nobody
        · rename_i apart
          refine nobody.moveInto sound.distinct (fun ends alone => ?_) _
          exact fair source ⟨there, holds, ends, alone, .inr ⟨target, found, apart⟩⟩
  · exact (Steady.refuse ..).unstranded nobody

/-- What is said while some clients may do something else from now on. -/
def Minding (server : Server) (id : ClientId) : Message → Prop
  | .detached _ => False
  | .readerMode _ => server.Reads (fun _ => True) id
  | _ => True

/-- What minds those who watch strands nobody. -/
theorem Heard.minding (heard : Heard server.Minding server after) (nobody : server.NobodyStranded)
    (distinct : (server.clients.map Client.id).Nodup) : after.NobodyStranded := by
  refine heard.unstranded nobody (fun client there _ reads => ?_) fun _ _ _ said => said.elim
  obtain ⟨other, found, attached, _⟩ := reads
  obtain rfl : client = other := Option.some.inj ((Data.find_of_mem distinct there).symm.trans found)
  exact attached

/-- Changing the others' mode strands nobody: they are attached. -/
theorem NobodyStranded.setOthersMode (nobody : server.NobodyStranded) (sound : server.Sound)
    (id : ClientId) (session : SessionId) (mode : AttachMode) :
    (server.setOthersMode id session mode).NobodyStranded := by
  have minds : Tells server.Minding Eq server (server.setOthersMode id session mode) := by
    refine Tells.forEachReader session fun middle told reader found reads => ?_
    rw [found]
    dsimp only
    split
    · exact .refl middle
    · obtain ⟨one, was, hears⟩ := told.was found
      have reading := hears.reads reads
      have attached : one.attached = true := by
        simp only [Client.reads, Bool.and_eq_true] at reading
        exact reading.1.1
      have said : server.Minding reader.id (.readerMode ⟨mode.toWire⟩) := ⟨one, was, attached, trivial⟩
      refine Tells.next (.keep middle reader.id (fun client _ => ?_) fun _ => ?_)
        (.say _ reader.id said rfl)
      · exact .moded said rfl
      · rfl
  exact Heard.minding (.told minds fun _ _ said => said) nobody sound.distinct

/-- Evicting the others strands nobody where none of them watches. -/
theorem NobodyStranded.evictOthers (nobody : server.NobodyStranded) (sound : server.Sound)
    (id : ClientId) (session : SessionId)
    (spared : ∀ other ∈ server.readers session, other.id ≠ id → other.watches = false) :
    (server.evictOthers id session).NobodyStranded := by
  have going : Tells (Parting fun each => each ≠ id ∧ server.Reads (· = session) each) Eq server
      (server.evictOthers id session) := by
    refine .foldl _ (fun _ => rfl) (fun _ _ _ same again => same.trans again) fun middle told each among => ?_
    obtain ⟨listed, another⟩ := List.mem_filter.mp among
    obtain ⟨other, reads, rfl⟩ := List.mem_map.mp listed
    obtain ⟨there, reading⟩ := List.mem_filter.mp reads
    simp only [Client.reads, Bool.and_eq_true, decide_eq_true_eq] at reading
    split
    · exact .refl middle
    · split
      · exact .refl middle
      · exact .detach middle other.id ⟨of_decide_eq_true another, other,
          Data.find_of_mem sound.distinct there, reading.1.1, reading.2⟩
  refine Heard.spares (.told going fun _ _ said => said) nobody fun client there goes => ?_
  obtain ⟨another, other, found, attached, here⟩ := goes
  obtain rfl : client = other :=
    Option.some.inj ((Data.find_of_mem sound.distinct there).symm.trans found)
  refine spared client (List.mem_filter.mpr ⟨there, ?_⟩) another
  simp [Client.reads, attached, (sound.seated client there attached).stays, here]

/-- A fair wish about modes strands nobody. -/
theorem NobodyStranded.handleSetReaderMode (nobody : server.NobodyStranded) (sound : server.Sound)
    (id : ClientId) (wish : Proto.SetReaderMode)
    (fair : server.AsksFairly id (.setReaderMode wish)) :
    (server.handleSetReaderMode id wish).NobodyStranded := by
  unfold Server.handleSetReaderMode
  split
  · exact nobody
  · rename_i client found
    dsimp only
    split
    · exact (Steady.refuse ..).unstranded nobody
    · exact (Steady.refuse ..).unstranded nobody
    · exact (Steady.refuse ..).unstranded nobody
    · exact (Steady.refuse ..).unstranded nobody
    · rename_i session mode _ homed _ _
      have attached : client.attached = true := by
        by_contra away
        rw [Server.sessionOf, if_neg away] at homed
        cases homed
      have minds : Tells server.Minding Eq server
          (server.setClient id fun client => { client with mode := mode }) := by
        refine .keep server id (fun other _ => ?_) fun _ => rfl
        have said : server.Minding id (.readerMode ⟨0⟩) := ⟨client, found, attached, trivial⟩
        exact .moded said rfl
      exact Heard.minding (.told minds fun _ _ said => said) nobody sound.distinct
    · rename_i session homed scope mode
      exact nobody.evictOthers sound _ _ (fair scope mode client found session homed)
    · exact nobody.setOthersMode sound _ _ _

/-! ### Attaching -/

/-- The session an attach asks for is found where it is found or made, with the terminals and
the pictures there were. -/
theorem attachSession_found {made : Server} {request : Proto.Attach} {session : Session}
    (asked : server.attachSession request = (some session, made)) :
    made.sessionFor session.id = some session ∧ made.terminals = server.terminals ∧
      made.pictures = server.pictures := by
  unfold Server.attachSession at asked
  split at asked
  · rename_i found
    injection asked with first second
    obtain rfl := Option.some.inj first
    subst second
    exact ⟨by rw [sessionFor_id found]; exact found, rfl, rfl⟩
  · split at asked
    · cases congrArg Prod.fst asked
    · split at asked
      · rename_i first rest held
        injection asked with taken second
        obtain rfl := Option.some.inj taken
        subst second
        exact ⟨by rw [sessionFor, held]; simp, rfl, rfl⟩
      · rename_i none_there
        injection asked with taken second
        obtain rfl := Option.some.inj taken
        subst second
        refine ⟨?_, rfl, rfl⟩
        rw [sessionFor]
        simp [createSession, none_there]

/-- A session that can be sent leaves its reader attached, as far as its connection lasts. -/
theorem Steady.sendSnapshot [Emulator] {id : ClientId} {client : Client}
    (found : server.client id = some client) (sendable : (server.clean id).Sendable client) :
    Steady server (server.sendSnapshot id) := by
  obtain ⟨within, framed⟩ := sendable
  obtain ⟨owed, made⟩ := sendSnapshot_eq found
  have cleaned : Steady server (server.clean id) := Steady.idle server id fun _ => rfl
  have listed : Tells Calmly Terminal.Flagged (server.clean id)
      ((server.clean id).listSession client).2 := Tells.snapshotTerminals ..
  have sent : Steady ((server.clean id).listSession client).2
      (((server.clean id).listSession client).2.deliver id
        ((server.clean id).attachedMessage client) fun heard =>
          heard.detach id .sessionKilled (utf8 "this session is too large to send")) := by
    have said : Steadily id ((server.clean id).attachedMessage client) := rfl
    exact .told (.deliverOr _ id said fun empty => absurd empty framed) fun _ _ said => said
  rw [made, if_neg (Nat.not_lt.mpr within)]
  exact ((cleaned.trans (Steady.tells listed)).trans sent).trans (Steady.idle _ id fun _ => rfl)

/-- Whoever is sent a session, whole or not, is not left watching nothing: it does not watch, or
the session can be sent. -/
theorem NobodyStranded.sendSnapshot [Emulator] (nobody : server.NobodyStranded)
    (sound : server.Sound) {id : ClientId} {client : Client}
    (found : server.client id = some client)
    (fair : client.watching = true → (server.clean id).Sendable client) :
    (server.sendSnapshot id).NobodyStranded := by
  by_cases watching : client.watching = true
  · exact (Steady.sendSnapshot found (fair watching)).unstranded nobody
  · have told := Tells.sendSnapshot found
    refine Heard.unstranded (.told told fun _ _ said => said) nobody ?_ ?_
    · rintro other _ said ⟨_, same | ⟨_, _, same⟩⟩ <;> cases same
    · rintro other there said ⟨named, _⟩
      have only := Data.find_of_mem sound.distinct there
      rw [named] at only
      obtain rfl : other = client := Option.some.inj (only.symm.trans found)
      refine ⟨?_, ?_⟩
      · rw [Client.watches, Bool.eq_false_of_not_eq_true watching, Bool.and_false]
      · rintro said ⟨_, same | ⟨_, _, same⟩⟩ <;> cases same

/-- A takeover strands nobody where nobody who watches is taken over from. -/
theorem NobodyStranded.takeOver (nobody : server.NobodyStranded) (sound : server.Sound)
    {id : ClientId} {session : SessionId}
    (spared : ∀ previous ∈ server.clientAttachedTo session, previous.id ≠ id →
      previous.watches = false) : (server.takeOver id session).NobodyStranded := by
  unfold Server.takeOver
  split
  · exact nobody
  · rename_i previous found
    split
    · exact nobody
    · rename_i another
      refine nobody.detach (fun client there named => ?_) _ _
      have only := Data.find_of_mem sound.distinct (List.mem_of_find?_eq_some found)
      rw [← named] at only
      obtain rfl : client = previous :=
        Option.some.inj ((Data.find_of_mem sound.distinct there).symm.trans only)
      exact spared client found another

/-- A session's screens take as many bytes as before, if its terminals and pictures are the same. -/
theorem screenBytes_congr (terminals : after.terminals = before.terminals)
    (pictures : after.pictures = before.pictures) (session : Session) :
    after.screenBytes session = before.screenBytes session := by
  have each : after.terminalBytes = before.terminalBytes := by
    funext term
    rw [terminalBytes, terminalBytes, terminal, terminal, terminals, pictures]
  rw [screenBytes, screenBytes, each]

/-- Whoever is seated takes the session from nobody who watches it. -/
theorem NobodyStranded.seat (nobody : server.NobodyStranded) (sound : server.Sound) {id : ClientId}
    {request : Proto.Attach} {session : Session}
    (ready : ∀ client, server.client id = some client → client.Ready)
    (spared : attachModeOf request = .takeOver → ∀ previous ∈ server.clientAttachedTo session.id,
      previous.id ≠ id → previous.watches = false) :
    (server.seat id request session).NobodyStranded ∧ (server.seat id request session).Sound := by
  have settles : ∀ granted : Server, granted.NobodyStranded → granted.Sound →
      granted.client id = server.client id →
      (granted.setClient id (settle request session.id)).NobodyStranded ∧
        (granted.setClient id (settle request session.id)).Sound := by
    intro granted calm firm own
    refine ⟨calm.setClient id fun _ _ _ stranded => Bool.noConfusion stranded.2.1, ?_⟩
    exact firm.settle request session.id fun client found => ready client (own ▸ found)
  have firm := sound.setSession session.id fun session =>
    { session with
      desktop := server.arrivingDesktop session ⟨request.columns.toNat, request.rows.toNat⟩ }
  have calm : (server.setSession session.id fun session =>
    { session with
      desktop := server.arrivingDesktop session
        ⟨request.columns.toNat, request.rows.toNat⟩ }).NobodyStranded := nobody
  unfold Server.seat
  dsimp only
  split
  · rename_i taking
    exact settles _ (calm.takeOver firm (spared taking)) (firm.takeOver ..) (takeOver_client ..)
  · exact settles _ calm firm rfl

/-- A fair attachment strands nobody. -/
theorem NobodyStranded.attach [Emulator] (nobody : server.NobodyStranded) (sound : server.Sound)
    {id : ClientId} {client : Client} {request : Proto.Attach}
    (there : server.client id = some client) (ready : client.Ready)
    (fair : server.AsksFairly id (.attach request)) : (server.attach id request).NobodyStranded := by
  cases asked : server.attachSession request with
  | mk home made =>
    have same : made.clients = server.clients := (attachSession_same asked).1
    have firm : made.Sound := by
      have found := sound.attachSession request
      rwa [asked] at found
    have calm : made.NobodyStranded := by
      unfold NobodyStranded
      rwa [same]
    have here : made.client id = some client := by
      rw [← there, Server.client, same]
      rfl
    unfold Server.attach
    rw [asked]
    cases home with
    | none => exact (Steady.refuse ..).unstranded calm
    | some session =>
        obtain ⟨spared, shows⟩ := fair session (by rw [asked]; rfl)
        obtain ⟨home, terminals, pictures⟩ := attachSession_found asked
        have spared : attachModeOf request = .takeOver →
            ∀ previous ∈ made.clientAttachedTo session.id, previous.id ≠ id →
              previous.watches = false := by
          unfold clientAttachedTo at spared ⊢
          rwa [same]
        obtain ⟨seated, settled⟩ := calm.seat firm
          (fun other found => Option.some.inj (here.symm.trans found) ▸ ready) spared
        refine seated.sendSnapshot settled (seat_client here request session) fun watching => ?_
        obtain ⟨within, legible⟩ := shows (of_decide_eq_true watching)
        refine (seat_sendable_iff home fun terminal known => ?_).mpr
          (screenBytes_congr terminals pictures session ▸ within)
        exact ⟨firm.titled terminal known, legible terminal (terminals ▸ known)⟩

/-! ### Messages -/

/-- A fair message strands nobody. -/
theorem NobodyStranded.act [Emulator] (nobody : server.NobodyStranded) (sound : server.Sound)
    {id : ClientId} {client : Client} {message : Message}
    (found : server.client id = some client)
    (ready : client.Ready) (fair : server.AsksFairly id message) :
    (server.act id message).NobodyStranded := by
  cases message with
  | attach request => exact nobody.attach sound found ready fair
  | detach =>
      refine nobody.detach (fun other there named => ?_) _ _
      have only := Data.find_of_mem sound.distinct there
      exact fair other (named ▸ only)
  | setReaderMode wish => exact nobody.handleSetReaderMode sound id wish fair
  | moveTerminal request => exact nobody.moveTerminal sound id request fair
  | input given => exact nobody.input id given
  | ping => exact (Steady.say server id rfl).unstranded nobody
  | watchStats =>
      refine Steady.unstranded (Steady.idle server id ?_) nobody
      exact fun _ => rfl
  | hello => exact (Steady.drop server id).unstranded nobody
  | listSessions => exact (Steady.calmly (.sendSessionList server id fun _ => rfl)).unstranded nobody
  | newSession request => exact (Steady.newSession server id request).unstranded nobody
  | killSession request => exact (Steady.killSession server id request).unstranded nobody
  | renameSession request => exact (Steady.renameSession server id request).unstranded nobody
  | renameTerminal request =>
      refine Steady.unstranded (Steady.withTerminal server id _ _ ?_) nobody
      exact fun _ => .same rfl
  | printJobFetch request => exact (Steady.printJobFetch server id request).unstranded nobody
  | printJobDiscard request => exact (Steady.printJobDiscard server id request).unstranded nobody
  | setPrinterPolicy request => exact (Steady.setPrinterPolicy server id request).unstranded nobody
  | clientResize resize => exact (Steady.clientResize server id resize).unstranded nobody
  | setDesktopSize fit => exact (Steady.setDesktopSize server id fit).unstranded nobody
  | moveResize request =>
      refine Steady.unstranded (Steady.withTerminal server id _ _ ?_) nobody
      exact fun _ => .same rfl
  | setLayout report => exact (Steady.setLayout server id report).unstranded nobody
  | newTerminal request => exact (Steady.newTerminal server id request).unstranded nobody
  | respawnTerminal request => exact (Steady.respawnTerminal server id request).unstranded nobody
  | pasteChunk => exact nobody
  | closeTerminal request => exact (Steady.beginClose server ..).unstranded nobody
  | killTerminal request => exact (Steady.beginKillTerminal server _).unstranded nobody
  | killServer => exact nobody
  | _ => exact (Steady.refuse server ..).unstranded nobody

/-- A message handled strands nobody if it is fair wherever it is obeyed. -/
theorem NobodyStranded.handle [Emulator] (nobody : server.NobodyStranded) (sound : server.Sound)
    {id : ClientId} {message : Message} (heard : server.hears id)
    (fair : server.Obeys id message → server.AsksFairly id message) :
    (server.handle id message).NobodyStranded := by
  obtain ⟨client, found, isOpen, stays⟩ := heard
  unfold Server.handle
  rw [found]
  dsimp only
  split
  · split
    · exact nobody
    · exact (Steady.drop ..).unstranded nobody
  · rename_i matched
    split
    · exact (Steady.greet ..).unstranded nobody
    · rename_i greeted
      split
      · exact (Steady.refuseWatcher ..).unstranded nobody
      · rename_i free
        have matched := Bool.eq_false_of_not_eq_true matched
        have greeted := not_not.mp greeted
        refine nobody.act sound found ⟨greeted, matched, Bool.eq_false_of_not_eq_true stays, isOpen⟩
          (fair ⟨client, found, matched, greeted, free⟩)

/-! ### Ticks -/

theorem Steady.announceNews (server : Server) (terminal : Terminal) :
    Steady server (server.announceNews terminal) :=
  tells (.newsOf server terminal fun _ _ => calm_of_tidings)

/-- What is noted of terminals makes no session larger. -/
theorem Shows.flagged {home : Session} (shows : before.Shows home)
    (terminals : List.Forall₂ Terminal.Flagged before.terminals after.terminals)
    (pictures : after.pictures = before.pictures) : after.Shows home where
  left := by
    have each : after.terminalBytes = before.terminalBytes := by
      funext id
      have paired := @Data.paired_find _ _ _ Terminal.id _ _ _
        (fun _ _ flagged => flagged.noted.id) terminals id
      unfold Server.terminalBytes Server.terminal
      rw [pictures]
      generalize before.terminals.find? (fun terminal => terminal.id = id) = earlier at paired ⊢
      generalize after.terminals.find? (fun terminal => terminal.id = id) = later at paired ⊢
      cases paired with
      | none => rfl
      | some flagged =>
          obtain ⟨_, _, _, rfl⟩ := flagged
          rfl
    rw [screenBytes, each]
    exact shows.1
  right terminal there := by
    obtain ⟨one, was, _, _, _, rfl⟩ := Data.paired_before terminals there
    exact shows.2 one was

/-- Putting the terminals in a snapshot leaves the pictures alone. -/
theorem snapshotTerminals_pictures (server : Server) (held : List TerminalId) (index : UInt16) :
    (server.snapshotTerminals held index).2.pictures = server.pictures := by
  induction held generalizing server index with
  | nil => rfl
  | cons id ids ih =>
      rw [Server.snapshotTerminals]
      split
      · exact ih ..
      · exact ih ..

/-- The pictures are spared. -/
theorem Spares.pictures {id : ClientId} (spares : Spares id before after) :
    after.pictures = before.pictures := by
  obtain ⟨_, _, _, _, _, rfl⟩ := spares
  rfl

/-- A session that can be sent can be sent again. -/
theorem Shows.sendSnapshot [Emulator] {home : Session} {id : ClientId} {client : Client}
    (shows : server.Shows home) (found : server.client id = some client) :
    (server.sendSnapshot id).Shows home := by
  refine shows.flagged (Tells.sendSnapshot found).terminals ?_
  obtain ⟨owed, made⟩ := sendSnapshot_eq found
  have listed : ((server.clean id).listSession client).2.pictures = server.pictures :=
    snapshotTerminals_pictures ..
  have sent : ∀ middle : Server, Spares id middle (middle.deliver id
      ((server.clean id).attachedMessage client) fun heard =>
        heard.detach id .sessionKilled (utf8 "this session is too large to send")) :=
    fun middle => .deliver middle id _ fun heard => .detach heard ..
  rw [made]
  split
  · rw [(Spares.detach ..).pictures, listed]
  · exact (sent _).pictures.trans listed

/-- One client's turn to be sent what it missed. -/
def healNext [Emulator] (server : Server) (id : ClientId) : Server :=
  match server.client id with
  | none => server
  | some client =>
      if ¬client.attached ∨ ¬client.dirtySnapshot then server
      else
        let flushed := server.flush client.id
        if ((flushed.client client.id).map fun client => client.stream.readyForScreen).getD
            false then flushed.sendSnapshot client.id
        else flushed

/-- A watcher that fell behind has a session that it can be sent. -/
def Healable (server : Server) (id : ClientId) : Prop :=
  ∀ client, server.client id = some client → client.watches = true →
    client.dirtySnapshot = true →
    ∃ home, server.sessionFor client.session = some home ∧ server.Shows home

/-- A turn leaves nobody watching nothing, and every other client's turn as it was. -/
theorem NobodyStranded.healNext [Emulator] (nobody : server.NobodyStranded) (sound : server.Sound)
    {id : ClientId} (healable : server.Healable id) :
    (server.healNext id).NobodyStranded ∧ (server.healNext id).Sound ∧
      ∀ other, other ≠ id → server.Healable other → (server.healNext id).Healable other := by
  unfold Server.healNext
  split
  · exact ⟨nobody, sound, fun _ _ still => still⟩
  · rename_i client found
    have named := client_id found
    subst named
    split
    · exact ⟨nobody, sound, fun _ _ still => still⟩
    · rename_i behind
      obtain ⟨attached, dirty⟩ := not_or.mp behind
      let flushing := fun client : Client =>
        { client with stream := client.stream.flush (server.kernel server.writes) }
      have there : (server.flush client.id).client client.id = some (flushing client) :=
        @setClient_found { server with writes := server.writes + 1 } client.id client flushing
          found fun _ => rfl
      have calm : (server.flush client.id).NobodyStranded :=
        (Steady.calmly (.flush server client.id)).unstranded nobody
      have firm : (server.flush client.id).Sound := sound.flush _
      have apart : ∀ other, other ≠ client.id →
          (server.flush client.id).client other = server.client other := fun other another =>
        (@client_setClient { server with writes := server.writes + 1 } client.id other flushing
          fun _ => rfl).trans (if_neg another)
      dsimp only
      split
      · refine ⟨calm.sendSnapshot firm there fun watching => ?_, firm.sendSnapshot _, ?_⟩
        · have watches : client.watches = true := by
            rw [Client.watches, not_not.mp attached]
            exact watching
          obtain ⟨home, housed, shows⟩ := healable client found watches (not_not.mp dirty)
          have clear : ∀ terminal ∈ server.terminals,
              terminal.Titled ∧ terminal.session.Legible :=
            fun terminal known => ⟨sound.titled terminal known, shows.2 terminal known⟩
          exact (@sendable_iff ((server.flush client.id).clean client.id) (flushing client) home
            housed clear).mpr shows.1
        · intro other another still each seen watches behind
          rw [sendSnapshot_client _ another, apart other another] at seen
          obtain ⟨home, housed, shows⟩ := still each seen watches behind
          refine ⟨home, ?_, ?_⟩
          · rw [Server.sessionFor, sendSnapshot_sessions]
            exact housed
          · have flushed : (server.flush client.id).Shows home := shows
            exact flushed.sendSnapshot there
      · refine ⟨calm, firm, fun other another still each seen => ?_⟩
        rw [apart other another] at seen
        exact still each seen

/-- Healing strands nobody where everyone who watches can be sent the session. -/
theorem NobodyStranded.heal [Emulator] (nobody : server.NobodyStranded) (sound : server.Sound)
    (fair : ∀ client ∈ server.clients, client.watches = true → client.dirtySnapshot = true →
      ∃ home, server.sessionFor client.session = some home ∧ server.Shows home) :
    server.heal.NobodyStranded := by
  have turns : ∀ (ids : List ClientId) (middle : Server), ids.Nodup → middle.NobodyStranded →
      middle.Sound → (∀ id ∈ ids, middle.Healable id) →
      (ids.foldl Server.healNext middle).NobodyStranded := by
    intro ids
    induction ids with
    | nil => exact fun _ _ nobody _ _ => nobody
    | cons id ids ih =>
        intro middle distinct nobody sound healable
        obtain ⟨another, distinct⟩ := List.nodup_cons.mp distinct
        obtain ⟨calm, firm, others⟩ := nobody.healNext sound (healable id List.mem_cons_self)
        refine ih _ distinct calm firm fun other among => ?_
        refine others other ?_ (healable other (List.mem_cons_of_mem _ among))
        rintro rfl
        exact another among
  exact turns _ _ sound.distinct nobody sound fun id _ client found =>
    fair client (client_mem found)

variable [CkVision] [Emulator]

/-- A fair tick strands nobody. -/
theorem NobodyStranded.flushTick (nobody : server.NobodyStranded) (sound : server.Sound)
    (fair : server.TicksFairly) : server.flushTick.NobodyStranded := by
  obtain ⟨ends, shows⟩ := fair
  have noticed : server.noticed.NobodyStranded := by
    refine (Wanes.noticed server).heard.spares nobody fun client there goes => ?_
    obtain ⟨other, found, _, was, gone⟩ := goes
    obtain rfl : client = other :=
      Option.some.inj ((Data.find_of_mem sound.distinct there).symm.trans found)
    refine Bool.eq_false_of_not_eq_true fun watches => ?_
    have stays := ends client there watches was
    rw [gone] at stays
    cases stays
  have firm : server.noticed.Sound := by
    have ended := sound.dropMismatched.observeExits.advanceKills.advanceCloses
    unfold Server.noticed
    refine Sound.noticeExits ?_
    split
    · exact ended.flushReaderCounts
    · exact ended
  have healed := noticed.heal firm shows
  have dripped := (Steady.calmly (.drip server.noticed.heal)).unstranded healed
  have marked : server.noticed.heal.drip.announceTerminalNews.NobodyStranded := by
    refine Steady.unstranded (.forEachTerminal fun middle terminal => ?_) dripped
    exact Steady.announceNews middle terminal
  obtain ⟨announced, announces⟩ : ∃ announced,
      announced = server.noticed.heal.drip.announceTerminalNews.announceLayout 0 := ⟨_, rfl⟩
  have laid : announced.NobodyStranded := announces ▸ (Steady.announceLayout _ 0).unstranded marked
  have flushed := (Steady.tells (.flushTerminals announced
    (announced.terminals.map Terminal.id))).unstranded laid
  have told := (Steady.calmly (.markFlooded _)).unstranded flushed
  have ticks : server.flushTick =
      (announced.flushTerminals (announced.terminals.map Terminal.id)).2.markFlooded.fanOut
        (announced.flushTerminals (announced.terminals.map Terminal.id)).1 := by
    rw [announces]
    rfl
  rw [ticks]
  exact (Steady.calmly (.fanOut _ _)).unstranded told

/-- An event that spares those who watch strands nobody. -/
theorem NobodyStranded.step (nobody : server.NobodyStranded) (sound : server.Sound)
    {event : ServerEvent} (allowed : serverSystem.allows server event)
    (fair : server.SparesWatchers event) : (server.step event).NobodyStranded := by
  cases event with
  | connect =>
      intro client there
      rcases List.mem_append.mp there with known | added
      · exact nobody client known
      · rw [List.mem_singleton.mp added]
        exact fun stranded => Bool.noConfusion stranded.1
  | message id message => exact nobody.handle sound allowed fair
  | hangUp id => exact (Steady.drop server id).unstranded nobody
  | writable id =>
      have flushed : Steady server (server.flush id) := .calmly (.flush server id)
      dsimp only [Server.step, Server.writable]
      split
      · exact (Steady.drop _ id).unstranded (flushed.unstranded nobody)
      · exact flushed.unstranded nobody
  | paste id chunk => exact (Steady.say _ id rfl).unstranded (nobody.input id _)
  | pasteAck id seq => exact (Steady.say server id rfl).unstranded nobody
  | output => exact nobody
  | wait => exact nobody
  | tick => exact nobody.flushTick sound fair
  | sweep => exact fun client there => nobody client (List.mem_filter.mp there).1

end Server

/-- The server, of whose events none detaches anybody who watches but with its connection. -/
def watchSystem [CkVision] [Emulator] : System Server ServerEvent :=
  serverSystem.guarded fun server event => server.SparesWatchers event

namespace Server

variable [CkVision] [Emulator] {server : Server}

/-- In such a run everybody who watches is attached, and a client that is attached to nothing has
every message carried out: the gate is not for it. -/
theorem unattached_free (reached : watchSystem.Reachable server) :
    server.NobodyStranded ∧ ∀ client, server.client client.id = some client →
      client.greeted = true → client.awaitingKillFromMismatchedCli = false →
      client.closing = false → client.attached = false → ∀ message,
        server.handle client.id message = server.act client.id message := by
  have fine : server.Sound ∧ server.NobodyStranded := by
    refine @System.Reachable.invariant _ _ watchSystem
      (fun server => server.Sound ∧ server.NobodyStranded) ?_ ?_ _ reached
    · rintro _ ⟨settings, kernel, now, rfl⟩
      exact ⟨reachable_sound (.start ⟨settings, kernel, now, rfl⟩),
        fun _ there => absurd there List.not_mem_nil⟩
    · intro server event kept allowed
      exact ⟨kept.1.step event allowed.1, kept.2.step kept.1 allowed.1 allowed.2⟩
  refine ⟨fine.2, fun client found greeted matched stays away message => ?_⟩
  have free : client.watching = false :=
    Bool.eq_false_of_not_eq_true fun watching =>
      fine.2 client (client_mem found) ⟨watching, away, stays⟩
  unfold Server.handle
  rw [found]
  dsimp only
  rw [matched, if_neg Bool.false_ne_true, if_neg (not_not.mpr greeted), if_neg]
  rw [free]
  exact fun both => Bool.false_ne_true both.1

end Server

/-! ### A watcher that leaves -/

/-- Why a message says that something was refused. -/
def refusalOf : Message → Option (UInt16 × Bytes)
  | .error error => some (error.code, error.human)
  | _ => none

/-- One comes to watch a session of its own. -/
def watcherEvents : List ServerEvent :=
  [.connect, .message 1 hello, .message 1 (.attach { attachTo .watch with session := 0 })]

/-- The server with one who watches. -/
def watchedServer : Server :=
  watcherEvents.foldl (@serverSystem asciiVision blankEmulator).step freshServer

/-- It detaches. -/
def departedServer : Server :=
  @Server.step asciiVision blankEmulator watchedServer (.message 1 (.detach {}))

/-- That is a run. -/
theorem watcherEvents_allowed :
    (@serverSystem asciiVision blankEmulator).AllowsAll freshServer watcherEvents := by
  decide +kernel

/-- It spares those who watch all along. -/
theorem watcherEvents_fair : (@serverSystem asciiVision blankEmulator).Throughout
    (fun server event => server.SparesWatchers event) freshServer watcherEvents := by
  have empty : ∀ (server : Server) (home : Session) request,
      (server.attachSession request).1 = some home →
      ((server.attachSession request).1.map Session.terminals, server.terminals.length) =
        (some [], 0) → server.Shows home := by
    intro server home request found empty
    rw [found] at empty
    injection empty with held none_open
    refine ⟨?_, fun terminal there => ?_⟩
    · rw [Server.screenBytes, Option.some.inj held]
      exact show 24 + 0 ≤ kSnapshotPayloadBudget by decide
    · rw [List.length_eq_zero_iff.mp none_open] at there
      cases there
  refine ⟨trivial, fun _ => trivial, fun _ home found => ⟨?_, fun _ => ?_⟩, trivial⟩
  · exact fun taking => absurd taking (by decide)
  · exact empty _ home _ found (by decide +kernel)

/-- The server is reached so. -/
theorem watchedServer_reached : (@watchSystem asciiVision blankEmulator).Reachable watchedServer := by
  have fresh : (@watchSystem asciiVision blankEmulator).Reachable freshServer :=
    .start ⟨{}, _, 0, rfl⟩
  exact fresh.follow watcherEvents
    (watcherEvents_allowed.guard (fun _ _ fair => fair) watcherEvents_fair)

namespace Server

/-- One that watches is attached. -/
theorem unattached_free_watcher : watchedServer.NobodyStranded :=
  (@unattached_free asciiVision blankEmulator _ watchedServer_reached).1

/-- One that watched and left is refused a session, as it would not be if it had not watched. -/
theorem left_watcher_refused :
    (@serverSystem asciiVision blankEmulator).Reachable departedServer ∧
      (clientOf departedServer 1).Stranded ∧
      (@Server.handle blankEmulator departedServer 1 (.newSession {})).sessions.length = 1 ∧
      (clientOf (@Server.handle blankEmulator departedServer 1
          (.newSession {})) 1).stream.sent.getLast?.bind refusalOf =
        some (ErrorCode.readOnly.toWire,
          utf8 "this client is watching this session; stop watching to change it") ∧
      (@Server.act blankEmulator departedServer 1 (.newSession {})).sessions.length = 2 := by
  have reached : (@serverSystem asciiVision blankEmulator).Reachable watchedServer :=
    watchedServer_reached.unguarded
  have left : (@serverSystem asciiVision blankEmulator).Reachable departedServer :=
    reached.take (.message 1 (.detach {})) (by decide +kernel) rfl
  exact ⟨left, by decide +kernel, by decide +kernel, by decide +kernel, by decide +kernel⟩

end Server

end Ckmux
