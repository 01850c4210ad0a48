import Mathlib
import Ckmux.Grid.Inverse
import Ckmux.Server.Sound
import Ckmux.Server.Spares

/-!
# Every reachable server is sound

One lemma for each function of the server, in the order of its modules, and from them
the step and the run.
-/

namespace Ckmux

open Grammar (Bytes)
open Proto (Message)
open Semantics (System)

/-- A text clamped is no longer than it is clamped to. -/
theorem length_clampUtf8 (text : Bytes) (limit : Nat) : (clampUtf8 text limit).length ≤ limit := by
  have cut_le : ∀ cut, clampCut text cut ≤ cut := by
    intro cut
    induction cut with
    | zero => exact Nat.le_refl 0
    | succ cut ih =>
        rw [clampCut]
        split
        · exact ih.trans (Nat.le_succ cut)
        · exact Nat.le_refl _
  rw [clampUtf8]
  split
  · assumption
  · exact (List.length_take_le ..).trans (cut_le limit)

/-- A title set is clamped to what the wire allows. -/
theorem Terminal.Titled.setCustomTitle {terminal : Terminal} (titled : terminal.Titled)
    (title : Bytes) : (terminal.setCustomTitle title).Titled := by
  rw [Terminal.setCustomTitle]
  split
  · exact titled
  · exact length_clampUtf8 title _

/-- Laying a terminal out keeps its title. -/
theorem Terminal.Titled.setLayout {terminal : Terminal} (titled : terminal.Titled)
    (layout : WindowLayout) : (terminal.setLayout layout).Titled := by
  rw [Terminal.setLayout]
  split <;> exact titled

/-- Looking for its exit keeps its title. -/
theorem Terminal.Titled.observeExit {terminal : Terminal} (titled : terminal.Titled) :
    terminal.observeExit.Titled := by
  rw [Terminal.observeExit]
  split
  · exact titled
  · split <;> exact titled

/-- Discarding its jobs keeps its title. -/
theorem Terminal.Titled.discardPrintJobs {terminal : Terminal} (titled : terminal.Titled)
    (id : UInt64) : (terminal.discardPrintJobs id).2.Titled := by
  rw [Terminal.discardPrintJobs]
  split
  · exact titled
  · split <;> exact titled

namespace Server

variable {server : Server}

/-! ### Sessions -/

theorem Sound.createSession (sound : server.Sound) (name : Bytes) :
    (server.createSession name).2.Sound := sound.congr rfl rfl rfl

/-- A terminal opened has a title that is clamped. -/
theorem Sound.openTerminal [Emulator] (sound : server.Sound) (session : SessionId)
    (spec : TerminalSpec) : (server.openTerminal session spec).2.Sound := by
  have stored : Sound { server with
      terminals := server.terminals ++ [Terminal.opened server.nextTerminal spec]
      nextTerminal := server.nextTerminal + 1 } :=
    { sound with
      titled := by
        intro terminal there
        rcases List.mem_append.mp there with before | opened
        · exact sound.titled terminal before
        · rw [List.mem_singleton.mp opened]
          exact Nat.zero_le _ }
  rw [Server.openTerminal]
  dsimp only
  split
  · exact stored.setSession ..
  · exact (stored.createSession []).setSession ..

theorem Sound.sendSessionList (sound : server.Sound) (id : ClientId) :
    (server.sendSessionList id).Sound := by
  have keeps : Client.Keeps fun client =>
      if client.awaitingSessionRemoval ≠ 0 ∧
          server.sessionList.sessions.all fun session =>
            session.id ≠ client.awaitingSessionRemoval then
        { client with awaitingSessionRemoval := 0 }
      else client := by
    refine .of_eq ?_ ?_ ?_ ?_ ?_ ?_ <;> intro client <;> split <;> rfl
  exact (sound.send id _).setClient id keeps

theorem Sound.broadcastSessionList (sound : server.Sound) (requester : Option ClientId) :
    (server.broadcastSessionList requester).Sound := by
  have clean : Sound { server with sessionListDirty := false } := sound.congr rfl rfl rfl
  refine clean.foldl _ fun server each sound => ?_
  split
  · exact sound
  · split
    · exact sound.sendSessionList each
    · exact sound

theorem Sound.announceSessionLayout (sound : server.Sound) (session : Session) (forced : Bool) :
    (server.announceSessionLayout session forced).Sound := by
  rw [Server.announceSessionLayout]
  split
  · exact sound
  · split
    · exact sound
    · refine Sound.foldl ?_ _ ?_
      · exact sound.forEachAttached _ _ fun server each sound => sound.send each _
      · intro server id sound
        exact sound.setTerminal id _ fun _ titled => titled

theorem Sound.announceLayout (sound : server.Sound) (forceSession : SessionId) :
    (server.announceLayout forceSession).Sound :=
  sound.foldl _ fun _ session sound => sound.announceSessionLayout session _

theorem Sound.forgetSession (sound : server.Sound) (id : SessionId) (reason : Proto.DetachReason)
    (text : Bytes) : (server.forgetSession id reason text).Sound := by
  have stopped : ∀ {told : Server} {last : Prop} [Decidable last], told.Sound →
      Sound (if last then { told with running := false } else told) :=
    fun told => .ite (told.congr rfl rfl rfl) told
  rw [Server.forgetSession]
  refine stopped (Sound.broadcastSessionList ?_ none)
  refine Sound.congr (sound.foldl _ ?_) rfl rfl rfl
  intro server each sound
  split
  · exact sound
  · split
    · exact sound.detach each reason text
    · exact sound

theorem Sound.beginKill (sound : server.Sound) (session : Session) (force : Bool) (grace : UInt16) :
    (server.beginKill session force grace).Sound := by
  have asked : Sound (session.terminals.foldl (fun server id =>
      server.setTerminal id fun terminal => terminal.ask .terminate) server) :=
    sound.foldl _ fun _ id sound => sound.setTerminal id _ fun _ titled => titled
  exact asked.congr rfl rfl rfl

theorem Sound.beginClose (sound : server.Sound) (id : TerminalId) (force : Bool) (grace : UInt16) :
    (server.beginClose id force grace).Sound := by
  have asked := sound.setTerminal id (fun terminal => terminal.ask .terminate) fun _ titled => titled
  rw [Server.beginClose]
  split
  · exact sound
  · dsimp only
    split <;> exact asked.congr rfl rfl rfl

theorem Sound.beginKillTerminal (sound : server.Sound) (id : TerminalId) :
    (server.beginKillTerminal id).Sound := by
  have asked := sound.setTerminal id (fun terminal => terminal.ask .kill) fun _ titled => titled
  rw [Server.beginKillTerminal]
  split
  · exact sound
  · dsimp only
    split <;> exact asked.congr rfl rfl rfl

theorem Sound.moveInto (sound : server.Sound) (term : TerminalId) (source target : SessionId) :
    (server.moveInto term source target).Sound := by
  have unclosed : Sound { server with
      closes := server.closes.filter fun pending => pending.term ≠ term } := sound.congr rfl rfl rfl
  have cleared := ((unclosed.setSession source fun session =>
    { session with terminals := session.terminals.filter fun id => id ≠ term }).setSession target
      fun session => { session with terminals := session.terminals ++ [term] }).setTerminal term
        Terminal.clearLayout fun _ titled => titled.setLayout {}
  have left := cleared.forEachAttached source
    (fun server each => server.send each (.termClosed { term := term, exited := 0 }))
    fun server each sound => sound.send each _
  have missed := left.forEachAttached target
    (fun server each => server.setClient each Client.fallBehind)
    fun server each sound => sound.updateClient each _ fun _ => rfl
  have told := missed.broadcastSessionList none
  rw [Server.moveInto]
  split
  · exact told.forgetSession ..
  · exact told

theorem Sound.moveTerminal (sound : server.Sound) (id : ClientId) (request : Proto.MoveTerminal) :
    (server.moveTerminal id request).Sound := by
  rw [Server.moveTerminal]
  split
  · split
    · exact (sound.createSession []).moveInto ..
    · split
      · exact sound.refuse ..
      · split
        · exact sound
        · exact sound.moveInto ..
  · exact sound.refuse ..

theorem Sound.applyPrinterPolicies (sound : server.Sound) : server.applyPrinterPolicies.Sound :=
  { sound with
    titled := by
      intro terminal changed
      obtain ⟨before, there, rfl⟩ := List.mem_map.mp changed
      exact sound.titled before there }

/-! ### Snapshots -/

theorem Sound.snapshotTerminals (sound : server.Sound) (held : List TerminalId) (index : UInt16) :
    (server.snapshotTerminals held index).2.Sound := by
  induction held generalizing server index with
  | nil => exact sound
  | cons id ids ih =>
      rw [Server.snapshotTerminals]
      split
      · exact ih sound index
      · refine ih (Sound.setTerminal ?_ id Terminal.announced fun _ titled => titled) _
        exact sound.congr rfl rfl rfl

/-- A snapshot leaves the server sound. -/
theorem Sound.sendSnapshot [Emulator] (sound : server.Sound) (id : ClientId) :
    (server.sendSnapshot id).Sound := by
  rw [Server.sendSnapshot]
  split
  · exact sound
  · rename_i client _
    have clean := sound.updateClient id Client.catchUp fun _ => rfl
    have listed := fun held => clean.snapshotTerminals held 0
    dsimp only
    split
    · exact (listed _).detach ..
    · exact ((listed _).send ..).updateClient id _ fun _ => rfl

/-! ### Readers -/

theorem Sound.attachSession (sound : server.Sound) (request : Proto.Attach) :
    (server.attachSession request).2.Sound := by
  rw [Server.attachSession]
  split
  · exact sound
  · split
    · exact sound
    · split
      · exact sound
      · exact sound.createSession []

/-- Finding a session to attach to changes no client. -/
theorem attachSession_clients (server : Server) (request : Proto.Attach) :
    (server.attachSession request).2.clients = server.clients := by
  unfold Server.attachSession
  split
  · rfl
  · split
    · rfl
    · split <;> rfl

/-- Whoever takes a session over is left as it is. -/
theorem takeOver_client (server : Server) (id : ClientId) (session : SessionId) :
    (server.takeOver id session).client id = server.client id := by
  unfold Server.takeOver
  split
  · rfl
  · split
    · rfl
    · rename_i another
      exact (Spares.detach ..).client (Ne.symm another)

/-- A takeover leaves the server sound. -/
theorem Sound.takeOver (sound : server.Sound) (id : ClientId) (session : SessionId) :
    (server.takeOver id session).Sound := by
  rw [Server.takeOver]
  split
  · exact sound
  · split
    · exact sound
    · exact sound.detach ..

theorem Sound.changeDesktop (sound : server.Sound) (session : Session) (wanted : Size) :
    (server.changeDesktop session wanted).Sound := by
  rw [Server.changeDesktop]
  split
  · exact sound
  · exact (sound.setSession ..).announceLayout _

theorem Sound.clientResize (sound : server.Sound) (id : ClientId) (resize : Proto.ClientResize) :
    (server.clientResize id resize).Sound := by
  have measured := sound.updateClient id (fun client =>
    { client with
      desktop := ⟨resize.columns.toNat, resize.rows.toNat⟩
      cellPixels := cellMetric resize.columns resize.rows resize.pixelWidth
        resize.pixelHeight }) fun _ => rfl
  unfold Server.clientResize
  dsimp only
  split
  · exact measured
  · split
    · exact measured
    · exact measured.changeDesktop ..

theorem Sound.setDesktopSize (sound : server.Sound) (id : ClientId) (fit : Proto.SetDesktopSize) :
    (server.setDesktopSize id fit).Sound := by
  rw [Server.setDesktopSize]
  split
  · exact sound
  · exact sound.changeDesktop ..

theorem Sound.setOthersMode (sound : server.Sound) (id : ClientId) (session : SessionId)
    (mode : AttachMode) : (server.setOthersMode id session mode).Sound := by
  refine sound.forEachAttached session _ fun server each sound => ?_
  split
  · exact sound
  · split
    · exact sound
    · refine Sound.send (sound.updateClient each _ ?_) ..
      exact fun _ => rfl

theorem Sound.evictOthers (sound : server.Sound) (id : ClientId) (session : SessionId) :
    (server.evictOthers id session).Sound := by
  refine sound.foldl _ fun server each sound => ?_
  split
  · exact sound
  · split
    · exact sound
    · exact sound.detach ..

theorem Sound.handleSetReaderMode (sound : server.Sound) (id : ClientId)
    (wish : Proto.SetReaderMode) : (server.handleSetReaderMode id wish).Sound := by
  rw [Server.handleSetReaderMode]
  split
  · exact sound
  · dsimp only
    split
    any_goals exact sound.refuse ..
    · exact sound.updateClient id _ fun _ => rfl
    · exact sound.evictOthers ..
    · exact sound.setOthersMode ..

/-- A client that may be attached is seated once it has settled. -/
theorem Sound.settle (sound : server.Sound) {id : ClientId} (request : Proto.Attach)
    (session : SessionId) (ready : ∀ client, server.client id = some client → client.Ready) :
    (server.setClient id (settle request session)).Sound := by
  refine sound.changeClient (fun _ => rfl) fun client there same _ => ?_
  obtain ⟨greeted, matched, stays, isOpen⟩ :=
    ready client (same ▸ Data.find_of_mem sound.distinct there)
  exact ⟨greeted, matched, stays, isOpen⟩

/-- An attachment seats a client that is ready for it. -/
theorem Sound.attach [Emulator] (sound : server.Sound) (id : ClientId) (request : Proto.Attach)
    (ready : ∀ client, server.client id = some client → client.Ready) :
    (server.attach id request).Sound := by
  have found := sound.attachSession request
  have same := attachSession_clients server request
  unfold Server.attach
  split
  · rename_i missing
    rw [missing] at found
    exact found.refuse ..
  · rename_i session made asked
    rw [asked] at found same
    have there : made.client id = server.client id := by rw [Server.client, same]; rfl
    dsimp only
    unfold Server.seat
    refine Sound.congr (Sound.sendSnapshot (Sound.settle ?_ request session.id ?_) id) rfl rfl rfl
    · split
      · exact (found.setSession ..).takeOver ..
      · exact found.setSession ..
    · intro client settled
      refine ready client (there.symm.trans ?_)
      split at settled
      · rw [takeOver_client] at settled
        exact settled
      · exact settled

/-! ### Messages -/

/-- A greeting makes a client ready, or lets it go. -/
theorem Sound.greet (sound : server.Sound) {id : ClientId} {client : Client}
    (found : server.client id = some client) (stranger : client.greeted = false)
    (matched : client.awaitingKillFromMismatchedCli = false) (stays : client.closing = false)
    (isOpen : client.stream.isOpen = true) (message : Message) :
    (server.greet id message).Sound := by
  unfold Server.greet
  split
  · dsimp only
    split
    · split
      · -- Whoever has not been greeted is not attached, and is refused without being greeted.
        refine Sound.changeClient (sound.send id _) (fun _ => rfl) fun told there same still => ?_
        obtain ⟨change, kept, own⟩ := (Spares.send server id _).own
        have same_one := Data.find_of_mem (sound.send id _).distinct there
        rw [same] at same_one
        obtain rfl : told = change client := by
          have both := own.symm.trans same_one
          rw [found] at both
          exact (Option.some.inj both).symm
        have known := ((sound.send id _).seated _ there still).greeted
        rw [kept.greeted, stranger] at known
        exact absurd known Bool.false_ne_true
      · exact (sound.send ..).drop id
    · refine Sound.send (sound.changeClient ?_ ?_) ..
      · exact fun _ => rfl
      · intro other there same _
        obtain rfl : other = client :=
          Option.some.inj ((same ▸ Data.find_of_mem sound.distinct there).symm.trans found)
        exact ⟨rfl, matched, stays, isOpen⟩
  · exact (sound.send ..).drop id

theorem Sound.newSession [Emulator] (sound : server.Sound) (id : ClientId)
    (request : Proto.NewSession) : (server.newSession id request).Sound := by
  unfold Server.newSession
  split
  · exact sound.refuse ..
  · dsimp only
    split
    · exact ((sound.createSession _).openTerminal ..).broadcastSessionList _
    · exact (sound.createSession _).broadcastSessionList _

theorem Sound.killSession (sound : server.Sound) (id : ClientId) (request : Proto.KillSession) :
    (server.killSession id request).Sound := by
  unfold Server.killSession
  split
  · exact sound.refuse ..
  · refine Sound.beginKill (sound.updateClient id _ ?_) ..
    exact fun _ => rfl

theorem Sound.renameSession (sound : server.Sound) (id : ClientId) (request : Proto.RenameSession) :
    (server.renameSession id request).Sound := by
  unfold Server.renameSession
  split
  · exact sound.refuse ..
  · split
    · exact sound.refuse ..
    · exact (sound.setSession ..).broadcastSessionList _

/-- A request that names a terminal keeps the server sound if it does where the terminal is there.
-/
theorem Sound.withTerminal (sound : server.Sound) (id : ClientId) (type : Proto.MessageType)
    (term : TerminalId) {act : Terminal → Server}
    (acts : ∀ terminal, server.terminal term = some terminal → (act terminal).Sound) :
    (server.withTerminal id type term act).Sound := by
  unfold Server.withTerminal
  split
  · exact sound.refuse ..
  · exact acts _ ‹_›

theorem Sound.newTerminal [Emulator] (sound : server.Sound) (id : ClientId)
    (request : Proto.NewTerminal) : (server.newTerminal id request).Sound := by
  unfold Server.newTerminal
  split
  · exact sound.refuse ..
  · split
    · exact sound.refuse ..
    · refine Sound.forEachAttached (Sound.openTerminal ?_ _ _) _ _ fun server each sound =>
        sound.send each _
      exact sound.updateClient id _ fun _ => rfl

theorem Sound.respawnTerminal [Emulator] (sound : server.Sound) (id : ClientId)
    (request : Proto.RespawnTerminal) : (server.respawnTerminal id request).Sound := by
  refine sound.withTerminal id _ _ fun terminal _ => ?_
  split
  · exact sound.refuse ..
  · have again : Sound (server.setTerminal terminal.id fun terminal => terminal.relaunch) :=
      sound.setTerminal _ _ fun _ titled => titled
    dsimp only
    split
    · exact again.congr rfl rfl rfl
    · refine Sound.forEachAttached ?_ _ _ fun server each sound => sound.send each _
      exact again.congr rfl rfl rfl

theorem Sound.setLayout (sound : server.Sound) (id : ClientId) (report : Proto.SetLayout) :
    (server.setLayout id report).Sound := by
  unfold Server.setLayout
  split
  · exact sound.refuse ..
  · refine sound.foldl _ fun server entry sound => ?_
    split
    · exact sound
    · exact sound.setTerminal _ _ fun _ titled => titled.setLayout _

theorem Sound.input (sound : server.Sound) (id : ClientId) (given : Proto.Input) :
    (server.input id given).Sound := by
  have typed := (sound.setTerminal given.term (fun terminal =>
    terminal.ask (.input given.bytes)) fun _ titled => titled).updateClient id (fun client =>
      { client with focused := given.term }) fun _ => rfl
  unfold Server.input
  split
  · exact sound
  · dsimp only
    split
    · exact typed
    · exact typed.setSession ..

theorem Sound.printJobFetch (sound : server.Sound) (id : ClientId) (request : Proto.PrintJobFetch) :
    (server.printJobFetch id request).Sound := by
  unfold Server.printJobFetch
  split
  · exact sound.refuse ..
  · split
    · exact sound.refuse ..
    · exact sound.foldl _ fun _ data sound => sound.send id _

/-- A terminal found has a title the wire allows. -/
theorem Sound.terminal_mem (sound : server.Sound) {id : TerminalId} {terminal : Terminal}
    (found : server.terminal id = some terminal) : terminal.Titled :=
  sound.titled terminal (List.mem_of_find?_eq_some found)

theorem Sound.printJobDiscard (sound : server.Sound) (id : ClientId)
    (request : Proto.PrintJobDiscard) : (server.printJobDiscard id request).Sound := by
  refine sound.withTerminal id _ _ fun terminal found => ?_
  have titled := (sound.terminal_mem found).discardPrintJobs request.job
  dsimp only
  split
  · exact sound
  · exact sound.setTerminal _ _ fun _ _ => titled

theorem Sound.setPrinterPolicy (sound : server.Sound) (id : ClientId)
    (request : Proto.SetPrinterPolicy) : (server.setPrinterPolicy id request).Sound := by
  unfold Server.setPrinterPolicy
  dsimp only
  split
  · refine sound.withTerminal id _ _ fun terminal _ => Sound.applyPrinterPolicies ?_
    exact sound.setTerminal _ _ fun _ titled => titled
  · split
    · exact sound.refuse ..
    · exact (sound.setSession ..).applyPrinterPolicies
  · refine Sound.applyPrinterPolicies ?_
    exact sound.congr rfl rfl rfl

/-- Each message of a client that is ready keeps the server sound. -/
theorem Sound.act [Emulator] (sound : server.Sound) (id : ClientId) (message : Message)
    (ready : ∀ client, server.client id = some client → client.Ready) :
    (server.act id message).Sound := by
  unfold Server.act
  split
  · exact sound.send ..
  · exact sound.updateClient id _ fun _ => rfl
  · exact sound.drop id
  · exact sound.sendSessionList id
  · exact sound.newSession ..
  · exact sound.killSession ..
  · exact sound.renameSession ..
  · refine sound.withTerminal id _ _ fun terminal _ => ?_
    exact sound.setTerminal _ _ fun _ titled => titled.setCustomTitle _
  · exact sound.printJobFetch ..
  · exact sound.printJobDiscard ..
  · exact sound.setPrinterPolicy ..
  · exact sound.attach id _ ready
  · exact sound.detach ..
  · exact sound.clientResize ..
  · exact sound.setDesktopSize ..
  · refine sound.withTerminal id _ _ fun terminal _ => ?_
    exact sound.setTerminal _ _ fun _ titled => titled
  · exact sound.setLayout ..
  · exact sound.newTerminal ..
  · exact sound.respawnTerminal ..
  · exact sound.input ..
  · exact sound.congr rfl rfl rfl
  · exact sound.handleSetReaderMode ..
  · exact sound.beginClose ..
  · exact sound.beginKillTerminal ..
  · exact sound.moveTerminal ..
  · exact sound.congr rfl rfl rfl
  · exact sound.refuse ..

theorem Sound.refuseWatcher (sound : server.Sound) (id : ClientId) (message : Message) :
    (server.refuseWatcher id message).Sound := by
  unfold Server.refuseWatcher
  split
  · exact sound
  · exact sound.send ..
  · exact sound.refuse ..

/-- Each message that is heard keeps the server sound. -/
theorem Sound.handle [Emulator] (sound : server.Sound) {id : ClientId} (heard : server.hears id)
    (message : Message) : (server.handle id message).Sound := by
  obtain ⟨client, found, isOpen, stays⟩ := heard
  unfold Server.handle
  rw [found]
  dsimp only
  split
  · split
    · exact sound.congr rfl rfl rfl
    · exact sound.drop id
  · rename_i matched
    split
    · rename_i stranger
      exact sound.greet found (Bool.eq_false_iff.mpr stranger) (Bool.eq_false_iff.mpr matched)
        (Bool.eq_false_iff.mpr stays) isOpen message
    · rename_i greeted
      split
      · exact sound.refuseWatcher id message
      · refine sound.act id message fun other there => ?_
        obtain rfl := Option.some.inj (there.symm.trans found)
        exact ⟨not_not.mp greeted, Bool.eq_false_iff.mpr matched, Bool.eq_false_iff.mpr stays, isOpen⟩

/-! ### Ticks -/

theorem Sound.dropMismatched (sound : server.Sound) : server.dropMismatched.Sound := by
  refine sound.forEachClient fun server client sound => ?_
  split
  · exact sound.drop _
  · exact sound

theorem Sound.observeExits (sound : server.Sound) : server.observeExits.Sound :=
  { sound with
    titled := by
      intro terminal changed
      obtain ⟨before, there, rfl⟩ := List.mem_map.mp changed
      exact Terminal.Titled.observeExit (sound.titled before there) }

theorem Sound.closeTerminal (sound : server.Sound) (id : TerminalId) :
    (server.closeTerminal id).Sound :=
  { sound with
    titled := fun terminal there => sound.titled terminal (List.mem_of_mem_eraseP there) }

/-- A kill carried on keeps the server sound. -/
theorem Sound.advanceKill (sound : server.Sound) (pending : PendingKill) :
    (server.advanceKill pending).1.Sound := by
  unfold Server.advanceKill
  split
  · exact sound
  · dsimp only
    split
    · exact sound
    · split
      · exact sound.foldl _ fun server id sound => sound.setTerminal id _ fun _ titled => titled
      · split
        · exact sound
        · split
          · exact sound.broadcastSessionList none
          · exact (sound.foldl _ fun server id sound => sound.closeTerminal id).forgetSession ..

theorem Sound.advanceKills (sound : server.Sound) : server.advanceKills.Sound := by
  have clean : Sound { server with kills := [] } := sound.congr rfl rfl rfl
  exact clean.foldl _ fun server pending sound => (sound.advanceKill pending).congr rfl rfl rfl

/-- A terminal removed leaves the server sound. -/
theorem Sound.removeTerminal (sound : server.Sound) (id : TerminalId) (exited : Bool) :
    (server.removeTerminal id exited).Sound := by
  have unpasted : Sound { server with forgotten := server.forgotten ++ [id] } :=
    sound.congr rfl rfl rfl
  have closed := unpasted.closeTerminal id
  unfold Server.removeTerminal
  dsimp only
  split
  · exact closed
  · rename_i home _
    refine Sound.ite (Sound.forgetSession (Sound.broadcastSessionList ?_ none) ..)
      (Sound.broadcastSessionList ?_ none) <;>
      exact (closed.setSession home.id _).forEachAttached _ _ fun server each sound =>
        sound.send each _

/-- A close carried on keeps the server sound. -/
theorem Sound.advanceClose (sound : server.Sound) (pending : PendingClose) :
    (server.advanceClose pending).1.Sound := by
  unfold Server.advanceClose
  split
  · exact sound
  · split
    · exact sound
    · split
      · exact sound.setTerminal _ _ fun _ titled => titled
      · split
        · exact sound
        · split
          · exact sound
          · exact sound.removeTerminal ..

theorem Sound.advanceCloses (sound : server.Sound) : server.advanceCloses.Sound := by
  have clean : Sound { server with closes := [] } := sound.congr rfl rfl rfl
  exact clean.foldl _ fun server pending sound => (sound.advanceClose pending).congr rfl rfl rfl

theorem Sound.flushReaderCounts (sound : server.Sound) : server.flushReaderCounts.Sound := by
  rw [Server.flushReaderCounts]
  refine Sound.congr (List.foldlRecOn _ _
    (motive := fun told : Server × Bool => told.1.Sound) sound ?_) rfl rfl rfl
  intro told sound each _
  split
  · exact sound
  · split
    · exact sound
    · split
      · exact sound
      · exact sound.sendSessionList each

theorem Sound.noticeExits (sound : server.Sound) : server.noticeExits.Sound := by
  refine sound.forEachTerminal fun server id terminal found sound => ?_
  have titled : terminal.observeExit.Titled := (sound.terminal_mem found).observeExit
  have marked := sound.setTerminal terminal.id
    (fun _ => { terminal.observeExit with exitAnnounced := true }) fun _ _ => titled
  dsimp only
  split
  · exact sound
  · split
    · exact sound.setTerminal _ _ fun _ _ => titled
    · split
      · exact marked.removeTerminal ..
      · split
        · exact marked
        · exact marked.forEachAttached _ _ fun server each sound => sound.send each _

/-- Healing keeps the server sound. -/
theorem Sound.heal [Emulator] (sound : server.Sound) : server.heal.Sound := by
  refine sound.forEachClient fun server client sound => ?_
  split
  · exact sound
  · dsimp only
    split
    · exact (sound.flush _).sendSnapshot _
    · exact sound.flush _

theorem Sound.dripTo (sound : server.Sound) (id : ClientId) (more : Nat) :
    (server.dripTo id more).Sound := by
  induction more generalizing server with
  | zero => exact sound
  | succ more ih =>
      rw [Server.dripTo]
      split
      · exact sound
      · split
        · exact sound
        · split
          · exact sound
          · refine ih (Sound.send ?_ id _)
            exact sound.updateClient id _ fun _ => rfl

theorem Sound.drip (sound : server.Sound) : server.drip.Sound := by
  refine sound.forEachClient fun server client sound => ?_
  split
  · exact sound
  · refine (sound.dripTo ..).setClient _ ?_
    refine .of_eq ?_ ?_ ?_ ?_ ?_ ?_ <;> intro client <;> split <;> rfl

theorem Sound.announceMarks (sound : server.Sound) (id : TerminalId) (home : Session)
    (watcher : ClientId) : (server.announceMarks id home watcher).Sound := by
  unfold Server.announceMarks
  split
  · exact sound
  · split
    · exact sound
    · exact (sound.send ..).setTerminal _ _ fun _ titled => titled

theorem Sound.announceClipboard (sound : server.Sound) (id : TerminalId) (watcher : ClientId) :
    (server.announceClipboard id watcher).Sound := by
  unfold Server.announceClipboard
  split
  · exact sound
  · split
    · exact sound.send ..
    · exact sound

theorem Sound.announcePrinting (sound : server.Sound) (id : TerminalId) (watcher : ClientId) :
    (server.announcePrinting id watcher).Sound := by
  unfold Server.announcePrinting
  split
  · exact sound
  · rename_i terminal found
    split
    · exact sound
    · dsimp only
      have titled : terminal.Titled := sound.terminal_mem found
      refine Sound.send (Sound.foldl ?_ _ fun server job sound => sound.send ..) ..
      exact sound.setTerminal _ _ fun _ _ => titled

theorem Sound.announceDiagnostic (sound : server.Sound) (id : TerminalId) (watcher : ClientId) :
    (server.announceDiagnostic id watcher).Sound := by
  unfold Server.announceDiagnostic
  split
  · exact sound
  · split
    · exact sound
    · split
      · exact sound
      · exact sound.send ..

/-- Clearing the marks keeps the title. -/
@[simp] theorem customTitle_clearMarks (terminal : Terminal) :
    terminal.clearMarks.customTitle = terminal.customTitle := by
  unfold Terminal.clearMarks
  split <;> rfl

/-- Marking the bell keeps the title. -/
@[simp] theorem customTitle_markBell (terminal : Terminal) :
    terminal.markBell.customTitle = terminal.customTitle := by
  unfold Terminal.markBell
  split <;> rfl

/-- Marking the activity keeps the title. -/
@[simp] theorem customTitle_markActivity (terminal : Terminal) :
    terminal.markActivity.customTitle = terminal.customTitle := by
  unfold Terminal.markActivity
  split <;> rfl

/-- Counting the bell keeps the title. -/
@[simp] theorem customTitle_countBell (terminal : Terminal) :
    terminal.countBell.customTitle = terminal.customTitle := rfl

/-- Counting the activity keeps the title. -/
@[simp] theorem customTitle_countActivity (terminal : Terminal) :
    terminal.countActivity.customTitle = terminal.customTitle := rfl

/-- What marks a terminal leaves its name alone. -/
theorem customTitle_mark (terminal : Terminal) (focused : Bool) :
    (mark terminal focused).customTitle = terminal.customTitle := by
  unfold mark
  dsimp only
  simp only [apply_ite Terminal.customTitle, customTitle_clearMarks, customTitle_markBell,
    customTitle_markActivity, customTitle_countBell, customTitle_countActivity, ite_self]

/-- The terminals' news keeps the server sound. -/
theorem Sound.announceTerminalNews (sound : server.Sound) : server.announceTerminalNews.Sound := by
  refine sound.forEachTerminal fun server id terminal _ sound => ?_
  split
  · exact sound
  · rename_i home _
    have marked := sound.setTerminal terminal.id
      (fun terminal => mark terminal (home.lastFocused = terminal.id)) fun each titled => by
        rw [Terminal.Titled, customTitle_mark]
        exact titled
    dsimp only
    split
    · exact marked
    · exact (((marked.announceMarks ..).announceClipboard ..).announcePrinting ..).announceDiagnostic
        ..

section

variable [CkVision] [Emulator]

theorem Sound.flushTerminals (sound : server.Sound) (ids : List TerminalId) :
    (server.flushTerminals ids).2.Sound := by
  induction ids generalizing server with
  | nil => exact sound
  | cons id ids ih =>
      refine ih ?_
      unfold Server.flushTerminal
      split
      · exact sound
      · split
        · exact sound
        · refine Sound.setTerminal ?_ id _ fun _ titled => titled
          exact sound.congr rfl rfl rfl

end

theorem Sound.markFlooded (sound : server.Sound) : server.markFlooded.Sound := by
  refine sound.forEachTerminal fun server id terminal _ sound => ?_
  split
  · exact sound
  · split
    · exact sound
    · exact sound.forEachAttached _ _ fun server each sound => sound.updateClient each _ fun _ => rfl

theorem Sound.showPicture (sound : server.Sound) (id : ClientId) (owes : Bool) (op : PictureOp) :
    (server.showPicture id owes op).Sound := by
  unfold Server.showPicture
  split
  · exact sound.updateClient id _ fun _ => rfl
  · exact sound.send ..

theorem Sound.fanOut (sound : server.Sound) (screens : Screens) : (server.fanOut screens).Sound := by
  unfold Server.fanOut
  split
  · exact sound
  · refine sound.forEachClient fun server client sound => ?_
    unfold Server.show_
    split
    · exact sound
    · split
      · exact sound
      · dsimp only
        have settled := fun draining : Bool => sound.updateClient client.id (fun client =>
          { client with drainingHeal := draining }) fun _ => rfl
        split
        · exact (settled _).updateClient _ _ fun _ => rfl
        · refine Sound.foldl (Sound.foldl (settled _) _ ?_) _ ?_
          · exact fun server delta sound => sound.send ..
          · exact fun server image sound => sound.showPicture ..

/-- A tick keeps the server sound. -/
theorem Sound.flushTick [CkVision] [Emulator] (sound : server.Sound) : server.flushTick.Sound := by
  have ended := sound.dropMismatched.observeExits.advanceKills.advanceCloses
  unfold Server.flushTick
  refine Sound.fanOut (Sound.markFlooded (Sound.flushTerminals ?_ _)) _
  refine Sound.announceLayout (Sound.announceTerminalNews (Sound.drip (Sound.heal
    (Sound.noticeExits ?_)))) 0
  split
  · exact ended.flushReaderCounts
  · exact ended

/-! ### Runs -/

/-- A client that connects has a number nobody had. -/
theorem Sound.connect (sound : server.Sound) : server.connect.Sound where
  distinct := by
    rw [Server.connect, List.map_append, List.nodup_append]
    refine ⟨sound.distinct, List.nodup_singleton _, ?_⟩
    intro id there other added
    obtain ⟨client, known, rfl⟩ := List.mem_map.mp there
    rw [List.mem_singleton.mp added]
    exact (sound.fresh client known).ne
  fresh := by
    intro client there
    rcases List.mem_append.mp there with known | added
    · exact (sound.fresh client known).trans (Nat.lt_succ_self _)
    · rw [List.mem_singleton.mp added]
      exact Nat.lt_succ_self _
  seated := by
    intro client there
    rcases List.mem_append.mp there with known | added
    · exact sound.seated client known
    · rw [List.mem_singleton.mp added]
      exact fun still => absurd still Bool.false_ne_true
  titled := sound.titled

/-- Sweeping out those that have closed keeps the server sound. -/
theorem Sound.sweep (sound : server.Sound) : server.sweep.Sound where
  distinct := sound.distinct.sublist (List.filter_sublist.map _)
  fresh client there := sound.fresh client (List.mem_filter.mp there).1
  seated client there := sound.seated client (List.mem_filter.mp there).1
  titled := sound.titled

section

variable [CkVision] [Emulator]

/-- Every event keeps the server sound. -/
theorem Sound.step (sound : server.Sound) (event : ServerEvent)
    (allowed : serverSystem.allows server event) : (server.step event).Sound := by
  cases event with
  | connect => exact sound.connect
  | message id message => exact sound.handle allowed message
  | hangUp id => exact sound.drop id
  | writable id =>
      dsimp only [Server.step, Server.writable]
      split
      · exact (sound.flush id).drop id
      · exact sound.flush id
  | paste id chunk => exact (sound.input id ⟨chunk.term, chunk.bytes⟩).send id (.pasteAck ⟨chunk.seq⟩)
  | pasteAck id seq => exact sound.send id (.pasteAck ⟨seq⟩)
  | output id session program =>
      exact sound.setTerminal id _ fun terminal titled => Terminal.Titled.observeExit titled
  | wait now => exact sound.congr rfl rfl rfl
  | tick => exact sound.flushTick
  | sweep => exact sound.sweep

/-- Whatever is said to a server and whatever its children do, it stays sound. -/
theorem reachable_sound (reached : serverSystem.Reachable server) : server.Sound := by
  refine reached.invariant ?_ fun server event sound allowed => sound.step event allowed
  rintro _ ⟨settings, kernel, now, rfl⟩
  exact ⟨List.nodup_nil, fun _ there => absurd there List.not_mem_nil,
    fun _ there => absurd there List.not_mem_nil, fun _ there => absurd there List.not_mem_nil⟩

end

end Server

end Ckmux
