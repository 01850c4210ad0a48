import Mathlib
import Ckmux.Server.Handle

/-!
# A tick

Every so often the server looks at what its children have become and tells its readers.
The passes come in an order: who is to be dropped, whose grace is over, whose count of
readers changed, which children ended; then those that fell behind are sent their
session whole, the owed pictures go out as there is room, and last what has changed on
the screens.
-/

namespace Ckmux

open Grammar (Bytes)
open Proto (GridDelta Message)

/-- How far the pictures a client is owed may fill its queue. -/
def kOwedImageBurstBytes : Nat := 1024 * 1024

namespace Server

/-! ### What is over -/

/-- A command line that was refused and did not ask for the server's end in time. -/
def dropMismatched (server : Server) : Server :=
  server.forEachClient fun server client =>
    if client.awaitingKillFromMismatchedCli ∧ ¬client.closing ∧
        server.nowNanos ≥ client.mismatchKillDeadlineNanos then
      server.drop client.id
    else server

/-- Every terminal's exit looked for. -/
def observeExits (server : Server) : Server :=
  { server with terminals := server.terminals.map Terminal.observeExit }

/-- A terminal given up, and all that was believed of it. -/
def closeTerminal (server : Server) (id : TerminalId) : Server :=
  { server with
    terminals := server.terminals.eraseP fun terminal => terminal.id = id
    diffs := Function.update server.diffs id {}
    pictures := Function.update server.pictures id [] }

/-- A session's end, as far as its time has come; and what is still to be waited for. -/
def advanceKill (server : Server) (pending : PendingKill) : Server × Option PendingKill :=
  match server.sessionFor pending.session with
  | none => (server, none)
  | some session =>
      let running := session.terminals.filter fun id =>
        ((server.terminal id).map Terminal.live).getD false
      if running ≠ [] ∧ server.nowNanos < pending.deadlineNanos then (server, some pending)
      else if running ≠ [] ∧ pending.force ∧ ¬pending.killed then
        (running.foldl (fun server id => server.setTerminal id fun terminal =>
          terminal.ask .kill) server,
         some { pending with
           killed := true
           killDeadlineNanos := server.nowNanos + 2000000000 })
      else if running ≠ [] ∧ pending.force ∧ server.nowNanos < pending.killDeadlineNanos then
        (server, some pending)
      else if running ≠ [] ∧ ¬pending.force then (server.broadcastSessionList none, none)
      else
        ((session.terminals.foldl closeTerminal server).forgetSession session.id .sessionKilled
          (utf8 "the session was ended"), none)

/-- Every kill carried on, and those kept that are not over. -/
def advanceKills (server : Server) : Server :=
  server.kills.foldl (fun server pending =>
    let advanced := server.advanceKill pending
    { advanced.1 with kills := advanced.1.kills ++ advanced.2.toList }) { server with kills := [] }

/-- A terminal taken from its session and its readers told. A session this leaves empty
ends too, if the reader has configured so. -/
def removeTerminal (server : Server) (id : TerminalId) (exited : Bool) : Server :=
  let status := (server.terminal id).bind Terminal.exitStatus
  let unpasted := { server with forgotten := server.forgotten ++ [id] }
  let closed := unpasted.closeTerminal id
  match server.sessionHolding id with
  | none => closed
  | some home =>
      let left := closed.setSession home.id fun session =>
        { session with terminals := session.terminals.filter fun held => held ≠ id }
      let told := left.forEachAttached home.id fun server each =>
        server.send each (.termClosed
          { term := id, exited := if exited then 1 else 0, exitStatus := status.getD 0 })
      let listed := told.broadcastSessionList none
      let emptied :=
        ((listed.sessionFor home.id).map fun session => session.terminals.isEmpty).getD false
      if emptied ∧ listed.settings.killEmptySession then
        listed.forgetSession home.id .sessionKilled (utf8 "its last terminal closed")
      else listed

/-- A terminal's end, as far as its time has come; and what is still to be waited for. -/
def advanceClose (server : Server) (pending : PendingClose) : Server × Option PendingClose :=
  match server.terminal pending.term with
  | none => (server, none)
  | some terminal =>
      if terminal.live ∧ server.nowNanos < pending.deadlineNanos then (server, some pending)
      else if terminal.live ∧ pending.force ∧ ¬pending.killed then
        (server.setTerminal pending.term fun terminal => terminal.ask .kill,
         some { pending with
           killed := true
           killDeadlineNanos := server.nowNanos + 2000000000 })
      else if terminal.live ∧ pending.force ∧ server.nowNanos < pending.killDeadlineNanos then
        (server, some pending)
      else if terminal.live ∧ ¬pending.force then (server, none)
      else (server.removeTerminal pending.term true, none)

/-- Every close carried on, and those kept that are not over. -/
def advanceCloses (server : Server) : Server :=
  server.closes.foldl (fun server pending =>
    let advanced := server.advanceClose pending
    { advanced.1 with closes := advanced.1.closes ++ advanced.2.toList }) { server with closes := [] }

/-- Every picker told how many readers the sessions have, but for those who have other
things to wait for. -/
def flushReaderCounts (server : Server) : Server :=
  let told := (server.clients.map Client.id).foldl (fun told each =>
    match told.1.client each with
    | none => told
    | some client =>
        if ¬client.greeted ∨ client.kind ≠ .ui then told
        else if client.stream.overHighWater ∨ client.dirtySnapshot then (told.1, false)
        else (told.1.sendSessionList each, told.2)) (server, true)
  { told.1 with sessionListDirty := !told.2 }

/-- Whether a terminal stays when its child has ended. -/
def holds (server : Server) (status : Option Int32) : Bool :=
  server.settings.onExit = .hold ∨ server.settings.onExit = .holdOnError ∧ status ≠ some 0

/-- What is done with the terminals whose children have ended: they are held, or go. -/
def noticeExits (server : Server) : Server :=
  server.forEachTerminal fun server terminal =>
    let seen := terminal.observeExit
    if terminal.exitAnnounced ∨ ¬terminal.program.lifecycle then server
    else if seen.live then server.setTerminal terminal.id fun _ => seen
    else
      let marked := server.setTerminal terminal.id fun _ => { seen with exitAnnounced := true }
      if ¬server.holds seen.exitStatus then marked.removeTerminal terminal.id true
      else
        match marked.sessionHolding terminal.id with
        | none => marked
        | some home =>
            marked.forEachAttached home.id fun server each =>
              server.send each (.termClosed
                { term := terminal.id
                  exited := 1
                  exitStatus := seen.exitStatus.getD 0
                  hold := 1 })

/-! ### What is owed -/

/-- A client that fell behind, sent its session whole once there is room for a screen. -/
def heal [Emulator] (server : Server) : Server :=
  server.forEachClient fun server client =>
    if ¬client.attached ∨ ¬client.dirtySnapshot then server
    else
      let flushed := server.flush client.id
      if ((flushed.client client.id).map fun client => client.stream.readyForScreen).getD false then
        flushed.sendSnapshot client.id
      else flushed

/-- Owed pictures, one message after another, while the queue has room. -/
def dripTo (server : Server) (id : ClientId) : Nat → Server
  | 0 => server
  | more + 1 =>
      match server.client id with
      | none => server
      | some client =>
          match client.owed.owed[client.owed.sent]? with
          | none => server
          | some op =>
              if client.stream.queued ≥ kOwedImageBurstBytes then server
              else
                ((server.setClient id fun client =>
                  { client with owed := { client.owed with sent := client.owed.sent + 1 } }).send id
                  op.message).dripTo id more

/-- What their queues have room for, to all who are owed pictures. -/
def drip (server : Server) : Server :=
  server.forEachClient fun server client =>
    if ¬client.attached ∨ client.closing then server
    else
      (server.dripTo client.id (client.owed.owed.length - client.owed.sent)).setClient client.id
        fun client => if client.owed.outstanding then client else { client with owed := {} }

/-! ### What is new -/

/-- Output on the screen that no client's resizing made. -/
def wrote (terminal : Terminal) : Bool :=
  !terminal.resizedByAClient &&
    (terminal.session.damage.scrollbackPushed > 0 ||
      terminal.session.damage.rows.any fun row => !row.empty)

/-- A terminal's marks, once what its child did since the last tick is counted. A reader
who is in a terminal has missed nothing there. -/
def mark (terminal : Terminal) (focused : Bool) : Terminal :=
  let rang := if terminal.program.bell then terminal.countBell else terminal
  let counted := if wrote terminal then rang.countActivity else rang
  let marked :=
    if focused then counted.clearMarks
    else
      let belled := if terminal.program.bell then counted.markBell else counted
      if wrote terminal then belled.markActivity else belled
  { marked with resizedByAClient := false }

/-- A terminal's name and marks to its session's first reader, if they are news. -/
def announceMarks (server : Server) (id : TerminalId) (home : Session) (watcher : ClientId) :
    Server :=
  match server.terminal id with
  | none => server
  | some terminal =>
      if terminal.marksAnnounced ∧ terminal.customTitleAnnounced then server
      else
        (server.send watcher (.termMeta
          { term := id
            index := UInt16.ofNat (home.terminals.idxOf id)
            title := clampUtf8 terminal.session.status.title Proto.kMaxTitleBytes
            customTitle := terminal.customTitle
            flags := terminal.flags
            bellSerial := terminal.bellSerial
            activitySerial := terminal.activitySerial })).setTerminal id fun terminal =>
          { terminal with marksAnnounced := true, customTitleAnnounced := true }

/-- What the child copied, to the reader that follows it. -/
def announceClipboard (server : Server) (id : TerminalId) (watcher : ClientId) : Server :=
  match server.terminal id with
  | none => server
  | some terminal =>
      if terminal.program.clipboard ∧ server.settings.osc52 ∧
          terminal.program.clipboardText ≠ [] then
        server.send watcher (.clipboardSet ⟨id, terminal.program.clipboardText⟩)
      else server

/-- The jobs a terminal has finished, each by name, and then how it prints. -/
def announcePrinting (server : Server) (id : TerminalId) (watcher : ClientId) : Server :=
  match server.terminal id with
  | none => server
  | some terminal =>
      if ¬terminal.program.printer ∧ ¬terminal.printerNews then server
      else
        let collected := terminal.collectPrintJobs server.nowNanos
        let kept := server.setTerminal id fun _ =>
          { collected.2 with
            printerNews := if terminal.program.printer then terminal.printerNews else false }
        let told := collected.1.foldl (fun server job =>
          server.send watcher (.printJobAdded ⟨id, job.info⟩)) kept
        told.send watcher (.printState
          { term := id
            mode := (server.effectivePrinterPolicy id).mode
            state := terminal.printerState
            bytes := cappedSize terminal.session.status.printerPendingBytes
            jobs := UInt16.ofNat (min collected.2.jobs.length 0xFFFF) })

/-- The newest complaint. -/
def announceDiagnostic (server : Server) (id : TerminalId) (watcher : ClientId) : Server :=
  match server.terminal id with
  | none => server
  | some terminal =>
      if ¬terminal.program.diagnostics then server
      else
        match terminal.session.diagnostics.getLast? with
        | none => server
        | some complaint =>
            server.send watcher (.termDiagnostic
              { term := id
                kind := wireKind complaint.kind
                text := clampUtf8 complaint.message Proto.kMaxTitleBytes })

/-- What each terminal has to say beside its screen. The marks are kept whether anybody
is told of them or not. -/
def announceTerminalNews (server : Server) : Server :=
  server.forEachTerminal fun server terminal =>
    match server.sessionHolding terminal.id with
    | none => server
    | some home =>
        let marked := server.setTerminal terminal.id fun terminal =>
          mark terminal (home.lastFocused = terminal.id)
        match marked.clientAttachedTo home.id with
        | none => marked
        | some watcher =>
            (((marked.announceMarks terminal.id home watcher.id).announceClipboard terminal.id
              watcher.id).announcePrinting terminal.id watcher.id).announceDiagnostic terminal.id
                watcher.id

/-! ### What has changed on the screens -/

/-- Whether anybody would be shown a picture redrawn now. -/
def pictureWantedNow (server : Server) (term : TerminalId) (wireId : WireId) : Bool :=
  match server.sessionHolding term with
  | none => false
  | some home =>
      server.clients.any fun client =>
        client.attached && !client.closing && client.kind = .ui && client.session = home.id &&
          !client.dirtySnapshot &&
            !((client.owed.owed.drop client.owed.sent).any fun op =>
              op.subject = wireId && op.begins)

/-- What a tick says of the screens: the deltas, and the pictures with their terminals. -/
structure Screens where
  deltas : List GridDelta := []
  images : List (TerminalId × PictureOp) := []

section

variable [CkVision] [Emulator]

/-- One terminal's part. Nothing is said while its program holds the frame. -/
def flushTerminal (server : Server) (id : TerminalId) : Screens × Server :=
  match server.terminal id with
  | none => ({}, server)
  | some terminal =>
      if terminal.session.synchronizedOutputActive then ({}, server)
      else
        let ticked := tickTerminal (server.differ id) id terminal.session
        let pictured := PictureDiffer.flush Emulator.pixels id (server.pictureWantedNow id)
          ⟨server.pictures id, server.nextImageId⟩ terminal.program.rasters
        ({ deltas := ticked.1.toList
           images := pictured.1.map fun op => (id, op) },
         { server with
           diffs := Function.update server.diffs id ticked.2.1
           pictures := Function.update server.pictures id pictured.2.believed
           nextImageId := pictured.2.nextImageId }.setTerminal id Terminal.clearDamage)

/-- Terminal after terminal, and everything there is to show of them. -/
def flushTerminals (server : Server) : List TerminalId → Screens × Server
  | [] => ({}, server)
  | id :: ids =>
      let first := server.flushTerminal id
      let others := first.2.flushTerminals ids
      (⟨first.1.deltas ++ others.1.deltas, first.1.images ++ others.1.images⟩, others.2)

/-- A terminal that scrolled more than a delta may carry: its readers miss something. -/
def markFlooded (server : Server) : Server :=
  server.forEachTerminal fun server terminal =>
    if ¬(server.diffs terminal.id).needsSnapshot then server
    else
      match server.sessionHolding terminal.id with
      | none => server
      | some home =>
          server.forEachAttached home.id fun server each =>
            server.setClient each Client.fallBehind

end

/-- What a picture's message is to a client that has a debt, or has none. -/
def showPicture (server : Server) (id : ClientId) (owes : Bool) (op : PictureOp) : Server :=
  if owes then server.setClient id fun client => { client with owed := client.owed.owe op }
  else server.send id op.message

/-- What has changed on the screens, to one client that has room for a screen. A queue
that is full of the client's own healing is not one it fell behind with. -/
def show_ (server : Server) (screens : Screens) (client : Client) : Server :=
  match server.sessionFor client.session with
  | none => server
  | some watched =>
      if ¬client.attached ∨ client.kind ≠ .ui ∨ client.dirtySnapshot then server
      else
        let draining := client.drainingHeal &&
          !(client.stream.readyForScreen && !client.owed.outstanding)
        let settled := server.setClient client.id fun client =>
          { client with drainingHeal := draining }
        if ¬client.stream.readyForScreen ∧ ¬draining then
          settled.setClient client.id Client.fallBehind
        else
          let deltas := screens.deltas.filter fun delta => delta.term ∈ watched.terminals
          let images := screens.images.filter fun image => image.1 ∈ watched.terminals
          let told := deltas.foldl (fun server delta => server.send client.id (.gridDelta delta))
            settled
          images.foldl (fun server image =>
            server.showPicture client.id client.owed.outstanding image.2) told

/-- What there is to show, to everybody. -/
def fanOut (server : Server) (screens : Screens) : Server :=
  if screens.deltas.isEmpty ∧ screens.images.isEmpty then server
  else server.forEachClient fun server client => server.show_ screens client

/-! ### All of it -/

/-- A tick: what has ended first, then what is owed, then the news, and the screens last. -/
def flushTick [CkVision] [Emulator] (server : Server) : Server :=
  let ended := server.dropMismatched.observeExits.advanceKills.advanceCloses
  let counted := if ended.sessionListDirty then ended.flushReaderCounts else ended
  let healed := counted.noticeExits.heal
  let announced := (healed.drip.announceTerminalNews).announceLayout 0
  let flushed := announced.flushTerminals (announced.terminals.map Terminal.id)
  flushed.2.markFlooded.fanOut flushed.1

end Server

end Ckmux
