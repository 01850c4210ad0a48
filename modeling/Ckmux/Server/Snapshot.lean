import Mathlib
import Ckmux.Server.Sessions

/-!
# A session, sent whole

Every terminal goes as it stands, and what is left of the budget once the screens are
measured is what the histories share: each takes what it can of an equal part, and
what it does not use passes on.
-/

namespace Ckmux

open Grammar (Bytes)
open Proto (TerminalState kSnapshotPayloadBudget)

/-- What a terminal's history was given, and what it cost. -/
structure Share where
  remaining : Nat
  left : Nat
  share : Nat
  cost : Nat

/-- The histories put into a snapshot, each with what it was given of what remained.
`left` terminals are still to come. -/
def shareHistories (terminal : TerminalId → Option Terminal) :
    Nat → Nat → List TerminalState → List (TerminalState × Share)
  | _, _, [] => []
  | remaining, left, state :: states =>
      let share := remaining / max 1 left
      let filled :=
        match terminal state.term with
        | none => (state, 0)
        | some held => fillHistory state held.session share
      (filled.1, ⟨remaining, left, share, filled.2⟩) ::
        shareHistories terminal (remaining - filled.2) (left - 1) states

/-- The marks a terminal carries, as the wire's flags. -/
def Terminal.flags (terminal : Terminal) : UInt8 :=
  (if terminal.bellMarked then 1 else 0) ||| (if terminal.activityMarked then 2 else 0)

/-- What a terminal's printer is doing: nothing, capturing, or swallowing. -/
def Terminal.printerState (terminal : Terminal) : Proto.PrinterState :=
  if terminal.program.printerSunk then .sunk
  else if terminal.session.status.printerControllerActive then .capturing
  else .idle

/-- What a client is told of a held job. -/
def HeldJob.info (job : HeldJob) : Proto.PrintJobInfo where
  job := job.id
  kind := job.kind
  bytes := cappedSize job.text.length
  lines := job.lines
  at_ := job.at_

/-- What a snapshot says of a terminal beside its screen: how it prints, where its
window is, what is marked and what it is called, and whether its child is there. -/
def Terminal.describe (terminal : Terminal) (policy : EffectivePrinterPolicy) (index : UInt16)
    (state : TerminalState) : TerminalState :=
  { state with
    index := index
    printerMode := policy.mode
    printerScope := policy.modeFrom
    printJobs := terminal.jobs.map HeldJob.info
    printerState := terminal.printerState
    printerBytes := cappedSize terminal.session.status.printerPendingBytes
    rect := terminal.layout.rect
    zOrder := terminal.layout.zOrder
    zoomed := if terminal.layout.zoomed then 1 else 0
    tile := terminal.layout.tile
    flags := terminal.flags
    customTitle := terminal.customTitle
    exited := if terminal.live then 0 else 1
    exitStatus := if terminal.live then 0 else terminal.exitStatus.getD 0
    hold := if terminal.live then 0 else 1
    bellSerial := terminal.bellSerial
    activitySerial := terminal.activitySerial }

/-- A snapshot is an announcement of all that a terminal has to announce. -/
def Terminal.announced (terminal : Terminal) : Terminal :=
  { terminal with
    layoutAnnounced := true
    marksAnnounced := true
    customTitleAnnounced := true }

namespace Server

/-- A terminal's differ. The pictures it names are those believed to be seen. -/
def differ (server : Server) (id : TerminalId) : TerminalDiffer :=
  { server.diffs id with
    believedRasters := (server.pictures id).map fun entry => UInt64.ofNat entry.wireId }

/-- Every terminal of a session without its history, its count of deltas begun again. -/
def snapshotTerminals (server : Server) : List TerminalId → UInt16 → List TerminalState × Server
  | [], _ => ([], server)
  | id :: ids, index =>
      match server.terminal id with
      | none => server.snapshotTerminals ids index
      | some terminal =>
          let taken := (server.differ id).snapshot id terminal.session
          let state := terminal.describe (server.effectivePrinterPolicy id) index taken.1
          let told := { server with diffs := Function.update server.diffs id taken.2 }.setTerminal id
            Terminal.announced
          let rest := told.snapshotTerminals ids (index + 1)
          (state :: rest.1, rest.2)

/-- The desktop a client is told of, and where it is or the last reader was. -/
def snapshotFrame (server : Server) (client : Client) (terminals : List TerminalState) :
    Proto.Snapshot :=
  let home := server.sessionFor client.session
  let desktop :=
    match home with
    | some session =>
        if session.desktop.width > 0 ∧ session.desktop.height > 0 then session.desktop
        else client.desktop
    | none => client.desktop
  { desktopColumns := UInt16.ofNat desktop.width
    desktopRows := UInt16.ofNat desktop.height
    focusedTerm :=
      if client.focused ≠ 0 then client.focused
      else (home.map fun session => session.lastFocused).getD 0
    terminals := terminals }

/-- What a snapshot takes of its budget before any history is in it. -/
def spent (snapshot : Proto.Snapshot) : Nat := 8 + snapshot.encodedSize

/-- A snapshot with its histories, and what each was given. -/
def fillHistories (server : Server) (snapshot : Proto.Snapshot) :
    Proto.Snapshot × List Share :=
  let filled := shareHistories server.terminal (kSnapshotPayloadBudget - spent snapshot)
    snapshot.terminals.length snapshot.terminals
  ({ snapshot with terminals := filled.map Prod.fst }, filled.map Prod.snd)

/-- The pictures of some terminals, owed to somebody who has none of them. -/
def pictureDebt [Emulator] (server : Server) (held : List TerminalId) : PictureDebt :=
  (held.flatMap fun term =>
    PictureDiffer.attachImages Emulator.pixels term { believed := server.pictures term }).foldl
      PictureDebt.owe {}

/-- A client that is sent its session whole, or told that it is too large. The pictures
are owed: they follow as there is room. -/
def sendSnapshot [Emulator] (server : Server) (id : ClientId) : Server :=
  match server.client id with
  | none => server
  | some client =>
      let clean := server.setClient id Client.catchUp
      let held := ((clean.sessionFor client.session).map Session.terminals).getD []
      let listed := clean.snapshotTerminals held 0
      let snapshot := clean.snapshotFrame client listed.1
      if spent snapshot > kSnapshotPayloadBudget then
        listed.2.detach id .sessionKilled
          (utf8 ("this session is too large for one snapshot; the screens alone are past the " ++
            "protocol's limit"))
      else
        let filled := listed.2.fillHistories snapshot
        let sent := listed.2.send id (.attached ⟨client.session, filled.1⟩)
        sent.setClient id fun client =>
          { client with owed := sent.pictureDebt held, drainingHeal := true }

end Server

end Ckmux
