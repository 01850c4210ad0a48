import Mathlib
import Ckmux.Client.Mirror
import Ckmux.Client.Pictures
import Ckmux.Server.State

/-!
# A client's side of its attachment

A client holds a mirror of each terminal, routes what arrives into them, and asks for
everything again when one of them has lost track. Asking again is attaching again, with
the mode its reader attached with. A paste is cut into chunks, two of which may be on
the way at a time.

What the client's loop and its windows do is here as far as it comes back: what is sent
on attaching and on being detached, and that the windows are forgotten. What else they
send is anybody's guess, and so are the texts of print jobs once fetched.
-/

namespace Ckmux

open Grammar (Bytes)
open Proto (Message LayoutEntry)

/-- A terminal as a client holds it. -/
structure RemoteTerminal where
  id : TerminalId
  mirror : TerminalMirror
  pictures : List PlacedImage := []

/-- A chunk of a paste that has not been sent. -/
structure PasteWaiting where
  term : TerminalId
  seq : UInt32
  last : Bool
  bytes : Bytes

/-- The most one chunk of a paste holds. -/
def kPasteChunkBytes : Nat := 64 * 1024

/-- `sent` is everything it has sent. `leaving` is that its reader asked to detach. -/
structure ServerSession where
  sent : List Message := []
  attached : Bool := false
  session : SessionId := 0
  desktop : Size := {}
  cellPixels : Size := {}
  hostSixel : Bool := false
  mode : AttachMode := .takeOver
  statsWatched : Bool := false
  sessionDesktop : Size := {}
  snapshotRequested : Bool := false
  resnapshots : Nat := 0
  attachments : Nat := 0
  historyLimit : Nat := 0
  layoutSent : List LayoutEntry := []
  terminals : List RemoteTerminal := []
  announced : List TerminalId := []
  pasteQueue : List PasteWaiting := []
  pasteInFlight : Nat := 0
  nextPasteSeq : UInt32 := 1
  images : ImageStore := {}
  leaving : Bool := false

/-! ### What a mirror is told beside its screen -/

namespace TerminalMirror

/-- A mirror of a terminal that has come: blank, and up to date. -/
def opened [CkVision] (mirror : TerminalMirror) (cells : Size) : TerminalMirror :=
  { mirror with
    state := blankState cells mirror.state.maxScrollbackLines
    sequence := 0
    needsSnapshot := false
    exited := false
    hold := false
    exitStatus := none
    bellMarked := false
    activityMarked := false
    printerBytes := 0
    diagnostics := [] }

/-- How a terminal ended, as it was said. -/
def applyClosed (mirror : TerminalMirror) (closed : Proto.TermClosed) : TerminalMirror :=
  { mirror with
    exited := closed.exited ≠ 0
    hold := closed.hold ≠ 0
    exitStatus := if closed.exited ≠ 0 then some closed.exitStatus else none }

/-- A text on the clipboard is the newest. -/
def applyClipboard (mirror : TerminalMirror) (clipboard : Proto.ClipboardSet) : TerminalMirror :=
  { mirror with
    clipboardText := clipboard.text
    clipboardSerial := mirror.clipboardSerial + 1 }

/-- What a printer is at, as it was said. -/
def applyPrintState (mirror : TerminalMirror) (printing : Proto.PrintState) : TerminalMirror :=
  { mirror with
    printerState := printing.state
    printerMode := printing.mode
    printerBytes := printing.bytes }

/-- A job announced, or announced again. -/
def applyPrintJobAdded (mirror : TerminalMirror) (added : Proto.PrintJobAdded) : TerminalMirror :=
  { mirror with
    printJobs :=
      if mirror.printJobs.any fun held => held.job = added.job.job then
        mirror.printJobs.map fun held => if held.job = added.job.job then added.job else held
      else mirror.printJobs ++ [added.job] }

/-- Only the newest complaint is kept. -/
def applyDiagnostic (mirror : TerminalMirror) (said : Proto.TermDiagnostic) : TerminalMirror :=
  { mirror with diagnostics := [⟨kindOf said.kind, said.text⟩] }

end TerminalMirror

namespace ServerSession

variable (session : ServerSession)

/-- What is known of a terminal. -/
def terminal (id : TerminalId) : Option RemoteTerminal :=
  session.terminals.find? fun terminal => terminal.id = id

/-- One terminal changed. -/
def setTerminal (id : TerminalId) (change : RemoteTerminal → RemoteTerminal) : ServerSession :=
  { session with
    terminals := session.terminals.map fun terminal =>
      if terminal.id = id then change terminal else terminal }

/-- What a terminal's mirror is told, if there is one. -/
def tellMirror (id : TerminalId) (told : TerminalMirror → TerminalMirror) : ServerSession :=
  session.setTerminal id fun terminal => { terminal with mirror := told terminal.mirror }

/-- A message goes behind the others. -/
def request (message : Message) : ServerSession := { session with sent := session.sent ++ [message] }

/-- A terminal's mirror, and the reader's windows told of it, if there was none. -/
def ensureTerminal (id : TerminalId) : ServerSession :=
  match session.terminal id with
  | some _ => session
  | none =>
      { session with
        terminals := session.terminals ++ [{ id := id, mirror := .fresh session.historyLimit }]
        announced := session.announced ++ [id] }

/-! ### Attaching -/

/-- An attach as this client would say it. -/
def attachRequest (id : SessionId) (desktop cellPixels : Size) : Proto.Attach where
  session := id
  columns := UInt16.ofNat desktop.width
  rows := UInt16.ofNat desktop.height
  pixelWidth := UInt16.ofNat (desktop.width * cellPixels.width)
  pixelHeight := UInt16.ofNat (desktop.height * cellPixels.height)
  mode := session.mode.toWire
  hostSixel := if session.hostSixel then 1 else 0

/-- A session is asked for; what was reported of the layout is forgotten if it is another. -/
def attach (id : SessionId) (desktop cellPixels : Size) : ServerSession :=
  { session with
    layoutSent := if id ≠ session.session then [] else session.layoutSent
    session := id
    desktop := desktop
    cellPixels := cellPixels
    snapshotRequested := false }.request (.attach (session.attachRequest id desktop cellPixels))

/-- Everything asked for again, once until it comes. -/
def requestSnapshot : ServerSession :=
  if session.snapshotRequested then session
  else
    let counted := { session with resnapshots := session.resnapshots + 1 }
    { counted.attach session.session session.desktop session.cellPixels with
      snapshotRequested := true }

/-- What a client does behind every batch of messages. -/
def healIfNeeded : ServerSession :=
  if session.terminals.any fun terminal => terminal.mirror.needsSnapshot then
    session.requestSnapshot
  else session

/-- The mode the session is held in. -/
def setAttachMode (mode : AttachMode) : ServerSession := { session with mode := mode }

/-- The server is told only of a change. -/
def setStatsWatched (on : Bool) : ServerSession :=
  if session.statsWatched = on then session
  else { session with statsWatched := on }.request (.watchStats ⟨if on then 1 else 0⟩)

/-- The extent of a session's desktop. Nought is nobody having said. -/
def adoptSessionDesktop (columns rows : UInt16) : ServerSession :=
  if columns = 0 ∨ rows = 0 then session
  else { session with sessionDesktop := ⟨columns.toNat, rows.toNat⟩ }

/-- The server is told of the screen only if something about it is new. -/
def desktopResized (desktop cellPixels : Size) : ServerSession :=
  if desktop.width = 0 ∨ desktop.height = 0 then session
  else if desktop = session.desktop ∧ cellPixels = session.cellPixels then session
  else
    let metric :=
      if cellPixels.width > 0 ∧ cellPixels.height > 0 then cellPixels else session.cellPixels
    let resized := { session with desktop := desktop, cellPixels := metric }
    if ¬session.attached then resized
    else
      resized.request (.clientResize
        { columns := UInt16.ofNat desktop.width
          rows := UInt16.ofNat desktop.height
          pixelWidth := UInt16.ofNat (desktop.width * metric.width)
          pixelHeight := UInt16.ofNat (desktop.height * metric.height) })

/-- The server is told of the windows only if something about them is new. -/
def reportLayout (entries : List LayoutEntry) : ServerSession :=
  if entries.isEmpty ∨ ¬session.attached ∨ entries = session.layoutSent then session
  else { session with layoutSent := entries }.request (.setLayout ⟨entries⟩)

/-! ### Pasting -/

/-- The chunks of a paste, each with its number. -/
def pasteChunks (term : TerminalId) (seq : UInt32) (bytes : Bytes) : List PasteWaiting :=
  let cut := pieces kPasteChunkBytes bytes
  cut.zipIdx.map fun piece =>
    { term := term
      seq := seq + UInt32.ofNat piece.2
      last := piece.2 + 1 = cut.length
      bytes := piece.1 }

/-- As many chunks sent as may be on the way. -/
def pumpPaste : ServerSession :=
  let going := session.pasteQueue.take (kPasteCredit - session.pasteInFlight)
  { session with
    pasteQueue := session.pasteQueue.drop going.length
    pasteInFlight := session.pasteInFlight + going.length
    sent := session.sent ++ going.map fun waiting =>
      .pasteChunk
        { term := waiting.term
          seq := waiting.seq
          finalChunk := if waiting.last then 1 else 0
          bytes := waiting.bytes } }

/-- A paste is cut up, put behind what waits, and as much sent as may be. -/
def paste (term : TerminalId) (bytes : Bytes) : ServerSession :=
  if bytes.isEmpty then session
  else
    let chunks := pasteChunks term session.nextPasteSeq bytes
    pumpPaste { session with
      pasteQueue := session.pasteQueue ++ chunks
      nextPasteSeq := session.nextPasteSeq + UInt32.ofNat chunks.length }

/-- What waits is forgotten, and what is on its way no longer counted. -/
def abandonPaste : ServerSession := { session with pasteQueue := [], pasteInFlight := 0 }

/-! ### Losing things -/

/-- The windows are gone, and the pastes into them. -/
def windowsForgotten : ServerSession := { session.abandonPaste with announced := [] }

/-- Nothing is attached any more, and nothing more is asked for. -/
def connectionLost : ServerSession :=
  { session.abandonPaste with
    attached := false
    session := 0
    snapshotRequested := false
    sessionDesktop := {}
    terminals := []
    announced := []
    layoutSent := [] }

/-- A detach that happened to this client. One its reader asked for is a client on its way
out. -/
def onDetached : ServerSession :=
  if session.leaving then session else session.windowsForgotten.request (.listSessions ⟨⟩)

/-! ### Pictures -/

/-- A message about a picture. -/
def hearPicture : PictureOp → ServerSession
  | .addBegin id width height => { session with images := session.images.begin id width height }
  | .chunk id seq bytes => { session with images := session.images.chunk id seq bytes }
  | .done id => { session with images := session.images.finish id }
  | .place term id cells =>
      let collected := session.images.collect id
      { session with images := collected.2 }.setTerminal term fun terminal =>
        { terminal with pictures := placeImage id collected.1 cells terminal.pictures }
  | .remove term id =>
      { session with images := session.images.discard id }.setTerminal term fun terminal =>
        { terminal with pictures := removeImage id terminal.pictures }

section

variable [CkVision]

/-! ### What arrives -/

/-- A terminal as a snapshot has it. -/
def adoptTerminal (state : Proto.TerminalState) : ServerSession :=
  (session.ensureTerminal state.term).setTerminal state.term fun terminal =>
    let adopted := terminal.mirror.adopt state
    { terminal with
      mirror := adopted.2
      pictures :=
        if adopted.1 then keepImages (state.images.map UInt64.toNat) terminal.pictures
        else terminal.pictures }

/-- A session, whole: what it does not name is gone. -/
def handleAttached (attached : Proto.Attached) : ServerSession :=
  let stated := { session with
    attached := true
    attachments := session.attachments + 1
    snapshotRequested := false
    session := attached.session }.adoptSessionDesktop attached.snapshot.desktopColumns
      attached.snapshot.desktopRows
  let watched := if stated.statsWatched then stated.request (.watchStats ⟨1⟩) else stated
  let adopted := attached.snapshot.terminals.foldl (fun session state => session.adoptTerminal state)
    watched
  let kept := adopted.terminals.filter fun terminal =>
    attached.snapshot.terminals.any fun state => state.term = terminal.id
  { adopted with terminals := kept, announced := kept.map RemoteTerminal.id }.request
    (.listSessions ⟨⟩)

/-- A terminal that is not held is forgotten. -/
def handleClosed (closed : Proto.TermClosed) : ServerSession :=
  let told := session.tellMirror closed.term fun mirror => mirror.applyClosed closed
  if closed.hold ≠ 0 then told
  else
    { told with
      terminals := told.terminals.filter fun terminal => terminal.id ≠ closed.term
      announced := told.announced.filter fun id => id ≠ closed.term }

/-- Each message dealt with. -/
def handle : Message → ServerSession
  | .attached attached => session.handleAttached attached
  | .layoutDelta layout =>
      if layout.session = session.session then
        session.adoptSessionDesktop layout.desktopColumns layout.desktopRows
      else session
  | .pasteAck _ => pumpPaste { session with pasteInFlight := session.pasteInFlight - 1 }
  | .readerMode told =>
      match AttachMode.ofWire told.mode with
      | some .join => session.setAttachMode .join
      | some .watch => session.setAttachMode .watch
      | _ => session
  | .detached _ => onDetached { session with attached := false, layoutSent := [] }
  | .gridDelta delta =>
      match session.terminal delta.term with
      | none => session.requestSnapshot
      | some _ => session.tellMirror delta.term fun mirror => (mirror.apply delta).2
  | .termOpened opened =>
      (session.ensureTerminal opened.term).tellMirror opened.term fun mirror =>
        mirror.opened ⟨opened.columns.toNat, opened.rows.toNat⟩
  | .termClosed closed => session.handleClosed closed
  | .termMeta said => session.tellMirror said.term fun mirror => mirror.applyMeta said
  | .clipboardSet clipboard =>
      session.tellMirror clipboard.term fun mirror => mirror.applyClipboard clipboard
  | .printState printing =>
      session.tellMirror printing.term fun mirror => mirror.applyPrintState printing
  | .printJobAdded added =>
      session.tellMirror added.term fun mirror => mirror.applyPrintJobAdded added
  | .termDiagnostic said => session.tellMirror said.term fun mirror => mirror.applyDiagnostic said
  | .imageAddBegin begins =>
      session.hearPicture (.addBegin begins.id.toNat begins.width begins.height)
  | .imageChunk chunk => session.hearPicture (.chunk chunk.id.toNat chunk.seq.toNat chunk.bytes)
  | .imageEnd ends => session.hearPicture (.done ends.id.toNat)
  | .imagePlace place => session.hearPicture (.place place.term place.id.toNat place.cells)
  | .imageRemove remove => session.hearPicture (.remove remove.term remove.id.toNat)
  | _ => session

end

end ServerSession

end Ckmux
