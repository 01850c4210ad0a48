import Mathlib
import Ckmux.Grammar.Text
import Ckmux.Server.DiffEngine
import Ckmux.Server.Pictures

/-!
# The terminals a server holds

Beside its emulator the server keeps of a terminal where its window was, what its
reader called it, its marks and what of all this has been announced, the jobs it has
printed, and what has been asked of its child. The emulator and the child belong to
the terminal library; `Emulator` is what the server asks of it.
-/

namespace Ckmux

open Grammar (Bytes)

/-- Where a child is between being started and having ended. -/
inductive SubsessionState where
  | ready | running | exited | other
deriving DecidableEq

/-- What the emulator does with what is printed. -/
inductive TerminalPrinterPolicy where
  | capture | deny
deriving DecidableEq

/-- A print job the emulator has finished. -/
structure TerminalPrinterJob where
  kind : Proto.PrintJobKind
  text : Bytes
  overflowed : Bool := false

/-- A terminal's child, and what its emulator tells of beside the screen. The flags
are the rest of the damage report; a finished job is handed over once. -/
structure Program where
  state : SubsessionState := .running
  exitCode : Option Int32 := none
  printerJobs : List TerminalPrinterJob := []
  printerSunk : Bool := false
  printerPolicy : TerminalPrinterPolicy := .capture
  printerSpoolLimit : Nat := 0
  clipboardText : Bytes := []
  rasters : List TerminalRaster := []
  bell : Bool := false
  clipboard : Bool := false
  printer : Bool := false
  diagnostics : Bool := false
  lifecycle : Bool := false

/-- How a child is started. -/
structure TerminalSpec where
  command : Bytes := []
  workingDirectory : Bytes := []
  columns : Nat := 80
  rows : Nat := 24
  pixelWidth : Nat := 0
  pixelHeight : Nat := 0
  hostSixel : Bool := true

/-- A child started, an emulator told its new size in cells and a cell's in pixels, and
the pixels an image holds. -/
class Emulator where
  launch : TerminalSpec → TerminalSubsession × Program
  resize : TerminalSubsession × Program → Size → Size → TerminalSubsession × Program
  pixels : ImageObject → Picture

/-- Where a terminal's window is on the desktop. -/
structure WindowLayout where
  rect : Proto.Rect := {}
  zOrder : UInt16 := 0
  zoomed : Bool := false
  tile : Proto.TileFraction := {}
deriving DecidableEq

/-- What a terminal or a session says of printing in place of the configuration. -/
structure PrinterOverride where
  mode : Option Proto.PrinterMode := none
  askCache : Option UInt32 := none
  spoolLimit : Option UInt32 := none
deriving DecidableEq

/-- A print job kept for a reader to fetch. -/
structure HeldJob where
  id : UInt64
  kind : Proto.PrintJobKind
  text : Bytes
  lines : UInt32
  at_ : Int64
  overflowed : Bool

/-- What the server asks of a child, or gives it to read. -/
inductive ChildRequest where
  | input (bytes : Bytes)
  | terminate
  | kill
  | close

/-- A terminal, with its screen, its child, what the child was asked, and what its readers are still
to be told. -/
structure Terminal where
  id : TerminalId
  session : TerminalSubsession
  program : Program
  asked : List ChildRequest := []
  columns : Nat
  rows : Nat
  pixelWidth : Nat
  pixelHeight : Nat
  spec : TerminalSpec
  exitStatus : Option Int32 := none
  exitAnnounced : Bool := false
  bellMarked : Bool := false
  activityMarked : Bool := false
  resizedByAClient : Bool := false
  marksAnnounced : Bool := true
  bellSerial : UInt32 := 0
  activitySerial : UInt32 := 0
  layout : WindowLayout := {}
  layoutAnnounced : Bool := true
  customTitle : Bytes := []
  customTitleAnnounced : Bool := true
  printer : PrinterOverride := {}
  printerNews : Bool := false
  jobs : List HeldJob := []
  nextJob : UInt64 := 1

/-- Lines as a reader counts them. -/
def countLines (text : Bytes) : UInt32 :=
  if text.isEmpty then 0
  else
    let breaks := UInt32.ofNat (text.countP fun byte => byte = 10)
    if text.getLast? = some 10 then breaks else breaks + 1

namespace Terminal

variable (terminal : Terminal)

/-- Whether there is a child still to end. -/
def live : Bool :=
  terminal.program.state = .ready ∨ terminal.program.state = .running

/-- The child asked for something. -/
def ask (request : ChildRequest) : Terminal :=
  { terminal with asked := terminal.asked ++ [request] }

/-- A cell's size in pixels, or none if nobody has said. -/
def cellPixels : Size :=
  if terminal.pixelWidth = 0 ∨ terminal.pixelHeight = 0 then {}
  else ⟨terminal.pixelWidth / max 1 terminal.columns, terminal.pixelHeight / max 1 terminal.rows⟩

/-- The window somewhere else. That is news unless it was there. -/
def setLayout (layout : WindowLayout) : Terminal :=
  if terminal.layout = layout then terminal
  else { terminal with layout := layout, layoutAnnounced := false }

/-- The window as it is before anybody places it. -/
def clearLayout : Terminal := terminal.setLayout {}

/-- A name given by a reader, cut to what the wire carries. -/
def setCustomTitle (title : Bytes) : Terminal :=
  let kept := clampUtf8 title Proto.kMaxTitleBytes
  if terminal.customTitle = kept then terminal
  else { terminal with customTitle := kept, customTitleAnnounced := false }

/-- The held job of that number. -/
def printJob (id : UInt64) : Option HeldJob := terminal.jobs.find? fun job => job.id = id

/-- One job given up, or all of them; and whether there was any. -/
def discardPrintJobs (id : UInt64) : Bool × Terminal :=
  if id = 0 then (!terminal.jobs.isEmpty, { terminal with jobs := [] })
  else if terminal.jobs.any fun job => job.id = id then
    (true, { terminal with jobs := terminal.jobs.eraseP fun job => job.id = id })
  else (false, terminal)

/-- The finished jobs, taken from the emulator and kept. -/
def collectPrintJobs (now : Int) : List HeldJob × Terminal :=
  let added := terminal.program.printerJobs.zipIdx.map fun entry : TerminalPrinterJob × Nat =>
    { id := terminal.nextJob + UInt64.ofNat entry.2
      kind := entry.1.kind
      text := entry.1.text
      lines := countLines entry.1.text
      at_ := Int64.ofInt now
      overflowed := entry.1.overflowed : HeldJob }
  (added,
   { terminal with
     program := { terminal.program with printerJobs := [] }
     jobs := terminal.jobs ++ added
     nextJob := terminal.nextJob + UInt64.ofNat added.length })

/-- What the child exited with, once it has. -/
def observeExit : Terminal :=
  if terminal.exitStatus.isSome then terminal
  else if terminal.program.state ≠ .exited then terminal
  else { terminal with exitStatus := terminal.program.exitCode }

/-- The bell marked. -/
def markBell : Terminal :=
  if terminal.bellMarked then terminal
  else { terminal with bellMarked := true, marksAnnounced := false }

/-- The activity marked. -/
def markActivity : Terminal :=
  if terminal.activityMarked then terminal
  else { terminal with activityMarked := true, marksAnnounced := false }

/-- No marks. -/
def clearMarks : Terminal :=
  if ¬terminal.bellMarked ∧ ¬terminal.activityMarked then terminal
  else { terminal with bellMarked := false, activityMarked := false, marksAnnounced := false }

/-- The bell rung once more. -/
def countBell : Terminal :=
  { terminal with bellSerial := terminal.bellSerial + 1, marksAnnounced := false }

/-- Active once more. -/
def countActivity : Terminal := { terminal with activitySerial := terminal.activitySerial + 1 }

/-- The damage a tick has told of, forgotten. -/
def clearDamage : Terminal :=
  { terminal with
    session := terminal.session.clearDamage
    program := { terminal.program with
      bell := false
      clipboard := false
      printer := false
      diagnostics := false
      lifecycle := false } }

/-- The spec again, at the size the terminal has now. -/
def respawnSpec : TerminalSpec :=
  { terminal.spec with
    columns := terminal.columns
    rows := terminal.rows
    pixelWidth := terminal.pixelWidth
    pixelHeight := terminal.pixelHeight }

variable [Emulator]

/-- A terminal just started. -/
def opened (id : TerminalId) (spec : TerminalSpec) : Terminal where
  id := id
  session := (Emulator.launch spec).1
  program := (Emulator.launch spec).2
  columns := max 1 spec.columns
  rows := max 1 spec.rows
  pixelWidth := spec.pixelWidth
  pixelHeight := spec.pixelHeight
  spec := spec

/-- Another child where the last one was. -/
def relaunch : Terminal :=
  { terminal with
    session := (Emulator.launch terminal.respawnSpec).1
    program := (Emulator.launch terminal.respawnSpec).2
    exitStatus := none
    exitAnnounced := false
    bellMarked := false
    activityMarked := false
    marksAnnounced := true }

/-- The terminal at another size. A cell's size is kept unless both sides of it are given. -/
def resize (columns rows pixelWidth pixelHeight : Nat) : Terminal :=
  let measured := pixelWidth > 0 ∧ pixelHeight > 0
  let sized : Terminal := { terminal with
    resizedByAClient := true
    columns := max 1 columns
    rows := max 1 rows
    pixelWidth := if measured then pixelWidth else terminal.pixelWidth
    pixelHeight := if measured then pixelHeight else terminal.pixelHeight }
  let resized := Emulator.resize (sized.session, sized.program) ⟨sized.columns, sized.rows⟩
    sized.cellPixels
  { sized with session := resized.1, program := resized.2 }

end Terminal

end Ckmux
