import Mathlib
import Ckmux.Grammar.Wire
import Ckmux.Proto.Message

/-!
# Writing and reading messages

One writer and one reader for each message, in the order of the wire format. A
reader of cells is told how to rebuild a cell from the text, the width and the
style that were stated: the program lets the terminal library measure the text
again (`measured`), so a stated width decides only whether a cell is a
continuation.
-/

namespace Ckmux.Proto

open Grammar (Bytes Put Get)

/-! ### Colours and cells -/

/-- One tagged word: the kind in the top byte, the rest whatever that kind has. -/
def Color.toWord : Color → UInt32
  | .rgb red green blue =>
      ((2 : UInt32) <<< 24) ||| (red.toUInt32 <<< 16) ||| (green.toUInt32 <<< 8) |||
        blue.toUInt32
  | .indexed index => ((1 : UInt32) <<< 24) ||| index.toUInt32
  | .default => 0

/-- The colour a word stands for; payload bits a kind does not have are refused. -/
def Color.ofWord (value : UInt32) : Option Color :=
  match (value >>> 24).toNat with
  | 0 => if value &&& 0x00FFFFFF = 0 then some .default else none
  | 1 => if value &&& 0x00FFFF00 = 0 then some (.indexed (value &&& 0xFF).toUInt8) else none
  | 2 => some (.rgb ((value >>> 16) &&& 0xFF).toUInt8 ((value >>> 8) &&& 0xFF).toUInt8
      (value &&& 0xFF).toUInt8)
  | _ => none

/-- A colour is one word. -/
def Color.write (color : Color) : Put := Put.u32 (Color.toWord color)

/-- A word that stands for no colour is malformed. -/
def Color.read : Get Color := Get.convert Get.u32 Color.ofWord

/-- The byte a width is written as. -/
def widthByte (width : Int) : UInt8 := UInt8.ofNat (max 0 (min width 255)).toNat

/-- A cell's text, its width, its two colours, its attributes and a reserved word of nought. -/
def Cell.write (value : Cell) : Put := Put.seq [
  Put.str value.grapheme,
  Put.u8 (widthByte value.width),
  Color.write value.style.fg,
  Color.write value.style.bg,
  Put.u8 value.style.attrs,
  Put.u16 0]

/-- How a reader turns a stated text, width and style into a cell. -/
abbrev Rebuild := Bytes → UInt8 → Style → Cell

/-- The program measures a text again and drops the width it was told. -/
def measured [CkVision] : Rebuild := fun text _ style => CkVision.fromGrapheme text style

/-- A cell of no width is the rest of a wide one and has no text; any other has some, and not too
much of it. -/
def Cell.read [CkVision] (rebuild : Rebuild) : Get Cell := do
  let text ← Get.str
  Get.require (text.length ≤ kMaxCellTextBytes)
  let width ← Get.u8
  let fg ← Color.read
  let bg ← Color.read
  let attrs ← Get.u8
  let reserved ← Get.u16
  Get.require (reserved = 0)
  if width = 0 then do
    Get.require (text = [])
    pure (CkVision.continuation { fg := fg, bg := bg, attrs := attrs })
  else do
    Get.require (text ≠ [])
    pure (rebuild text width { fg := fg, bg := bg, attrs := attrs })

/-- How many cells the run is of, and the cell. -/
def CellRun.write (run : CellRun) : Put := Put.seq [Put.u16 run.runLength, Cell.write run.cell]

/-- A run of no cells is malformed. -/
def CellRun.read [CkVision] (rebuild : Rebuild) : Get CellRun := do
  let runLength ← Get.u16
  Get.require (runLength ≠ 0)
  let cell ← Cell.read rebuild
  pure ⟨runLength, cell⟩

/-- How many runs there are, and the runs. -/
def writeRuns : List CellRun → Put := Put.counted CellRun.write

/-- Sixteen bytes is the least a run takes, which bounds how many may be claimed. -/
def readRuns [CkVision] (rebuild : Rebuild) : Get (List CellRun) :=
  Get.counted 16 (CellRun.read rebuild)

/-- How many lines there are, and the runs of each. -/
def writeLines : List (List CellRun) → Put := Put.counted writeRuns

/-- Four bytes is the least a line takes. -/
def readLines [CkVision] (rebuild : Rebuild) : Get (List (List CellRun)) :=
  Get.counted 4 (readRuns rebuild)

/-! ### Parts of messages -/

/-- An enumeration with a value it does not have is malformed. -/
def enumOf (Enum : Type) [DecidableEq Enum] [WireEnum Enum] (highest : UInt8) : Get Enum :=
  Get.convert Get.u8 fun value => if value > highest then none else WireEnum.ofWire value

/-- An enumerated value is its byte. -/
def writeEnum {Enum : Type} [DecidableEq Enum] [WireEnum Enum] (value : Enum) : Put :=
  Put.u8 (WireEnum.toWire value)

/-- Where a rectangle is and how large. -/
def Rect.write (value : Rect) : Put := Put.seq [
  Put.i16 value.x,
  Put.i16 value.y,
  Put.u16 value.width,
  Put.u16 value.height]

/-- The four numbers of a rectangle. -/
def Rect.read : Get Rect := do
  let x ← Get.i16
  let y ← Get.i16
  let width ← Get.u16
  let height ← Get.u16
  pure { x := x, y := y, width := width, height := height }

/-- Where a share is and how large, in ten-thousandths. -/
def TileFraction.write (value : TileFraction) : Put := Put.seq [
  Put.u16 value.x,
  Put.u16 value.y,
  Put.u16 value.width,
  Put.u16 value.height]

/-- The four numbers of a share, whatever they add up to. -/
def TileFraction.read : Get TileFraction := do
  let x ← Get.u16
  let y ← Get.u16
  let width ← Get.u16
  let height ← Get.u16
  pure { x := x, y := y, width := width, height := height }

/-- The cursor's place, its style, and whether it is seen and blinks. -/
def CursorOp.write (value : CursorOp) : Put := Put.seq [
  Put.u16 value.column,
  Put.u16 value.row,
  Put.u8 value.style,
  Put.u8 value.visible,
  Put.u8 value.blink]

/-- Any style is taken as it comes. -/
def CursorOp.read : Get CursorOp := do
  let column ← Get.u16
  let row ← Get.u16
  let style ← Get.u8
  let visible ← Get.u8
  let blink ← Get.u8
  pure { column := column, row := row, style := style, visible := visible, blink := blink }

/-- A job's number, its kind, how large it is and when it was printed. -/
def PrintJobInfo.write (value : PrintJobInfo) : Put := Put.seq [
  Put.u64 value.job,
  writeEnum value.kind,
  Put.u32 value.bytes,
  Put.u32 value.lines,
  Put.i64 value.at_]

/-- A kind of job that there is not is malformed. -/
def PrintJobInfo.read : Get PrintJobInfo := do
  let job ← Get.u64
  let kind ← enumOf PrintJobKind 3
  let bytes ← Get.u32
  let lines ← Get.u32
  let at_ ← Get.i64
  pure { job := job, kind := kind, bytes := bytes, lines := lines, at_ := at_ }

/-- A session's number and name, how many terminals it has, whether it is attached, and its two
times. -/
def SessionInfo.write (session : SessionInfo) : Put := Put.seq [
  Put.u64 session.id,
  Put.str session.name,
  Put.u16 session.terminals,
  Put.u8 session.attached,
  Put.i64 session.created,
  Put.i64 session.lastAttached]

/-- One session of a list. -/
def SessionInfo.read : Get SessionInfo := do
  let id ← Get.u64
  let name ← Get.str
  let terminals ← Get.u16
  let attached ← Get.u8
  let created ← Get.i64
  let lastAttached ← Get.i64
  pure {
    id := id, name := name, terminals := terminals, attached := attached, created := created,
    lastAttached := lastAttached }

/-- Which window it is, its rectangle, its height in the stack, and how it is zoomed and tiled. -/
def LayoutEntry.write (entry : LayoutEntry) : Put := Put.seq [
  Put.u64 entry.term,
  Rect.write entry.rect,
  Put.u16 entry.zOrder,
  Put.u8 entry.zoomed,
  TileFraction.write entry.tile]

/-- One window of an arrangement. -/
def LayoutEntry.read : Get LayoutEntry := do
  let term ← Get.u64
  let rect ← Rect.read
  let zOrder ← Get.u16
  let zoomed ← Get.u8
  let tile ← TileFraction.read
  pure { term := term, rect := rect, zOrder := zOrder, zoomed := zoomed, tile := tile }

/-- A terminal as it is stated in a snapshot, each part behind the one before. -/
def TerminalState.write (state : TerminalState) : Put := Put.seq [
  Put.u64 state.term,
  Put.u16 state.index,
  Put.str state.title,
  Put.str state.customTitle,
  Put.u8 state.flags,
  Put.u16 state.columns,
  Put.u16 state.rows,
  Rect.write state.rect,
  Put.u16 state.zOrder,
  Put.u8 state.zoomed,
  TileFraction.write state.tile,
  CursorOp.write state.cursor,
  Put.u32 state.modes,
  writeRuns state.grid,
  writeLines state.scrollback,
  Put.counted Put.u64 state.images,
  writeEnum state.printerMode,
  writeEnum state.printerScope,
  writeEnum state.printerState,
  Put.u32 state.printerBytes,
  Put.counted PrintJobInfo.write state.printJobs,
  Put.u64 state.clipboardSerial,
  Put.u8 state.exited,
  Put.i32 state.exitStatus,
  Put.u8 state.hold,
  writeEnum state.diagnosticKind,
  Put.str state.diagnostic,
  Put.u32 state.bellSerial,
  Put.u32 state.activitySerial]

/-- A terminal as it is stated, its cells built again. -/
def TerminalState.read [CkVision] (rebuild : Rebuild) : Get TerminalState := do
  let term ← Get.u64
  let index ← Get.u16
  let title ← Get.str
  let customTitle ← Get.str
  let flags ← Get.u8
  let columns ← Get.u16
  let rows ← Get.u16
  let rect ← Rect.read
  let zOrder ← Get.u16
  let zoomed ← Get.u8
  let tile ← TileFraction.read
  let cursor ← CursorOp.read
  let modes ← Get.u32
  let grid ← readRuns rebuild
  let scrollback ← readLines rebuild
  let images ← Get.counted 8 Get.u64
  let printerMode ← enumOf PrinterMode 2
  let printerScope ← enumOf PrinterScope 2
  let printerState ← enumOf PrinterState 3
  let printerBytes ← Get.u32
  let printJobs ← Get.counted 25 PrintJobInfo.read
  let clipboardSerial ← Get.u64
  let exited ← Get.u8
  let exitStatus ← Get.i32
  let hold ← Get.u8
  let diagnosticKind ← enumOf DiagnosticKind 3
  let diagnostic ← Get.str
  let bellSerial ← Get.u32
  let activitySerial ← Get.u32
  pure {
    term := term, index := index, title := title, customTitle := customTitle, flags := flags,
    columns := columns, rows := rows, rect := rect, zOrder := zOrder, zoomed := zoomed,
    tile := tile, cursor := cursor, modes := modes, grid := grid, scrollback := scrollback,
    images := images, printerMode := printerMode, printerScope := printerScope,
    printerState := printerState, printerBytes := printerBytes, printJobs := printJobs,
    clipboardSerial := clipboardSerial, exited := exited, exitStatus := exitStatus, hold := hold,
    diagnosticKind := diagnosticKind, diagnostic := diagnostic, bellSerial := bellSerial,
    activitySerial := activitySerial }

/-! ### Grid operations -/

/-- The byte that says which operation follows. -/
inductive GridOpTag where
  | scroll | cells | cursor | modes | title | scrollbackPush | resize
deriving DecidableEq

instance : WireEnum GridOpTag where
  values := [.scroll, .cells, .cursor, .modes, .title, .scrollbackPush, .resize]
  distinct := by decide
  complete := by rintro ⟨⟩ <;> decide
  fits := by decide

/-- The byte of the operation, and what it carries. -/
def GridOp.write : GridOp → Put
  | .scroll value => Put.seq [
      writeEnum GridOpTag.scroll, Put.u16 value.top, Put.u16 value.bottom, Put.i16 value.lines]
  | .cells value => Put.seq [
      writeEnum GridOpTag.cells, Put.u16 value.row, Put.u16 value.column, writeRuns value.runs]
  | .cursor value => Put.seq [writeEnum GridOpTag.cursor, CursorOp.write value]
  | .modes value => Put.seq [
      writeEnum GridOpTag.modes, Put.u32 value.changedMask, Put.u32 value.values]
  | .title value => Put.seq [writeEnum GridOpTag.title, Put.str value.title]
  | .scrollbackPush value => Put.seq [writeEnum GridOpTag.scrollbackPush, writeLines value.lines]
  | .resize value => Put.seq [
      writeEnum GridOpTag.resize, Put.u16 value.columns, Put.u16 value.rows]

/-- Which operation it is decides how the rest is read. -/
def GridOp.read [CkVision] (rebuild : Rebuild) : Get GridOp := do
  let tag ← enumOf GridOpTag 6
  match tag with
  | .scroll => do
      let top ← Get.u16
      let bottom ← Get.u16
      let lines ← Get.i16
      pure (.scroll ⟨top, bottom, lines⟩)
  | .cells => do
      let row ← Get.u16
      let column ← Get.u16
      let runs ← readRuns rebuild
      pure (.cells ⟨row, column, runs⟩)
  | .cursor => do
      let op ← CursorOp.read
      pure (.cursor op)
  | .modes => do
      let changedMask ← Get.u32
      let values ← Get.u32
      pure (.modes ⟨changedMask, values⟩)
  | .title => do
      let title ← Get.str
      pure (.title ⟨title⟩)
  | .scrollbackPush => do
      let lines ← readLines rebuild
      pure (.scrollbackPush ⟨lines⟩)
  | .resize => do
      let columns ← Get.u16
      let rows ← Get.u16
      pure (.resize ⟨columns, rows⟩)

/-! ### Messages -/

/-- Nothing at all. -/
def Empty.write {type : MessageType} (_ : Empty type) : Put := Put.seq []

/-- Nothing is read. -/
def Empty.read {type : MessageType} : Get (Empty type) := pure ⟨⟩

/-- The terminal's id. -/
def TerminalRef.write {type : MessageType} (message : TerminalRef type) : Put := Put.seq [
  Put.u64 message.term]

/-- Any id is taken. -/
def TerminalRef.read {type : MessageType} : Get (TerminalRef type) := do
  let term ← Get.u64
  pure { term := term }

/-- The image's id. -/
def ImageRef.write {type : MessageType} (message : ImageRef type) : Put := Put.seq [
  Put.u64 message.id]

/-- Any id is taken. -/
def ImageRef.read {type : MessageType} : Get (ImageRef type) := do
  let id ← Get.u64
  pure { id := id }

/-- The number. -/
def Nonce.write {type : MessageType} (message : Nonce type) : Put := Put.seq [
  Put.u64 message.nonce]

/-- Any number is taken. -/
def Nonce.read {type : MessageType} : Get (Nonce type) := do
  let nonce ← Get.u64
  pure { nonce := nonce }

/-- The version, the build, and which end this is. -/
def Hello.write (message : Hello) : Put := Put.seq [
  Put.u32 message.protoVersion,
  Put.str message.build,
  writeEnum message.clientKind]

/-- A version is not judged here, but the kind of client must be one there is. -/
def Hello.read : Get Hello := do
  let protoVersion ← Get.u32
  let build ← Get.str
  let clientKind ← enumOf ClientKind 1
  pure { protoVersion := protoVersion, build := build, clientKind := clientKind }

/-- The server's version and its build. -/
def HelloAck.write (message : HelloAck) : Put := Put.seq [
  Put.u32 message.protoVersion,
  Put.str message.build]

/-- The answer to a hello. -/
def HelloAck.read : Get HelloAck := do
  let protoVersion ← Get.u32
  let build ← Get.str
  pure { protoVersion := protoVersion, build := build }

/-- The reason in words. -/
def Refuse.write (message : Refuse) : Put := Put.seq [Put.str message.reason]

/-- Any reason is taken. -/
def Refuse.read : Get Refuse := do
  let reason ← Get.str
  pure { reason := reason }

/-- The session's name, whether it begins with a terminal, and that one's command. -/
def NewSession.write (message : NewSession) : Put := Put.seq [
  Put.str message.name,
  Put.u8 message.spawnFirst,
  Put.str message.command]

/-- What a session asked for is to be. -/
def NewSession.read : Get NewSession := do
  let name ← Get.str
  let spawnFirst ← Get.u8
  let command ← Get.str
  pure { name := name, spawnFirst := spawnFirst, command := command }

/-- Which session, how large the screen is in cells and in pixels, the mode, and whether Sixel is
known. -/
def Attach.write (message : Attach) : Put := Put.seq [
  Put.u64 message.session,
  Put.u16 message.columns,
  Put.u16 message.rows,
  Put.u16 message.pixelWidth,
  Put.u16 message.pixelHeight,
  Put.u8 message.hostSixel,
  Put.u8 message.mode]

/-- A mode is any byte; what it means is the server's to say. -/
def Attach.read : Get Attach := do
  let session ← Get.u64
  let columns ← Get.u16
  let rows ← Get.u16
  let pixelWidth ← Get.u16
  let pixelHeight ← Get.u16
  let hostSixel ← Get.u8
  let mode ← Get.u8
  pure {
    session := session, columns := columns, rows := rows, pixelWidth := pixelWidth,
    pixelHeight := pixelHeight, hostSixel := hostSixel, mode := mode }

/-- Whose mode, and which. -/
def SetReaderMode.write (message : SetReaderMode) : Put := Put.seq [
  Put.u8 message.scope,
  Put.u8 message.mode]

/-- Scope and mode are any bytes. -/
def SetReaderMode.read : Get SetReaderMode := do
  let scope ← Get.u8
  let mode ← Get.u8
  pure { scope := scope, mode := mode }

/-- The mode a reader has now. -/
def ReaderMode.write (message : ReaderMode) : Put := Put.seq [Put.u8 message.mode]

/-- The mode is any byte. -/
def ReaderMode.read : Get ReaderMode := do
  let mode ← Get.u8
  pure { mode := mode }

/-- The screen's size in cells and in pixels. -/
def ClientResize.write (message : ClientResize) : Put := Put.seq [
  Put.u16 message.columns,
  Put.u16 message.rows,
  Put.u16 message.pixelWidth,
  Put.u16 message.pixelHeight]

/-- The four sizes of a screen. -/
def ClientResize.read : Get ClientResize := do
  let columns ← Get.u16
  let rows ← Get.u16
  let pixelWidth ← Get.u16
  let pixelHeight ← Get.u16
  pure { columns := columns, rows := rows, pixelWidth := pixelWidth, pixelHeight := pixelHeight }

/-- Which session, the command, the window's rectangle, and whether Sixel is known. -/
def NewTerminal.write (message : NewTerminal) : Put := Put.seq [
  Put.u64 message.session,
  Put.str message.command,
  Rect.write message.rect,
  Put.u8 message.hostSixel]

/-- What a terminal asked for is to be. -/
def NewTerminal.read : Get NewTerminal := do
  let session ← Get.u64
  let command ← Get.str
  let rect ← Rect.read
  let hostSixel ← Get.u8
  pure { session := session, command := command, rect := rect, hostSixel := hostSixel }

/-- Which terminal, which session it goes to, and whether to a new one. -/
def MoveTerminal.write (message : MoveTerminal) : Put := Put.seq [
  Put.u64 message.term,
  Put.u64 message.destinationSession,
  Put.u8 message.toNewSession]

/-- Where a terminal is to go. -/
def MoveTerminal.read : Get MoveTerminal := do
  let term ← Get.u64
  let destinationSession ← Get.u64
  let toNewSession ← Get.u8
  pure { term := term, destinationSession := destinationSession, toNewSession := toNewSession }

/-- Which terminal, whether it is made to end, and after how long. -/
def CloseTerminal.write (message : CloseTerminal) : Put := Put.seq [
  Put.u64 message.term,
  Put.u8 message.force,
  Put.u16 message.graceSeconds]

/-- How a terminal is to be closed. -/
def CloseTerminal.read : Get CloseTerminal := do
  let term ← Get.u64
  let force ← Get.u8
  let graceSeconds ← Get.u16
  pure { term := term, force := force, graceSeconds := graceSeconds }

/-- Which terminal, and its rectangle. -/
def MoveResize.write (message : MoveResize) : Put := Put.seq [
  Put.u64 message.term,
  Rect.write message.rect]

/-- The rectangle a terminal is to have. -/
def MoveResize.read : Get MoveResize := do
  let term ← Get.u64
  let rect ← Rect.read
  pure { term := term, rect := rect }

/-- Which terminal, and whether it is zoomed. -/
def ZoomTerm.write (message : ZoomTerm) : Put := Put.seq [
  Put.u64 message.term,
  Put.u8 message.on]

/-- Any byte but nought has it zoomed. -/
def ZoomTerm.read : Get ZoomTerm := do
  let term ← Get.u64
  let on ← Get.u8
  pure { term := term, on := on }

/-- Which session, and its name. -/
def RenameSession.write (message : RenameSession) : Put := Put.seq [
  Put.u64 message.id,
  Put.str message.name]

/-- The name a session is to have. -/
def RenameSession.read : Get RenameSession := do
  let id ← Get.u64
  let name ← Get.str
  pure { id := id, name := name }

/-- Which terminal, and its name. -/
def RenameTerminal.write (message : RenameTerminal) : Put := Put.seq [
  Put.u64 message.id,
  Put.str message.name]

/-- The name a terminal is to have. -/
def RenameTerminal.read : Get RenameTerminal := do
  let id ← Get.u64
  let name ← Get.str
  pure { id := id, name := name }

/-- Which session, whether it is made to end, and after how long. -/
def KillSession.write (message : KillSession) : Put := Put.seq [
  Put.u64 message.session,
  Put.u8 message.force,
  Put.u16 message.graceSeconds]

/-- How a session is to be ended. -/
def KillSession.read : Get KillSession := do
  let session ← Get.u64
  let force ← Get.u8
  let graceSeconds ← Get.u16
  pure { session := session, force := force, graceSeconds := graceSeconds }

/-- Which terminal, and what was typed. -/
def Input.write (message : Input) : Put := Put.seq [
  Put.u64 message.term,
  Put.blob message.bytes]

/-- What was typed is no longer than a string may be. -/
def Input.read : Get Input := do
  let term ← Get.u64
  let bytes ← Get.blob kMaxStringBytes
  pure { term := term, bytes := bytes }

/-- Which terminal, the chunk's number, whether it is the last, and its bytes. -/
def PasteChunk.write (message : PasteChunk) : Put := Put.seq [
  Put.u64 message.term,
  Put.u32 message.seq,
  Put.u8 message.finalChunk,
  Put.blob message.bytes]

/-- A chunk is no longer than a string may be. -/
def PasteChunk.read : Get PasteChunk := do
  let term ← Get.u64
  let seq ← Get.u32
  let finalChunk ← Get.u8
  let bytes ← Get.blob kMaxStringBytes
  pure { term := term, seq := seq, finalChunk := finalChunk, bytes := bytes }

/-- The number of the chunk. -/
def PasteAck.write (message : PasteAck) : Put := Put.seq [Put.u32 message.seq]

/-- Any number is taken. -/
def PasteAck.read : Get PasteAck := do
  let seq ← Get.u32
  pure { seq := seq }

/-- How many sessions there are, and each of them. -/
def SessionList.write (message : SessionList) : Put := Put.seq [
  Put.counted SessionInfo.write message.sessions]

/-- Twenty-nine bytes is the least a session takes. -/
def SessionList.read : Get SessionList := do
  let sessions ← Get.counted 29 SessionInfo.read
  pure { sessions := sessions }

/-- Which session, the desktop's size, the focused terminal and all the terminals. -/
def Attached.write (message : Attached) : Put := Put.seq [
  Put.u64 message.session,
  Put.u16 message.snapshot.desktopColumns,
  Put.u16 message.snapshot.desktopRows,
  Put.u64 message.snapshot.focusedTerm,
  Put.counted TerminalState.write message.snapshot.terminals]

/-- Ninety-seven bytes is the least a terminal takes. -/
def Attached.read [CkVision] (rebuild : Rebuild) : Get Attached := do
  let session ← Get.u64
  let desktopColumns ← Get.u16
  let desktopRows ← Get.u16
  let focusedTerm ← Get.u64
  let terminals ← Get.counted 97 (TerminalState.read rebuild)
  pure { session := session, snapshot := ⟨desktopColumns, desktopRows, focusedTerm, terminals⟩ }

/-- The reason, and what there is to say of it. -/
def Detached.write (message : Detached) : Put := Put.seq [
  writeEnum message.reason,
  Put.str message.text]

/-- A reason that there is not is malformed. -/
def Detached.read : Get Detached := do
  let reason ← enumOf DetachReason 3
  let text ← Get.str
  pure { reason := reason, text := text }

/-- How many windows there are, and each of them. -/
def SetLayout.write (message : SetLayout) : Put := Put.seq [
  Put.counted LayoutEntry.write message.entries]

/-- Twenty-seven bytes is what a window takes. -/
def SetLayout.read : Get SetLayout := do
  let entries ← Get.counted 27 LayoutEntry.read
  pure { entries := entries }

/-- Whether the stats are wanted. -/
def WatchStats.write (message : WatchStats) : Put := Put.seq [Put.u8 message.on]

/-- Any byte but nought asks for them. -/
def WatchStats.read : Get WatchStats := do
  let on ← Get.u8
  pure { on := on }

/-- The desktop's columns and rows. -/
def SetDesktopSize.write (message : SetDesktopSize) : Put := Put.seq [
  Put.u16 message.columns,
  Put.u16 message.rows]

/-- Any size is taken; the server judges it. -/
def SetDesktopSize.read : Get SetDesktopSize := do
  let columns ← Get.u16
  let rows ← Get.u16
  pure { columns := columns, rows := rows }

/-- Which session, its windows, the focused one and the desktop's size. -/
def LayoutDelta.write (message : LayoutDelta) : Put := Put.seq [
  Put.u64 message.session,
  Put.counted LayoutEntry.write message.entries,
  Put.u64 message.focusedTerm,
  Put.u16 message.desktopColumns,
  Put.u16 message.desktopRows]

/-- Where a session's windows are. -/
def LayoutDelta.read : Get LayoutDelta := do
  let session ← Get.u64
  let entries ← Get.counted 27 LayoutEntry.read
  let focusedTerm ← Get.u64
  let desktopColumns ← Get.u16
  let desktopRows ← Get.u16
  pure {
    session := session, entries := entries, focusedTerm := focusedTerm,
    desktopColumns := desktopColumns, desktopRows := desktopRows }

/-- Which terminal of which session, its index, window and title, and its size. -/
def TermOpened.write (message : TermOpened) : Put := Put.seq [
  Put.u64 message.term,
  Put.u64 message.session,
  Put.u16 message.index,
  Rect.write message.rect,
  Put.str message.title,
  Put.u16 message.columns,
  Put.u16 message.rows]

/-- What is first said of a terminal. -/
def TermOpened.read : Get TermOpened := do
  let term ← Get.u64
  let session ← Get.u64
  let index ← Get.u16
  let rect ← Rect.read
  let title ← Get.str
  let columns ← Get.u16
  let rows ← Get.u16
  pure {
    term := term, session := session, index := index, rect := rect, title := title,
    columns := columns, rows := rows }

/-- Which terminal, whether and how its child ended, and whether it is held. -/
def TermClosed.write (message : TermClosed) : Put := Put.seq [
  Put.u64 message.term,
  Put.u8 message.exited,
  Put.i32 message.exitStatus,
  Put.u8 message.hold]

/-- How a terminal ended. -/
def TermClosed.read : Get TermClosed := do
  let term ← Get.u64
  let exited ← Get.u8
  let exitStatus ← Get.i32
  let hold ← Get.u8
  pure { term := term, exited := exited, exitStatus := exitStatus, hold := hold }

/-- Which terminal, its index, both of its titles, its flags and its two counts. -/
def TermMeta.write (message : TermMeta) : Put := Put.seq [
  Put.u64 message.term,
  Put.u16 message.index,
  Put.str message.title,
  Put.str message.customTitle,
  Put.u8 message.flags,
  Put.u32 message.bellSerial,
  Put.u32 message.activitySerial]

/-- What is said of a terminal beside its screen. -/
def TermMeta.read : Get TermMeta := do
  let term ← Get.u64
  let index ← Get.u16
  let title ← Get.str
  let customTitle ← Get.str
  let flags ← Get.u8
  let bellSerial ← Get.u32
  let activitySerial ← Get.u32
  pure {
    term := term, index := index, title := title, customTitle := customTitle, flags := flags,
    bellSerial := bellSerial, activitySerial := activitySerial }

/-- Which terminal, the delta's number, and the operations. -/
def GridDelta.write (message : GridDelta) : Put := Put.seq [
  Put.u64 message.term,
  Put.u32 message.seq,
  Put.counted GridOp.write message.ops]

/-- Three bytes is the least an operation takes. -/
def GridDelta.read [CkVision] (rebuild : Rebuild) : Get GridDelta := do
  let term ← Get.u64
  let seq ← Get.u32
  let ops ← Get.counted 3 (GridOp.read rebuild)
  pure { term := term, seq := seq, ops := ops }

/-- The image's id and its size in pixels. -/
def ImageAddBegin.write (message : ImageAddBegin) : Put := Put.seq [
  Put.u64 message.id,
  Put.u16 message.width,
  Put.u16 message.height]

/-- What is known of an image before its chunks. -/
def ImageAddBegin.read : Get ImageAddBegin := do
  let id ← Get.u64
  let width ← Get.u16
  let height ← Get.u16
  pure { id := id, width := width, height := height }

/-- The image's id, the chunk's number and its bytes. -/
def ImageChunk.write (message : ImageChunk) : Put := Put.seq [
  Put.u64 message.id,
  Put.u32 message.seq,
  Put.blob message.bytes]

/-- A chunk of an image is no longer than a chunk may be. -/
def ImageChunk.read : Get ImageChunk := do
  let id ← Get.u64
  let seq ← Get.u32
  let bytes ← Get.blob kMaxChunkPayloadBytes
  pure { id := id, seq := seq, bytes := bytes }

/-- Which image on which terminal, the cells it covers, and where in the first it begins. -/
def ImagePlace.write (message : ImagePlace) : Put := Put.seq [
  Put.u64 message.term,
  Put.u64 message.id,
  Rect.write message.cells,
  Put.i16 message.pixelOffsetX,
  Put.i16 message.pixelOffsetY]

/-- Where an image stands. -/
def ImagePlace.read : Get ImagePlace := do
  let term ← Get.u64
  let id ← Get.u64
  let cells ← Rect.read
  let pixelOffsetX ← Get.i16
  let pixelOffsetY ← Get.i16
  pure {
    term := term, id := id, cells := cells, pixelOffsetX := pixelOffsetX,
    pixelOffsetY := pixelOffsetY }

/-- Which image on which terminal. -/
def ImageRemove.write (message : ImageRemove) : Put := Put.seq [
  Put.u64 message.term,
  Put.u64 message.id]

/-- The two ids of a removal. -/
def ImageRemove.read : Get ImageRemove := do
  let term ← Get.u64
  let id ← Get.u64
  pure { term := term, id := id }

/-- Which terminal, and the text. -/
def ClipboardSet.write (message : ClipboardSet) : Put := Put.seq [
  Put.u64 message.term,
  Put.blob message.text]

/-- The text is no longer than a string may be. -/
def ClipboardSet.read : Get ClipboardSet := do
  let term ← Get.u64
  let text ← Get.blob kMaxStringBytes
  pure { term := term, text := text }

/-- Which terminal, what the complaint is about, and its text. -/
def TermDiagnostic.write (message : TermDiagnostic) : Put := Put.seq [
  Put.u64 message.term,
  writeEnum message.kind,
  Put.str message.text]

/-- A complaint about nothing there is is malformed. -/
def TermDiagnostic.read : Get TermDiagnostic := do
  let term ← Get.u64
  let kind ← enumOf DiagnosticKind 3
  let text ← Get.str
  pure { term := term, kind := kind, text := text }

/-- Which terminal, what its processes use, and how that was measured. -/
def TermStats.write (message : TermStats) : Put := Put.seq [
  Put.u64 message.term,
  Put.u32 message.cpuPermille,
  Put.u64 message.rssBytes,
  Put.u64 message.realBytes,
  Put.u8 message.flags,
  writeEnum message.state,
  writeEnum message.cpuScope,
  writeEnum message.realKind,
  Put.u32 message.liveProcesses,
  Put.u32 message.unreadableProcesses,
  Put.u32 message.systemError]

/-- Each of the three ways of measuring must be one there is. -/
def TermStats.read : Get TermStats := do
  let term ← Get.u64
  let cpuPermille ← Get.u32
  let rssBytes ← Get.u64
  let realBytes ← Get.u64
  let flags ← Get.u8
  let state ← enumOf TermStatsState 4
  let cpuScope ← enumOf TermStatsScope 1
  let realKind ← enumOf TermStatsMemory 1
  let liveProcesses ← Get.u32
  let unreadableProcesses ← Get.u32
  let systemError ← Get.u32
  pure {
    term := term, cpuPermille := cpuPermille, rssBytes := rssBytes, realBytes := realBytes,
    flags := flags, state := state, cpuScope := cpuScope, realKind := realKind,
    liveProcesses := liveProcesses, unreadableProcesses := unreadableProcesses,
    systemError := systemError }

/-- A code, where it happened, and the words for it. -/
def Error.write (message : Error) : Put := Put.seq [
  Put.u16 message.code,
  Put.str message.context,
  Put.str message.human]

/-- Any code is taken. -/
def Error.read : Get Error := do
  let code ← Get.u16
  let context ← Get.str
  let human ← Get.str
  pure { code := code, context := context, human := human }

/-- How far the policy reaches and to what, the mode, and its two limits. -/
def SetPrinterPolicy.write (message : SetPrinterPolicy) : Put := Put.seq [
  writeEnum message.scope,
  Put.u64 message.target,
  writeEnum message.mode,
  Put.u32 message.askCache,
  Put.u32 message.spoolLimit]

/-- Scope and mode must be ones there are. -/
def SetPrinterPolicy.read : Get SetPrinterPolicy := do
  let scope ← enumOf PrinterScope 2
  let target ← Get.u64
  let mode ← enumOf PrinterMode 2
  let askCache ← Get.u32
  let spoolLimit ← Get.u32
  pure {
    scope := scope, target := target, mode := mode, askCache := askCache,
    spoolLimit := spoolLimit }

/-- Which terminal, its printer's mode and state, and how much it holds. -/
def PrintState.write (message : PrintState) : Put := Put.seq [
  Put.u64 message.term,
  writeEnum message.mode,
  writeEnum message.state,
  Put.u32 message.bytes,
  Put.u16 message.jobs]

/-- Mode and state must be ones there are. -/
def PrintState.read : Get PrintState := do
  let term ← Get.u64
  let mode ← enumOf PrinterMode 2
  let state ← enumOf PrinterState 3
  let bytes ← Get.u32
  let jobs ← Get.u16
  pure { term := term, mode := mode, state := state, bytes := bytes, jobs := jobs }

/-- Which terminal, and the job. -/
def PrintJobAdded.write (message : PrintJobAdded) : Put := Put.seq [
  Put.u64 message.term,
  PrintJobInfo.write message.job]

/-- A job that is held now. -/
def PrintJobAdded.read : Get PrintJobAdded := do
  let term ← Get.u64
  let job ← PrintJobInfo.read
  pure { term := term, job := job }

/-- Which job of which terminal. -/
def PrintJobFetch.write (message : PrintJobFetch) : Put := Put.seq [
  Put.u64 message.term,
  Put.u64 message.job]

/-- The two ids of a fetch. -/
def PrintJobFetch.read : Get PrintJobFetch := do
  let term ← Get.u64
  let job ← Get.u64
  pure { term := term, job := job }

/-- Which job of which terminal, the chunk's number, whether it is the last, and its bytes. -/
def PrintJobData.write (message : PrintJobData) : Put := Put.seq [
  Put.u64 message.term,
  Put.u64 message.job,
  Put.u32 message.seq,
  Put.u8 message.finalChunk,
  Put.blob message.bytes]

/-- A chunk of a job is no longer than a chunk may be. -/
def PrintJobData.read : Get PrintJobData := do
  let term ← Get.u64
  let job ← Get.u64
  let seq ← Get.u32
  let finalChunk ← Get.u8
  let bytes ← Get.blob kMaxChunkPayloadBytes
  pure { term := term, job := job, seq := seq, finalChunk := finalChunk, bytes := bytes }

/-- Which job of which terminal. -/
def PrintJobDiscard.write (message : PrintJobDiscard) : Put := Put.seq [
  Put.u64 message.term,
  Put.u64 message.job]

/-- The two ids of a discard. -/
def PrintJobDiscard.read : Get PrintJobDiscard := do
  let term ← Get.u64
  let job ← Get.u64
  pure { term := term, job := job }

/-- Each message by its own writer. -/
def Message.write : Message → Put
  | .hello message => Hello.write message
  | .helloAck message => HelloAck.write message
  | .refuse message => Refuse.write message
  | .ping message => Nonce.write message
  | .pong message => Nonce.write message
  | .listSessions message => Empty.write message
  | .newSession message => NewSession.write message
  | .attach message => Attach.write message
  | .detach message => Empty.write message
  | .clientResize message => ClientResize.write message
  | .renameSession message => RenameSession.write message
  | .killSession message => KillSession.write message
  | .killServer message => Empty.write message
  | .sessionList message => SessionList.write message
  | .sessionsChanged message => Empty.write message
  | .attached message => Attached.write message
  | .detached message => Detached.write message
  | .newTerminal message => NewTerminal.write message
  | .closeTerminal message => CloseTerminal.write message
  | .killTerminal message => TerminalRef.write message
  | .respawnTerminal message => TerminalRef.write message
  | .setDesktopSize message => SetDesktopSize.write message
  | .setReaderMode message => SetReaderMode.write message
  | .readerMode message => ReaderMode.write message
  | .moveTerminal message => MoveTerminal.write message
  | .moveResize message => MoveResize.write message
  | .raise message => TerminalRef.write message
  | .focusTerm message => TerminalRef.write message
  | .zoomTerm message => ZoomTerm.write message
  | .setLayout message => SetLayout.write message
  | .renameTerminal message => RenameTerminal.write message
  | .input message => Input.write message
  | .pasteChunk message => PasteChunk.write message
  | .pasteAck message => PasteAck.write message
  | .layoutDelta message => LayoutDelta.write message
  | .termOpened message => TermOpened.write message
  | .termClosed message => TermClosed.write message
  | .termMeta message => TermMeta.write message
  | .gridDelta message => GridDelta.write message
  | .imageAddBegin message => ImageAddBegin.write message
  | .imageChunk message => ImageChunk.write message
  | .imageEnd message => ImageRef.write message
  | .imagePlace message => ImagePlace.write message
  | .imageRemove message => ImageRemove.write message
  | .clipboardSet message => ClipboardSet.write message
  | .termDiagnostic message => TermDiagnostic.write message
  | .error message => Error.write message
  | .setPrinterPolicy message => SetPrinterPolicy.write message
  | .printState message => PrintState.write message
  | .printJobAdded message => PrintJobAdded.write message
  | .printJobFetch message => PrintJobFetch.write message
  | .printJobData message => PrintJobData.write message
  | .printJobDiscard message => PrintJobDiscard.write message
  | .watchStats message => WatchStats.write message
  | .termStats message => TermStats.write message

/-- Reads the payload of the message a type names. -/
def decodeAlternative [CkVision] (rebuild : Rebuild) : MessageType → Get Message
  | .hello => do pure (.hello (← Hello.read))
  | .helloAck => do pure (.helloAck (← HelloAck.read))
  | .refuse => do pure (.refuse (← Refuse.read))
  | .ping => do pure (.ping (← Nonce.read))
  | .pong => do pure (.pong (← Nonce.read))
  | .listSessions => do pure (.listSessions (← Empty.read))
  | .newSession => do pure (.newSession (← NewSession.read))
  | .attach => do pure (.attach (← Attach.read))
  | .detach => do pure (.detach (← Empty.read))
  | .clientResize => do pure (.clientResize (← ClientResize.read))
  | .renameSession => do pure (.renameSession (← RenameSession.read))
  | .killSession => do pure (.killSession (← KillSession.read))
  | .killServer => do pure (.killServer (← Empty.read))
  | .sessionList => do pure (.sessionList (← SessionList.read))
  | .sessionsChanged => do pure (.sessionsChanged (← Empty.read))
  | .attached => do pure (.attached (← Attached.read rebuild))
  | .detached => do pure (.detached (← Detached.read))
  | .newTerminal => do pure (.newTerminal (← NewTerminal.read))
  | .closeTerminal => do pure (.closeTerminal (← CloseTerminal.read))
  | .killTerminal => do pure (.killTerminal (← TerminalRef.read))
  | .respawnTerminal => do pure (.respawnTerminal (← TerminalRef.read))
  | .setDesktopSize => do pure (.setDesktopSize (← SetDesktopSize.read))
  | .setReaderMode => do pure (.setReaderMode (← SetReaderMode.read))
  | .readerMode => do pure (.readerMode (← ReaderMode.read))
  | .moveTerminal => do pure (.moveTerminal (← MoveTerminal.read))
  | .moveResize => do pure (.moveResize (← MoveResize.read))
  | .raise => do pure (.raise (← TerminalRef.read))
  | .focusTerm => do pure (.focusTerm (← TerminalRef.read))
  | .zoomTerm => do pure (.zoomTerm (← ZoomTerm.read))
  | .setLayout => do pure (.setLayout (← SetLayout.read))
  | .renameTerminal => do pure (.renameTerminal (← RenameTerminal.read))
  | .input => do pure (.input (← Input.read))
  | .pasteChunk => do pure (.pasteChunk (← PasteChunk.read))
  | .pasteAck => do pure (.pasteAck (← PasteAck.read))
  | .layoutDelta => do pure (.layoutDelta (← LayoutDelta.read))
  | .termOpened => do pure (.termOpened (← TermOpened.read))
  | .termClosed => do pure (.termClosed (← TermClosed.read))
  | .termMeta => do pure (.termMeta (← TermMeta.read))
  | .gridDelta => do pure (.gridDelta (← GridDelta.read rebuild))
  | .imageAddBegin => do pure (.imageAddBegin (← ImageAddBegin.read))
  | .imageChunk => do pure (.imageChunk (← ImageChunk.read))
  | .imageEnd => do pure (.imageEnd (← ImageRef.read))
  | .imagePlace => do pure (.imagePlace (← ImagePlace.read))
  | .imageRemove => do pure (.imageRemove (← ImageRemove.read))
  | .clipboardSet => do pure (.clipboardSet (← ClipboardSet.read))
  | .termDiagnostic => do pure (.termDiagnostic (← TermDiagnostic.read))
  | .error => do pure (.error (← Error.read))
  | .setPrinterPolicy => do pure (.setPrinterPolicy (← SetPrinterPolicy.read))
  | .printState => do pure (.printState (← PrintState.read))
  | .printJobAdded => do pure (.printJobAdded (← PrintJobAdded.read))
  | .printJobFetch => do pure (.printJobFetch (← PrintJobFetch.read))
  | .printJobData => do pure (.printJobData (← PrintJobData.read))
  | .printJobDiscard => do pure (.printJobDiscard (← PrintJobDiscard.read))
  | .watchStats => do pure (.watchStats (← WatchStats.read))
  | .termStats => do pure (.termStats (← TermStats.read))

/-! ### What a value will cost, before it is written -/

/-- Sixteen bytes beside the cell's text. -/
def CellRun.encodedSize (run : CellRun) : Nat := 16 + run.cell.grapheme.length

/-- A count before the runs. -/
def encodedRuns (runs : List CellRun) : Nat := 4 + (runs.map CellRun.encodedSize).sum

/-- The tag, the place and the runs. -/
def CellsOp.encodedSize (op : CellsOp) : Nat := 1 + 2 + 2 + encodedRuns op.runs

/-- A count before the lines. -/
def encodedLines (lines : List (List CellRun)) : Nat := 4 + (lines.map encodedRuns).sum

/-- Everything of a fixed size, and what the texts, cells, images and jobs add. -/
def TerminalState.encodedSize (state : TerminalState) : Nat :=
  89 + state.title.length + state.customTitle.length + state.diagnostic.length +
    encodedRuns state.grid + encodedLines state.scrollback + 8 * state.images.length +
    25 * state.printJobs.length

/-- The desktop, the focus and the count of terminals, and each of them. -/
def Snapshot.encodedSize (snapshot : Snapshot) : Nat :=
  16 + (snapshot.terminals.map TerminalState.encodedSize).sum

end Ckmux.Proto
