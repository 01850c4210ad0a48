import Mathlib
import Ckmux.Terminal.Cell

/-!
# The wire catalogue

Every message of the client and server protocol, with the fields it carries in
the order they are declared. Text and blobs are bytes; an enumeration is the
list of its declared values, with the byte each of them is written as.
-/

namespace Ckmux.Proto

open Grammar (Bytes)

/-! ### Limits -/

/-- The one version number there is; any change of the wire changes it. -/
def kProtocolVersion : UInt32 := 4
/-- A payload's length, its type and its flags. -/
def kHeaderBytes : Nat := 8
/-- The most a payload holds, but for chunks and snapshots. -/
def kMaxPayloadBytes : Nat := 1024 * 1024
/-- The most a chunk of an image or a print job holds. -/
def kMaxChunkPayloadBytes : Nat := 256 * 1024
/-- The most a decoder accepts of a snapshot. -/
def kMaxSnapshotPayloadBytes : Nat := 16 * 1024 * 1024
/-- What a sender holds a snapshot to, well under what a decoder accepts. -/
def kSnapshotPayloadBudget : Nat := 4 * 1024 * 1024
/-- The most a single text or blob may claim. -/
def kMaxStringBytes : Nat := 64 * 1024
/-- The most one cell's text holds. -/
def kMaxCellTextBytes : Nat := 15
/-- The most a window's title holds. -/
def kMaxTitleBytes : Nat := 4096
/-- The widest grid there may be. -/
def kMaxGridColumns : Nat := 1000
/-- The tallest grid there may be. -/
def kMaxGridRows : Nat := 1000
/-- The most cells that runs are spread out into. -/
def kMaxGridCells : Nat := kMaxGridColumns * kMaxGridRows

/-! ### Enumerations -/

/-- An enumeration is the list of its declared values, counted from zero. -/
class WireEnum (Enum : Type) [DecidableEq Enum] where
  values : List Enum
  distinct : values.Nodup
  complete : ∀ value, value ∈ values
  fits : values.length ≤ 256

namespace WireEnum

variable {Enum : Type} [DecidableEq Enum] [WireEnum Enum]

/-- The byte a declared value is written as. -/
def toWire (value : Enum) : UInt8 := UInt8.ofNat (values.idxOf value)

/-- The declared value a byte stands for, if there is one. -/
def ofWire (byte : UInt8) : Option Enum := values[byte.toNat]?

/-- A value's byte is its place in the list. -/
theorem toWire_toNat (value : Enum) : (toWire value).toNat = values.idxOf value := by
  have listed := List.idxOf_lt_length_of_mem (complete value)
  have short := @fits Enum _ _
  exact UInt8.toNat_ofNat_of_lt (show values.idxOf value < 2 ^ 8 by omega)

/-- A value's byte is less than there are values. -/
theorem toWire_toNat_lt (value : Enum) :
    (toWire value).toNat < (values : List Enum).length := by
  rw [toWire_toNat]
  exact List.idxOf_lt_length_of_mem (complete value)

/-- A value is read back from its byte. -/
theorem ofWire_toWire (value : Enum) : ofWire (toWire value) = some value := by
  have listed := List.idxOf_lt_length_of_mem (complete value)
  rw [ofWire, toWire_toNat, List.getElem?_eq_getElem listed, List.getElem_idxOf]

/-- A byte that stands for a value is the one it is written as. -/
theorem toWire_ofWire {byte : UInt8} {value : Enum} (declared : ofWire byte = some value) :
    toWire value = byte := by
  obtain ⟨inside, found⟩ := List.getElem?_eq_some_iff.mp declared
  apply UInt8.toNat_inj.mp
  rw [toWire_toNat, ← found, distinct.idxOf_getElem]

end WireEnum

/-- Which end a connection is: a reader's, or a command's that wants an answer. -/
inductive ClientKind where
  | ui | cli
deriving DecidableEq

instance : WireEnum ClientKind where
  values := [.ui, .cli]
  distinct := by decide
  complete := by rintro ⟨⟩ <;> decide
  fits := by decide

/-- Why a client was detached. -/
inductive DetachReason where
  | user | takeover | sessionKilled | serverShutdown
deriving DecidableEq

instance : WireEnum DetachReason where
  values := [.user, .takeover, .sessionKilled, .serverShutdown]
  distinct := by decide
  complete := by rintro ⟨⟩ <;> decide
  fits := by decide

/-- What a terminal's complaint is about. -/
inductive DiagnosticKind where
  | limitExceeded | unsupportedSequence | malformedSequence | childExited
deriving DecidableEq

instance : WireEnum DiagnosticKind where
  values := [.limitExceeded, .unsupportedSequence, .malformedSequence, .childExited]
  distinct := by decide
  complete := by rintro ⟨⟩ <;> decide
  fits := by decide

/-- How far a printer's policy reaches. -/
inductive PrinterScope where
  | terminal | session | global
deriving DecidableEq

instance : WireEnum PrinterScope where
  values := [.terminal, .session, .global]
  distinct := by decide
  complete := by rintro ⟨⟩ <;> decide
  fits := by decide

/-- What becomes of what a child prints. -/
inductive PrinterMode where
  | ask | capture | off
deriving DecidableEq

instance : WireEnum PrinterMode where
  values := [.ask, .capture, .off]
  distinct := by decide
  complete := by rintro ⟨⟩ <;> decide
  fits := by decide

/-- What a terminal's printer is at. -/
inductive PrinterState where
  | idle | capturing | sunk | full
deriving DecidableEq

instance : WireEnum PrinterState where
  values := [.idle, .capturing, .sunk, .full]
  distinct := by decide
  complete := by rintro ⟨⟩ <;> decide
  fits := by decide

/-- What had a print job begun. -/
inductive PrintJobKind where
  | screen | line | controller | autoprint
deriving DecidableEq

instance : WireEnum PrintJobKind where
  values := [.screen, .line, .controller, .autoprint]
  distinct := by decide
  complete := by rintro ⟨⟩ <;> decide
  fits := by decide

/-- Whether a terminal's processes could be measured. -/
inductive TermStatsState where
  | unsupported | available | incomplete | gone | failed
deriving DecidableEq

instance : WireEnum TermStatsState where
  values := [.unsupported, .available, .incomplete, .gone, .failed]
  distinct := by decide
  complete := by rintro ⟨⟩ <;> decide
  fits := by decide

/-- Which processes a measurement is over. -/
inductive TermStatsScope where
  | liveProcessTree | ownedJobLifetime
deriving DecidableEq

instance : WireEnum TermStatsScope where
  values := [.liveProcessTree, .ownedJobLifetime]
  distinct := by decide
  complete := by rintro ⟨⟩ <;> decide
  fits := by decide

/-- How memory was measured. -/
inductive TermStatsMemory where
  | platformCost | privateResident
deriving DecidableEq

instance : WireEnum TermStatsMemory where
  values := [.platformCost, .privateResident]
  distinct := by decide
  complete := by rintro ⟨⟩ <;> decide
  fits := by decide

/-! ### Message types -/

/-- What a message is, apart from what it carries. -/
inductive MessageType where
  | hello | helloAck | refuse | ping | pong | listSessions | newSession | attach | detach
  | clientResize | renameSession | killSession | killServer | sessionList | sessionsChanged
  | attached | detached | newTerminal | closeTerminal | killTerminal | respawnTerminal
  | moveTerminal | moveResize | raise | focusTerm | zoomTerm | renameTerminal | input
  | pasteChunk | pasteAck | setLayout | watchStats | setDesktopSize | setReaderMode
  | layoutDelta | termOpened | termClosed | termMeta | gridDelta | imageAddBegin | imageChunk
  | imageEnd | imagePlace | imageRemove | clipboardSet | termDiagnostic | termStats
  | readerMode | error | setPrinterPolicy | printState | printJobAdded | printJobFetch
  | printJobData | printJobDiscard
deriving DecidableEq

namespace MessageType

/-- The number a type is written as; its high byte says which half of the
system the message belongs to. -/
def toWire : MessageType → UInt16
  | .hello => 0x0001
  | .helloAck => 0x0002
  | .refuse => 0x0003
  | .ping => 0x0004
  | .pong => 0x0005
  | .listSessions => 0x0101
  | .newSession => 0x0102
  | .attach => 0x0103
  | .detach => 0x0104
  | .clientResize => 0x0105
  | .renameSession => 0x0106
  | .killSession => 0x0107
  | .killServer => 0x0108
  | .sessionList => 0x0109
  | .sessionsChanged => 0x010A
  | .attached => 0x010B
  | .detached => 0x010C
  | .newTerminal => 0x0201
  | .closeTerminal => 0x0202
  | .killTerminal => 0x0203
  | .respawnTerminal => 0x0204
  | .moveTerminal => 0x0205
  | .moveResize => 0x0206
  | .raise => 0x0207
  | .focusTerm => 0x0208
  | .zoomTerm => 0x0209
  | .renameTerminal => 0x020A
  | .input => 0x020B
  | .pasteChunk => 0x020C
  | .pasteAck => 0x020D
  | .setLayout => 0x020E
  | .watchStats => 0x020F
  | .setDesktopSize => 0x0210
  | .setReaderMode => 0x0211
  | .layoutDelta => 0x0301
  | .termOpened => 0x0302
  | .termClosed => 0x0303
  | .termMeta => 0x0304
  | .gridDelta => 0x0305
  | .imageAddBegin => 0x0306
  | .imageChunk => 0x0307
  | .imageEnd => 0x0308
  | .imagePlace => 0x0309
  | .imageRemove => 0x030A
  | .clipboardSet => 0x030B
  | .termDiagnostic => 0x030C
  | .termStats => 0x030D
  | .readerMode => 0x030E
  | .error => 0x0401
  | .setPrinterPolicy => 0x0402
  | .printState => 0x0403
  | .printJobAdded => 0x0404
  | .printJobFetch => 0x0405
  | .printJobData => 0x0406
  | .printJobDiscard => 0x0407

/-- Every type that is the type of some message, in the order of the catalogue. -/
def all : List MessageType := [
  .hello, .helloAck, .refuse, .ping, .pong, .listSessions, .newSession, .attach, .detach,
  .clientResize, .renameSession, .killSession, .killServer, .sessionList, .sessionsChanged,
  .attached, .detached, .newTerminal, .closeTerminal, .killTerminal, .respawnTerminal,
  .setDesktopSize, .setReaderMode, .readerMode, .moveTerminal, .moveResize, .raise, .focusTerm,
  .zoomTerm, .setLayout, .renameTerminal, .input, .pasteChunk, .pasteAck, .layoutDelta,
  .termOpened, .termClosed, .termMeta, .gridDelta, .imageAddBegin, .imageChunk, .imageEnd,
  .imagePlace, .imageRemove, .clipboardSet, .termDiagnostic, .error, .setPrinterPolicy,
  .printState, .printJobAdded, .printJobFetch, .printJobData, .printJobDiscard, .watchStats,
  .termStats]

/-- No type is missing from the catalogue. -/
theorem mem_all (type : MessageType) : type ∈ all := by
  cases type <;> decide

/-- No two types are written alike. -/
theorem toWire_injective : Function.Injective toWire := by
  intro first second same
  have distinct : ∀ first ∈ all, ∀ second ∈ all, toWire first = toWire second → first = second := by
    decide
  exact distinct first (mem_all first) second (mem_all second) same

/-- The type a number on the wire names, if any message has it. -/
def ofWire (value : UInt16) : Option MessageType := all.find? fun type => type.toWire = value

/-- A number names the type that is written as it, and no other. -/
theorem ofWire_eq_some {value : UInt16} {type : MessageType} :
    ofWire value = some type ↔ type.toWire = value := by
  constructor
  · intro found
    simpa using List.find?_some found
  · rintro rfl
    cases found : ofWire type.toWire with
    | none => exact absurd (List.find?_eq_none.mp found type (mem_all type)) (by simp)
    | some other =>
        rw [toWire_injective (by simpa using List.find?_some found : other.toWire = type.toWire)]

end MessageType

/-! ### Parts of messages -/

/-- A rectangle on the desktop or of an image, in cells. -/
structure Rect where
  x : Int16 := 0
  y : Int16 := 0
  width : UInt16 := 0
  height : UInt16 := 0
deriving DecidableEq

/-- One window's share of a filled tiling, in ten-thousandths. -/
structure TileFraction where
  x : UInt16 := 0
  y : UInt16 := 0
  width : UInt16 := 0
  height : UInt16 := 0
deriving DecidableEq

/-- One run of identical cells. -/
structure CellRun where
  runLength : UInt16 := 1
  cell : Cell
deriving DecidableEq

/-- A region shift; positive `lines` scroll up. -/
structure ScrollOp where
  top : UInt16 := 0
  bottom : UInt16 := 0
  lines : Int16 := 0
deriving DecidableEq

/-- Cells written into a row from a column on. -/
structure CellsOp where
  row : UInt16 := 0
  column : UInt16 := 0
  runs : List CellRun := []
deriving DecidableEq

/-- Where the cursor is and how it looks. -/
structure CursorOp where
  column : UInt16 := 0
  row : UInt16 := 0
  style : UInt8 := 0
  visible : UInt8 := 1
  blink : UInt8 := 0
deriving DecidableEq

/-- The child's modes: which of them changed, and all their values. -/
structure ModesOp where
  changedMask : UInt32 := 0
  values : UInt32 := 0
deriving DecidableEq

/-- What the child calls its window. -/
structure TitleOp where
  title : Bytes := []
deriving DecidableEq

/-- Lines that left the screen for the history, each in runs of its own. -/
structure ScrollbackPushOp where
  lines : List (List CellRun) := []
deriving DecidableEq

/-- The size of the grid the operations after it describe. -/
structure ResizeOp where
  columns : UInt16 := 0
  rows : UInt16 := 0
deriving DecidableEq

/-- One thing that happened to a terminal's screen. -/
inductive GridOp where
  | scroll (op : ScrollOp)
  | cells (op : CellsOp)
  | cursor (op : CursorOp)
  | modes (op : ModesOp)
  | title (op : TitleOp)
  | scrollbackPush (op : ScrollbackPushOp)
  | resize (op : ResizeOp)
deriving DecidableEq

/-- One held print job, as metadata only. -/
structure PrintJobInfo where
  job : UInt64 := 0
  kind : PrintJobKind := .screen
  bytes : UInt32 := 0
  lines : UInt32 := 0
  at_ : Int64 := 0

/-- Everything about one terminal that a client needs in order to draw it. -/
structure TerminalState where
  term : UInt64 := 0
  index : UInt16 := 0
  title : Bytes := []
  customTitle : Bytes := []
  flags : UInt8 := 0
  columns : UInt16 := 0
  rows : UInt16 := 0
  rect : Rect := {}
  zOrder : UInt16 := 0
  zoomed : UInt8 := 0
  tile : TileFraction := {}
  cursor : CursorOp := {}
  modes : UInt32 := 0
  grid : List CellRun := []
  scrollback : List (List CellRun) := []
  images : List UInt64 := []
  printerMode : PrinterMode := .ask
  printerScope : PrinterScope := .global
  printerState : PrinterState := .idle
  printerBytes : UInt32 := 0
  printJobs : List PrintJobInfo := []
  clipboardSerial : UInt64 := 0
  exited : UInt8 := 0
  exitStatus : Int32 := 0
  hold : UInt8 := 0
  diagnosticKind : DiagnosticKind := .malformedSequence
  diagnostic : Bytes := []
  bellSerial : UInt32 := 0
  activitySerial : UInt32 := 0

/-- Everything a client that attaches is told of a session. -/
structure Snapshot where
  desktopColumns : UInt16 := 0
  desktopRows : UInt16 := 0
  focusedTerm : UInt64 := 0
  terminals : List TerminalState := []

/-- One session as it is listed. -/
structure SessionInfo where
  id : UInt64 := 0
  name : Bytes := []
  terminals : UInt16 := 0
  attached : UInt8 := 0
  created : Int64 := 0
  lastAttached : Int64 := 0

/-- One window's place in a session's arrangement. -/
structure LayoutEntry where
  term : UInt64 := 0
  rect : Rect := {}
  zOrder : UInt16 := 0
  zoomed : UInt8 := 0
  tile : TileFraction := {}
deriving DecidableEq

/-! ### Messages -/

/-- A message with no payload at all. -/
structure Empty (type : MessageType) where

/-- A terminal's id on its own. -/
structure TerminalRef (type : MessageType) where
  term : UInt64 := 0

/-- An image id on its own: what ends a chunked transfer. -/
structure ImageRef (type : MessageType) where
  id : UInt64 := 0

/-- A number on its own, to be sent back. -/
structure Nonce (type : MessageType) where
  nonce : UInt64 := 0

/-- What a client begins with. -/
structure Hello where
  protoVersion : UInt32 := kProtocolVersion
  build : Bytes := []
  clientKind : ClientKind := .ui

/-- What the server answers if the versions agree. -/
structure HelloAck where
  protoVersion : UInt32 := kProtocolVersion
  build : Bytes := []

/-- Why the server will not talk to a client. -/
structure Refuse where
  reason : Bytes := []

/-- A session asked for, its first terminal with it if so wished. -/
structure NewSession where
  name : Bytes := []
  spawnFirst : UInt8 := 1
  command : Bytes := []

/-- A client asks to see a session, on a screen of some size and in a mode. -/
structure Attach where
  session : UInt64 := 0
  columns : UInt16 := 0
  rows : UInt16 := 0
  pixelWidth : UInt16 := 0
  pixelHeight : UInt16 := 0
  mode : UInt8 := 0
  hostSixel : UInt8 := 0

/-- A client's own screen has another size. -/
structure ClientResize where
  columns : UInt16 := 0
  rows : UInt16 := 0
  pixelWidth : UInt16 := 0
  pixelHeight : UInt16 := 0

/-- A terminal asked for. A session of nought is the one attached to, and a rectangle of no size
leaves the place to the server. -/
structure NewTerminal where
  session : UInt64 := 0
  command : Bytes := []
  rect : Rect := {}
  hostSixel : UInt8 := 0

/-- A terminal is to go to another session, or to one of its own. -/
structure MoveTerminal where
  term : UInt64 := 0
  destinationSession : UInt64 := 0
  toNewSession : UInt8 := 0

/-- A terminal's program is to end, and how long to wait before it is made to. -/
structure CloseTerminal where
  term : UInt64 := 0
  force : UInt8 := 1
  graceSeconds : UInt16 := 5

/-- The rectangle a terminal is to have. -/
structure MoveResize where
  term : UInt64 := 0
  rect : Rect := {}

/-- Whether a window is to cover everything else. -/
structure ZoomTerm where
  term : UInt64 := 0
  on : UInt8 := 0

/-- Where all of a client's windows are now. -/
structure SetLayout where
  entries : List LayoutEntry := []

/-- Whether this connection wants to be told of the processes. -/
structure WatchStats where
  on : UInt8 := 0

/-- The name a session is to have. -/
structure RenameSession where
  id : UInt64 := 0
  name : Bytes := []

/-- The name a reader gives a terminal. -/
structure RenameTerminal where
  id : UInt64 := 0
  name : Bytes := []

/-- A session's programs are to end, and how long to wait before they are made to. -/
structure KillSession where
  session : UInt64 := 0
  force : UInt8 := 1
  graceSeconds : UInt16 := 5

/-- What a reader typed, in the bytes the child reads. -/
structure Input where
  term : UInt64 := 0
  bytes : Bytes := []

/-- Part of a paste to a terminal. -/
structure PasteChunk where
  term : UInt64 := 0
  seq : UInt32 := 0
  finalChunk : UInt8 := 0
  bytes : Bytes := []

/-- One chunk of a paste has been dealt with. -/
structure PasteAck where
  seq : UInt32 := 0

/-- A reader asks for another size of the desktop itself. -/
structure SetDesktopSize where
  columns : UInt16 := 0
  rows : UInt16 := 0

/-- A reader asks for another mode, for itself or for the others. -/
structure SetReaderMode where
  scope : UInt8 := 0
  mode : UInt8 := 1

/-- A reader is told that its mode was changed. -/
structure ReaderMode where
  mode : UInt8 := 1

/-- All the sessions there are. -/
structure SessionList where
  sessions : List SessionInfo := []

/-- A client is shown a session. -/
structure Attached where
  session : UInt64 := 0
  snapshot : Snapshot := {}

/-- A client no longer sees a session, and why. -/
structure Detached where
  reason : DetachReason := .user
  text : Bytes := []

/-- Where a session's windows are now, and how large its desktop is. -/
structure LayoutDelta where
  session : UInt64 := 0
  entries : List LayoutEntry := []
  focusedTerm : UInt64 := 0
  desktopColumns : UInt16 := 0
  desktopRows : UInt16 := 0

/-- A terminal has come. -/
structure TermOpened where
  term : UInt64 := 0
  session : UInt64 := 0
  index : UInt16 := 0
  rect : Rect := {}
  title : Bytes := []
  columns : UInt16 := 0
  rows : UInt16 := 0

/-- A terminal's child has ended, and whether its window stays. -/
structure TermClosed where
  term : UInt64 := 0
  exited : UInt8 := 0
  exitStatus : Int32 := 0
  hold : UInt8 := 0

/-- What is said of a terminal beside its screen. -/
structure TermMeta where
  term : UInt64 := 0
  index : UInt16 := 0
  title : Bytes := []
  customTitle : Bytes := []
  flags : UInt8 := 0
  bellSerial : UInt32 := 0
  activitySerial : UInt32 := 0

/-- What happened to a terminal's screen since the delta before. -/
structure GridDelta where
  term : UInt64 := 0
  seq : UInt32 := 0
  ops : List GridOp := []

/-- An image is about to come in chunks. -/
structure ImageAddBegin where
  id : UInt64 := 0
  width : UInt16 := 0
  height : UInt16 := 0

/-- Part of an image's pixels. -/
structure ImageChunk where
  id : UInt64 := 0
  seq : UInt32 := 0
  bytes : Bytes := []

/-- Where an image stands on a terminal's screen. -/
structure ImagePlace where
  term : UInt64 := 0
  id : UInt64 := 0
  cells : Rect := {}
  pixelOffsetX : Int16 := 0
  pixelOffsetY : Int16 := 0

/-- An image is on a terminal's screen no more. -/
structure ImageRemove where
  term : UInt64 := 0
  id : UInt64 := 0

/-- A child has put text on the clipboard. -/
structure ClipboardSet where
  term : UInt64 := 0
  text : Bytes := []

/-- A terminal's newest complaint. -/
structure TermDiagnostic where
  term : UInt64 := 0
  kind : DiagnosticKind := .malformedSequence
  text : Bytes := []

/-- What a terminal's processes use. -/
structure TermStats where
  term : UInt64 := 0
  cpuPermille : UInt32 := 0
  rssBytes : UInt64 := 0
  realBytes : UInt64 := 0
  flags : UInt8 := 0
  state : TermStatsState := .gone
  cpuScope : TermStatsScope := .liveProcessTree
  realKind : TermStatsMemory := .platformCost
  liveProcesses : UInt32 := 0
  unreadableProcesses : UInt32 := 0
  systemError : UInt32 := 0

/-- Something asked for could not be done. -/
structure Error where
  code : UInt16 := 0
  context : Bytes := []
  human : Bytes := []

/-- What is to become of what is printed, of a terminal, a session or everywhere. -/
structure SetPrinterPolicy where
  scope : PrinterScope := .terminal
  target : UInt64 := 0
  mode : PrinterMode := .ask
  askCache : UInt32 := 0
  spoolLimit : UInt32 := 0

/-- What a terminal's printer is at, and how much it holds. -/
structure PrintState where
  term : UInt64 := 0
  mode : PrinterMode := .ask
  state : PrinterState := .idle
  bytes : UInt32 := 0
  jobs : UInt16 := 0

/-- A print job is held now. -/
structure PrintJobAdded where
  term : UInt64 := 0
  job : PrintJobInfo := {}

/-- A reader asks for a print job. -/
structure PrintJobFetch where
  term : UInt64 := 0
  job : UInt64 := 0

/-- Part of a print job. -/
structure PrintJobData where
  term : UInt64 := 0
  job : UInt64 := 0
  seq : UInt32 := 0
  finalChunk : UInt8 := 0
  bytes : Bytes := []

/-- A reader has no more use for a print job. -/
structure PrintJobDiscard where
  term : UInt64 := 0
  job : UInt64 := 0

/-- A client asks which sessions there are. -/
abbrev ListSessions := Empty .listSessions
/-- A client is done with its session. -/
abbrev Detach := Empty .detach
/-- A client asks the server to end. -/
abbrev KillServer := Empty .killServer
/-- The list of sessions has changed. -/
abbrev SessionsChanged := Empty .sessionsChanged
/-- A terminal's program is to be ended at once. -/
abbrev KillTerminal := TerminalRef .killTerminal
/-- A terminal is to have a new child. -/
abbrev RespawnTerminal := TerminalRef .respawnTerminal
/-- A window is to be on top. -/
abbrev Raise := TerminalRef .raise
/-- A window is to have what is typed. -/
abbrev FocusTerm := TerminalRef .focusTerm
/-- An image has come whole. -/
abbrev ImageEnd := ImageRef .imageEnd
/-- Asks to be answered. -/
abbrev Ping := Nonce .ping
/-- Answers with the same number. -/
abbrev Pong := Nonce .pong

/-- Every message there is. -/
inductive Message where
  | hello (message : Hello)
  | helloAck (message : HelloAck)
  | refuse (message : Refuse)
  | ping (message : Ping)
  | pong (message : Pong)
  | listSessions (message : ListSessions)
  | newSession (message : NewSession)
  | attach (message : Attach)
  | detach (message : Detach)
  | clientResize (message : ClientResize)
  | renameSession (message : RenameSession)
  | killSession (message : KillSession)
  | killServer (message : KillServer)
  | sessionList (message : SessionList)
  | sessionsChanged (message : SessionsChanged)
  | attached (message : Attached)
  | detached (message : Detached)
  | newTerminal (message : NewTerminal)
  | closeTerminal (message : CloseTerminal)
  | killTerminal (message : KillTerminal)
  | respawnTerminal (message : RespawnTerminal)
  | setDesktopSize (message : SetDesktopSize)
  | setReaderMode (message : SetReaderMode)
  | readerMode (message : ReaderMode)
  | moveTerminal (message : MoveTerminal)
  | moveResize (message : MoveResize)
  | raise (message : Raise)
  | focusTerm (message : FocusTerm)
  | zoomTerm (message : ZoomTerm)
  | setLayout (message : SetLayout)
  | renameTerminal (message : RenameTerminal)
  | input (message : Input)
  | pasteChunk (message : PasteChunk)
  | pasteAck (message : PasteAck)
  | layoutDelta (message : LayoutDelta)
  | termOpened (message : TermOpened)
  | termClosed (message : TermClosed)
  | termMeta (message : TermMeta)
  | gridDelta (message : GridDelta)
  | imageAddBegin (message : ImageAddBegin)
  | imageChunk (message : ImageChunk)
  | imageEnd (message : ImageEnd)
  | imagePlace (message : ImagePlace)
  | imageRemove (message : ImageRemove)
  | clipboardSet (message : ClipboardSet)
  | termDiagnostic (message : TermDiagnostic)
  | error (message : Error)
  | setPrinterPolicy (message : SetPrinterPolicy)
  | printState (message : PrintState)
  | printJobAdded (message : PrintJobAdded)
  | printJobFetch (message : PrintJobFetch)
  | printJobData (message : PrintJobData)
  | printJobDiscard (message : PrintJobDiscard)
  | watchStats (message : WatchStats)
  | termStats (message : TermStats)

/-- The type each message is sent under. -/
def typeOf : Message → MessageType
  | .hello _ => .hello
  | .helloAck _ => .helloAck
  | .refuse _ => .refuse
  | .ping _ => .ping
  | .pong _ => .pong
  | .listSessions _ => .listSessions
  | .newSession _ => .newSession
  | .attach _ => .attach
  | .detach _ => .detach
  | .clientResize _ => .clientResize
  | .renameSession _ => .renameSession
  | .killSession _ => .killSession
  | .killServer _ => .killServer
  | .sessionList _ => .sessionList
  | .sessionsChanged _ => .sessionsChanged
  | .attached _ => .attached
  | .detached _ => .detached
  | .newTerminal _ => .newTerminal
  | .closeTerminal _ => .closeTerminal
  | .killTerminal _ => .killTerminal
  | .respawnTerminal _ => .respawnTerminal
  | .setDesktopSize _ => .setDesktopSize
  | .setReaderMode _ => .setReaderMode
  | .readerMode _ => .readerMode
  | .moveTerminal _ => .moveTerminal
  | .moveResize _ => .moveResize
  | .raise _ => .raise
  | .focusTerm _ => .focusTerm
  | .zoomTerm _ => .zoomTerm
  | .setLayout _ => .setLayout
  | .renameTerminal _ => .renameTerminal
  | .input _ => .input
  | .pasteChunk _ => .pasteChunk
  | .pasteAck _ => .pasteAck
  | .layoutDelta _ => .layoutDelta
  | .termOpened _ => .termOpened
  | .termClosed _ => .termClosed
  | .termMeta _ => .termMeta
  | .gridDelta _ => .gridDelta
  | .imageAddBegin _ => .imageAddBegin
  | .imageChunk _ => .imageChunk
  | .imageEnd _ => .imageEnd
  | .imagePlace _ => .imagePlace
  | .imageRemove _ => .imageRemove
  | .clipboardSet _ => .clipboardSet
  | .termDiagnostic _ => .termDiagnostic
  | .error _ => .error
  | .setPrinterPolicy _ => .setPrinterPolicy
  | .printState _ => .printState
  | .printJobAdded _ => .printJobAdded
  | .printJobFetch _ => .printJobFetch
  | .printJobData _ => .printJobData
  | .printJobDiscard _ => .printJobDiscard
  | .watchStats _ => .watchStats
  | .termStats _ => .termStats

end Ckmux.Proto
