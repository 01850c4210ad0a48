import Mathlib
import Ckmux.Grid.Delta

/-!
# A live terminal, as the server reads it

The emulator belongs to the terminal library. What the server reads of one is its
scalars, its cells, its history and a report of what has changed since the report
was last cleared; how a program's output changes them is not modelled.
-/

namespace Ckmux

open Grammar (Bytes)

/-- Terminals are numbered on and on. -/
abbrev TerminalId := UInt64

/-- How a child wants the mouse reported. -/
inductive TerminalMouseEncoding where
  | none | x10 | sgr
deriving DecidableEq

/-- Where the cursor is, before it is put on the wire. -/
structure TerminalCursor where
  x : Int := 0
  y : Int := 0
  shape : UInt8 := 0
  visible : Bool := true
  blink : Bool := false
deriving DecidableEq

/-- The scalars of a terminal. -/
structure TerminalStatus where
  cells : Size := {}
  cursor : TerminalCursor := {}
  title : Bytes := []
  mouseReportingEnabled : Bool := false
  mouseEncoding : TerminalMouseEncoding := .none
  mouseTracking : UInt32 := 0
  bracketedPasteEnabled : Bool := false
  applicationCursorKeys : Bool := false
  focusReportingEnabled : Bool := false
  alternateBuffer : Bool := false
  alternateScrollEnabled : Bool := false
  keyboardFlags : UInt32 := 0
  printerControllerActive : Bool := false
  printerPendingBytes : Nat := 0
  clipboardSerial : UInt64 := 0
deriving DecidableEq

/-- What has changed since the report was last cleared. `any` is the library's own
answer to whether anything has. -/
structure TerminalDamage where
  any : Bool := false
  full : Bool := false
  rows : List RowDamage := []
  scrollbackPushed : Nat := 0
deriving DecidableEq

/-- What a terminal may complain about. -/
inductive TerminalDiagnosticKind where
  | limitExceeded | unsupportedSequence | malformedSequence | childExited
deriving DecidableEq

/-- One complaint. -/
structure TerminalDiagnostic where
  kind : TerminalDiagnosticKind
  message : Bytes
deriving DecidableEq

/-- A terminal as it stands. The history is flat, rows of the terminal's width. -/
structure TerminalSubsession where
  status : TerminalStatus := {}
  cells : List Cell := []
  scrollback : List Cell := []
  diagnostics : List TerminalDiagnostic := []
  damage : TerminalDamage := {}
  synchronizedOutputActive : Bool := false
deriving DecidableEq

/-- What changed has been dealt with. -/
def TerminalSubsession.clearDamage (source : TerminalSubsession) : TerminalSubsession :=
  { source with damage := {} }

/-! ### Reading a terminal -/

/-- The modes that are one bit each. -/
inductive ModeBit where
  | mouseReporting | mouseEncodingSgr | bracketedPaste | applicationCursorKeys | focusReporting
  | alternateBuffer | alternateScroll

/-- The bit of each mode. -/
def ModeBit.word : ModeBit → UInt32
  | .mouseReporting => (1 : UInt32) <<< 0
  | .mouseEncodingSgr => (1 : UInt32) <<< 1
  | .bracketedPaste => (1 : UInt32) <<< 2
  | .applicationCursorKeys => (1 : UInt32) <<< 3
  | .focusReporting => (1 : UInt32) <<< 4
  | .alternateBuffer => (1 : UInt32) <<< 5
  | .alternateScroll => (1 : UInt32) <<< 6

/-- Above the single modes stands how closely the mouse is followed. -/
def kMouseTrackingShift : UInt32 := 7
/-- Two bits hold it. -/
def kMouseTrackingMask : UInt32 := (0b11 : UInt32) <<< kMouseTrackingShift
/-- Above that stand the keyboard's enhancements. -/
def kKeyboardFlagsShift : UInt32 := 9
/-- There are five of them. -/
def kKeyboardFlagsMask : UInt32 := (0b11111 : UInt32) <<< kKeyboardFlagsShift

/-- The modes word a terminal's switches, tracking level and keyboard flags make. -/
def modesOf (status : TerminalStatus) : UInt32 :=
  let set (modes : UInt32) (bit : ModeBit) (on : Bool) := if on then modes ||| bit.word else modes
  let modes := set 0 .mouseReporting status.mouseReportingEnabled
  let modes := set modes .mouseEncodingSgr (status.mouseEncoding = .sgr)
  let modes := set modes .bracketedPaste status.bracketedPasteEnabled
  let modes := set modes .applicationCursorKeys status.applicationCursorKeys
  let modes := set modes .focusReporting status.focusReportingEnabled
  let modes := set modes .alternateBuffer status.alternateBuffer
  let modes := set modes .alternateScroll status.alternateScrollEnabled
  let modes := modes ||| (status.mouseTracking <<< kMouseTrackingShift &&& kMouseTrackingMask)
  modes ||| (status.keyboardFlags <<< kKeyboardFlagsShift &&& kKeyboardFlagsMask)

/-- The cursor as it is sent. -/
def cursorOf (status : TerminalStatus) : GridCursor where
  column := UInt16.ofNat status.cursor.x.toNat
  row := UInt16.ofNat status.cursor.y.toNat
  style := status.cursor.shape
  visible := if status.cursor.visible then 1 else 0
  blink := if status.cursor.blink then 1 else 0

/-- Where a text may be cut: at or before `cut`, and not inside a character. -/
def clampCut (text : Bytes) : Nat → Nat
  | 0 => 0
  | cut + 1 =>
      if text.getD (cut + 1) 0 &&& (0xC0 : UInt8) = 0x80 then clampCut text cut else cut + 1

/-- A text cut to a length the wire can say. -/
def clampUtf8 (text : Bytes) (limit : Nat) : Bytes :=
  if text.length ≤ limit then text else text.take (clampCut text limit)

/-- What the differ is shown of a terminal. -/
def viewOf (source : TerminalSubsession) : GridView where
  cells := source.status.cells
  grid := source.cells
  cursor := cursorOf source.status
  modes := modesOf source.status
  title := clampUtf8 source.status.title Proto.kMaxTitleBytes

/-- The damage report, in the algebra's own vocabulary. -/
def rowHints (damage : TerminalDamage) (height : Nat) : List RowDamage := damage.rows.take height

/-- The lines that last entered the history, as many as are still there. -/
def newestHistoryLines (source : TerminalSubsession) (columns count : Nat) : List (List Cell) :=
  if count = 0 then []
  else
    let width := max 1 columns
    let available := source.scrollback.length / width
    let taken := min count available
    (List.range' (available - taken) taken).map (Data.row width source.scrollback)

end Ckmux
