import Mathlib
import Ckmux.Terminal.Subsession

/-!
# The mirror of a terminal

What a client holds of one terminal. A snapshot replaces the screen and the
history and starts the count of deltas again; a delta is taken only if it is the
next one and fits; and a delta that is not leaves the mirror asking for a snapshot.

The damage a mirror notes for its view, and the pixels of its pictures, are not
modelled.
-/

namespace Ckmux

open Grammar (Bytes)
open Proto (CellRun GridDelta PrintJobInfo TermMeta TermClosed fromRuns totalLength kMaxGridColumns
  kMaxGridRows)

/-- What a client knows of a terminal. -/
structure TerminalMirror where
  state : GridState := {}
  rasterWireIds : List UInt64 := []
  diagnostics : List TerminalDiagnostic := []
  sequence : UInt32 := 0
  gaps : Nat := 0
  clipboardSerial : UInt64 := 0
  clipboardText : Bytes := []
  printerState : Proto.PrinterState := .idle
  printerMode : Proto.PrinterMode := .ask
  printerScope : Proto.PrinterScope := .global
  printerBytes : UInt32 := 0
  printJobs : List PrintJobInfo := []
  needsSnapshot : Bool := false
  exited : Bool := false
  hold : Bool := false
  exitStatus : Option Int32 := none
  customTitle : Bytes := []
  bellMarked : Bool := false
  activityMarked : Bool := false
  bellSerial : UInt32 := 0
  activitySerial : UInt32 := 0

/-- A diagnostic's kind, back from the wire's enumeration. -/
def kindOf : Proto.DiagnosticKind → TerminalDiagnosticKind
  | .limitExceeded => .limitExceeded
  | .unsupportedSequence => .unsupportedSequence
  | .malformedSequence => .malformedSequence
  | .childExited => .childExited

/-- The bits of a terminal's flags. -/
def bellFlag : UInt8 := 1
/-- The flag that says a terminal has written something. -/
def activityFlag : UInt8 := 2

section

variable [CkVision]

/-- A snapshot's line, unless it is none or wider than the terminal. -/
def adoptLine (state : GridState) (line : List CellRun) : GridState :=
  if totalLength line = 0 ∨ totalLength line > state.cells.width then state
  else pushScrollbackLine state (fromRuns line)

/-- A line of history adopted is not seen. -/
theorem adoptLine_view (state : GridState) (line : List Proto.CellRun) :
    (adoptLine state line).view = state.view := by
  unfold adoptLine
  split
  · rfl
  · exact pushScrollbackLine_view ..

/-- Lines of history adopted are not seen. -/
theorem foldl_adoptLine_view (lines : List (List Proto.CellRun)) (state : GridState) :
    (lines.foldl adoptLine state).view = state.view := by
  induction lines generalizing state with
  | nil => rfl
  | cons line lines ih => rw [List.foldl_cons, ih, adoptLine_view]

/-- Everything the server said of a terminal, in place of what was held. -/
def TerminalMirror.adopt (mirror : TerminalMirror) (said : Proto.TerminalState) :
    Bool × TerminalMirror :=
  if said.columns.toNat > kMaxGridColumns ∨ said.rows.toNat > kMaxGridRows then
    (false, { mirror with needsSnapshot := true })
  else
    let cells : Size := ⟨said.columns.toNat, said.rows.toNat⟩
    let blank := blankState cells mirror.state.maxScrollbackLines
    let drawn := (decodeGrid said.grid cells blank).getD blank
    let filled := said.scrollback.foldl adoptLine drawn
    (true,
      { mirror with
        state := { filled with
          cursor := ⟨said.cursor.column, said.cursor.row, said.cursor.style, said.cursor.visible,
            said.cursor.blink⟩
          modes := said.modes
          title := said.title }
        customTitle := said.customTitle
        bellMarked := said.flags &&& bellFlag ≠ 0
        activityMarked := said.flags &&& activityFlag ≠ 0
        bellSerial := said.bellSerial
        activitySerial := said.activitySerial
        printerState := said.printerState
        printerMode := said.printerMode
        printerScope := said.printerScope
        printerBytes := said.printerBytes
        printJobs := said.printJobs
        -- The watermark never goes back, and no text comes with it.
        clipboardSerial := max mirror.clipboardSerial said.clipboardSerial
        clipboardText := []
        diagnostics :=
          if said.diagnostic = [] then [] else [⟨kindOf said.diagnosticKind, said.diagnostic⟩]
        exited := mirror.exited || said.exited ≠ 0
        hold := if said.exited ≠ 0 then said.hold ≠ 0 else mirror.hold
        exitStatus := if said.exited ≠ 0 then some said.exitStatus else mirror.exitStatus
        rasterWireIds := mirror.rasterWireIds.filter (· ∈ said.images)
        sequence := 0
        needsSnapshot := false })

/-- The next delta, if it is the next and fits. -/
def TerminalMirror.apply (mirror : TerminalMirror) (delta : GridDelta) : Bool × TerminalMirror :=
  if delta.seq ≠ mirror.sequence + 1 then
    (false, { mirror with gaps := mirror.gaps + 1, needsSnapshot := true })
  else
    match applyDelta delta.ops mirror.state with
    | none => (false, { mirror with needsSnapshot := true })
    | some state => (true, { mirror with state := state, sequence := delta.seq })

/-- A delta that is the next and fits is taken. -/
theorem TerminalMirror.apply_next {mirror : TerminalMirror} {delta : GridDelta} {after : GridState}
    (next : delta.seq = mirror.sequence + 1)
    (taken : applyDelta delta.ops mirror.state = some after) :
    mirror.apply delta = (true, { mirror with state := after, sequence := delta.seq }) := by
  rw [TerminalMirror.apply, if_neg (not_not.mpr next), taken]

end

/-- What a terminal's name and marks are now. -/
def TerminalMirror.applyMeta (mirror : TerminalMirror) (said : TermMeta) : TerminalMirror :=
  { mirror with
    state := { mirror.state with title := said.title }
    customTitle := said.customTitle
    bellMarked := said.flags &&& bellFlag ≠ 0
    activityMarked := said.flags &&& activityFlag ≠ 0
    bellSerial := said.bellSerial
    activitySerial := said.activitySerial }

/-- The mirror's history kept to another limit. -/
def TerminalMirror.setHistoryLimit (mirror : TerminalMirror) (lines : Nat) : TerminalMirror :=
  { mirror with state := Ckmux.setHistoryLimit mirror.state lines }

/-- A mirror of nothing yet, with the history its reader asked for. -/
def TerminalMirror.fresh (historyLimit : Nat) : TerminalMirror :=
  { state := { maxScrollbackLines := historyLimit } }

end Ckmux
