import Mathlib
import Ckmux.Grid.Inverse
import Ckmux.Terminal.Subsession

/-!
# The diff engine

One `TerminalDiffer` for a terminal holds what its readers are believed to hold
and how many deltas have been sent since the last snapshot. A tick reads the
terminal's damage and says what to send; clearing the damage is the engine's,
after everything that reads it has. A flood of history is not sent line by line:
the screen goes, and one snapshot puts the history back when it calms down.

Of the pictures only the wire ids are kept, which a snapshot names.
-/

namespace Ckmux

open Grammar (Bytes)
open Proto (CellRun GridDelta GridOp encodedRuns toRuns)

/-- The most history one delta may carry. -/
def kMaxHistoryLinesPerDelta : Nat := 256

/-- What the readers of a terminal are believed to have. -/
structure TerminalDiffer where
  believed : GridState := {}
  believedRasters : List UInt64 := []
  sequence : UInt32 := 0
  needsSnapshot : Bool := false
  historyDiverged : Bool := false
deriving DecidableEq

/-- A belief: a screen, and no history. -/
def stateOf (view : GridView) : GridState := GridState.showing {} view

/-- A diagnostic's kind, in the wire's own enumeration. -/
def wireKind : TerminalDiagnosticKind → Proto.DiagnosticKind
  | .limitExceeded => .limitExceeded
  | .unsupportedSequence => .unsupportedSequence
  | .malformedSequence => .malformedSequence
  | .childExited => .childExited

section

variable [CkVision]

/-! ### A tick -/

/-- What is said of a screen, and the belief that leaves. The belief is advanced by
applying what is sent; a repaint is sent where that cannot be. -/
def sayScreen (believed : GridState) (source : TerminalSubsession) (pushed : List (List Cell)) :
    List GridOp × GridState :=
  let view := viewOf source
  if believed.cells ≠ source.status.cells then (fullRepaint view pushed, stateOf view)
  else
    let hints :=
      if source.damage.full then [] else rowHints source.damage source.status.cells.height
    let ops := diff believed view pushed hints
    match applyDelta ops believed with
    | some advanced => (ops, advanced)
    | none => (fullRepaint view pushed, stateOf view)

/-- Whether more lines came than one delta carries. -/
def TerminalSubsession.flooded (source : TerminalSubsession) : Bool :=
  source.damage.scrollbackPushed > kMaxHistoryLinesPerDelta

/-- The delta of a tick, if there is anything to say. -/
def TerminalDiffer.flush (differ : TerminalDiffer) (id : UInt64) (source : TerminalSubsession) :
    Option GridDelta × TerminalDiffer :=
  if ¬source.damage.any then (none, differ)
  else if ¬source.flooded ∧ differ.historyDiverged then
    -- One snapshot puts the history back once the flood has calmed down.
    (none, { differ with needsSnapshot := true })
  else
    let pushed :=
      if source.flooded then []
      else newestHistoryLines source source.status.cells.width source.damage.scrollbackPushed
    let said := sayScreen differ.believed source pushed
    let told := { differ with
      believed := said.2
      historyDiverged := differ.historyDiverged || source.flooded }
    if said.1.isEmpty then (none, told)
    else
      (some ⟨id, differ.sequence + 1, said.1⟩, { told with sequence := differ.sequence + 1 })

/-- A tick of one terminal: nothing while its program holds the frame, and otherwise
a delta and a cleared report. -/
def tickTerminal (differ : TerminalDiffer) (id : UInt64) (source : TerminalSubsession) :
    Option GridDelta × TerminalDiffer × TerminalSubsession :=
  if source.synchronizedOutputActive then (none, differ, source)
  else
    let flushed := differ.flush id source
    (flushed.1, flushed.2, source.clearDamage)

end

/-! ### A snapshot -/

/-- Everything a client that attaches is told of a terminal, its history aside; and
the count of deltas starts again. -/
def TerminalDiffer.snapshot (differ : TerminalDiffer) (id : UInt64) (source : TerminalSubsession) :
    Proto.TerminalState × TerminalDiffer :=
  let view := viewOf source
  let complaint := source.diagnostics.getLast?
  ({ term := id
     title := view.title
     columns := UInt16.ofNat source.status.cells.width
     rows := UInt16.ofNat source.status.cells.height
     cursor := view.cursor.op
     modes := view.modes
     grid := toRuns view.grid
     printerState := if source.status.printerControllerActive then .capturing else .idle
     printerBytes := UInt32.ofNat (min source.status.printerPendingBytes 0xFFFFFFFF)
     clipboardSerial := source.status.clipboardSerial
     diagnosticKind := (complaint.map fun said => wireKind said.kind).getD .malformedSequence
     diagnostic :=
      (complaint.map fun said => clampUtf8 said.message Proto.kMaxTitleBytes).getD []
     images := differ.believedRasters },
   { differ with
     believed := stateOf view
     sequence := 0
     needsSnapshot := false
     historyDiverged := false })

/-- The lines, from the newest on, that fit a budget, and what they cost. -/
def linesWithin (budget : Nat) : Nat → List (List CellRun) → List (List CellRun) × Nat
  | spent, [] => ([], spent)
  | spent, runs :: older =>
      if spent + encodedRuns runs > budget then ([], spent)
      else
        let rest := linesWithin budget (spent + encodedRuns runs) older
        (runs :: rest.1, rest.2)

/-- The newest lines of a history, put into a snapshot oldest first. -/
def fillHistory (state : Proto.TerminalState) (source : TerminalSubsession) (budget : Nat) :
    Proto.TerminalState × Nat :=
  let width := max 1 state.columns.toNat
  let lines := source.scrollback.length / width
  let newestFirst :=
    (List.range lines).reverse.map fun index => toRuns (Data.row width source.scrollback index)
  let kept := linesWithin budget 0 newestFirst
  ({ state with scrollback := kept.1.reverse }, kept.2)

end Ckmux
