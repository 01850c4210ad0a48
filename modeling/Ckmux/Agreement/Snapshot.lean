import Mathlib
import Ckmux.Client.Mirror
import Ckmux.Server.DiffEngineLaws

/-!
# Snapshots, sent and adopted

What a snapshot states of a screen is what a mirror that adopts it shows, over a
history made of the lines it carries.
-/

namespace Ckmux

open Proto (kMaxGridCells kMaxGridColumns kMaxGridRows toRuns fromRuns totalLength totalLength_toRuns
  fromRuns_toRuns)

/-- A snapshot that states a screen. -/
structure States (said : Proto.TerminalState) (view : GridView) : Prop where
  columns : said.columns = UInt16.ofNat view.cells.width
  rows : said.rows = UInt16.ofNat view.cells.height
  cursor : said.cursor = view.cursor.op
  modes : said.modes = view.modes
  title : said.title = view.title
  grid : said.grid = toRuns view.grid

/-- A snapshot states the view of its screen. -/
theorem snapshot_states (differ : TerminalDiffer) (id : UInt64) (source : TerminalSubsession) :
    States (differ.snapshot id source).1 (viewOf source) :=
  ⟨rfl, rfl, rfl, rfl, rfl, rfl⟩

/-- Filling in the history leaves the screen as it was stated. -/
theorem fillHistory_states {said : Proto.TerminalState} {view : GridView} (stated : States said view)
    (source : TerminalSubsession) (budget : Nat) : States (fillHistory said source budget).1 view :=
  ⟨stated.columns, stated.rows, stated.cursor, stated.modes, stated.title, stated.grid⟩

section

variable [CkVision]

/-- A screen with no history yet, of a reader who keeps so many lines. -/
def unwound (view : GridView) (historyLimit : Nat) : GridState :=
  { cells := view.cells, grid := view.grid, maxScrollbackLines := historyLimit }

/-- The mirror a stated screen becomes. -/
theorem adopt_states {mirror : TerminalMirror} {said : Proto.TerminalState} {view : GridView}
    (stated : States said view) (formed : view.WellFormed) :
    (mirror.adopt said).1 = true ∧
      (mirror.adopt said).2.state =
        (said.scrollback.foldl adoptLine
          (unwound view mirror.state.maxScrollbackLines)).showing view ∧
      (mirror.adopt said).2.sequence = 0 ∧ (mirror.adopt said).2.needsSnapshot = false ∧
      (mirror.adopt said).2.gaps = mirror.gaps := by
  have columns_le := formed.columns_le
  have rows_le := formed.rows_le
  have columns_limit : kMaxGridColumns = 1000 := rfl
  have rows_limit : kMaxGridRows = 1000 := rfl
  have columns : said.columns.toNat = view.cells.width := by
    rw [stated.columns]
    exact UInt16.toNat_ofNat_of_lt' (by change _ < 65536; omega)
  have rows : said.rows.toNat = view.cells.height := by
    rw [stated.rows]
    exact UInt16.toNat_ofNat_of_lt' (by change _ < 65536; omega)
  have area_le : view.grid.length ≤ kMaxGridCells := by
    rw [formed.sized]
    exact Nat.mul_le_mul columns_le rows_le
  have size : (⟨said.columns.toNat, said.rows.toNat⟩ : Size) = view.cells := by
    rw [columns, rows]
  have decoded : decodeGrid said.grid view.cells
      (blankState view.cells mirror.state.maxScrollbackLines) =
        some (unwound view mirror.state.maxScrollbackLines) := by
    rw [decodeGrid, if_neg (by omega), stated.grid, totalLength_toRuns, formed.sized,
      if_neg (not_not.mpr rfl), fromRuns_toRuns area_le]
    rfl
  have filled := foldl_adoptLine_view said.scrollback
    (unwound view mirror.state.maxScrollbackLines)
  have cells := congrArg GridView.cells filled
  have grid := congrArg GridView.grid filled
  unfold TerminalMirror.adopt
  rw [if_neg (by omega)]
  dsimp only
  rw [size, decoded, Option.getD_some]
  generalize said.scrollback.foldl adoptLine
    (unwound view mirror.state.maxScrollbackLines) = full at cells grid ⊢
  change full.cells = view.cells at cells
  change full.grid = view.grid at grid
  refine ⟨rfl, ?_, rfl, rfl, rfl⟩
  rw [GridState.showing, ← cells, ← grid, stated.cursor, stated.modes, stated.title]
  rfl

end

end Ckmux
