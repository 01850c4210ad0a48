import Mathlib
import Ckmux.Data.RowMajor
import Ckmux.Proto.Message

/-!
# The state of a screen

What a terminal shows and what has scrolled off it. The grid is one flat list,
row after row; the history is another, whose live part begins some lines in, so
that dropping old lines moves an offset and the dead part is reclaimed only once
it is as large as what is kept.
-/

namespace Ckmux

open Grammar (Bytes)
open Data (splice slice)

/-- Columns and rows. -/
structure Size where
  width : Nat := 0
  height : Nat := 0
deriving DecidableEq

/-- How many cells a grid of a size has. -/
def Size.area (size : Size) : Nat := size.width * size.height

/-- A cursor as a grid has it. -/
structure GridCursor where
  column : UInt16 := 0
  row : UInt16 := 0
  style : UInt8 := 0
  visible : UInt8 := 1
  blink : UInt8 := 0
deriving DecidableEq

/-- A terminal's screen, its history and its modes, as a mirror of it is kept. -/
structure GridState where
  cells : Size := {}
  grid : List Cell := []
  scrollback : List Cell := []
  scrollbackStart : Nat := 0
  maxScrollbackLines : Nat := 0
  cursor : GridCursor := {}
  modes : UInt32 := 0
  title : Bytes := []
deriving DecidableEq

/-- What is on a screen now, its history aside. -/
structure GridView where
  cells : Size := {}
  grid : List Cell := []
  cursor : GridCursor := {}
  modes : UInt32 := 0
  title : Bytes := []
deriving DecidableEq

/-- What is seen of a state: everything but the history. -/
def GridState.view (state : GridState) : GridView :=
  ⟨state.cells, state.grid, state.cursor, state.modes, state.title⟩

/-- A screen a terminal may have: as many cells as its size says, a size the
protocol carries, and a cursor inside it or just past the end of a row. -/
structure GridView.WellFormed (view : GridView) : Prop where
  sized : view.grid.length = view.cells.area
  columns_pos : 1 ≤ view.cells.width
  columns_le : view.cells.width ≤ Proto.kMaxGridColumns
  rows_pos : 1 ≤ view.cells.height
  rows_le : view.cells.height ≤ Proto.kMaxGridRows
  cursor_row : view.cursor.row.toNat < view.cells.height
  cursor_column : view.cursor.column.toNat ≤ view.cells.width

/-- There are as many cells as rows of the grid's width hold. -/
theorem GridView.WellFormed.sized_rows {view : GridView} (formed : view.WellFormed) :
    view.grid.length = view.cells.height * view.cells.width := by
  rw [formed.sized, Size.area, Nat.mul_comm]

section

variable [CkVision]

/-- A whole line of blanks. -/
def blankRow (width : Nat) : List Cell := List.replicate width blankCell

/-- A grid of blanks with no history. -/
def blankState (cells : Size) (maxScrollbackLines : Nat) : GridState :=
  { cells := cells
    grid := List.replicate cells.area blankCell
    maxScrollbackLines := maxScrollbackLines }

/-! ### History -/

omit [CkVision] in
/-- How wide a line of the history is: never less than one cell. -/
def scrollbackWidth (state : GridState) : Nat := max 1 state.cells.width

/-- How many lines are left in the storage once the dropped ones are taken off. -/
def scrollbackLines (state : GridState) : Nat :=
  state.scrollback.length / scrollbackWidth state - state.scrollbackStart

/-- The live part of the history. -/
def scrollbackCells (state : GridState) : List Cell :=
  let width := scrollbackWidth state
  (state.scrollback.drop (state.scrollbackStart * width)).take (scrollbackLines state * width)

/-- Lines beyond the limit are dropped, and thrown away once they are as many as the rest. -/
def enforceScrollbackCapacity (state : GridState) : GridState :=
  if state.maxScrollbackLines = 0 then { state with scrollback := [], scrollbackStart := 0 }
  else
    let live := scrollbackLines state
    let trimmed :=
      if live > state.maxScrollbackLines then
        { state with scrollbackStart := state.scrollbackStart + (live - state.maxScrollbackLines) }
      else state
    -- The dead part goes once it is as large as what is kept.
    if trimmed.scrollbackStart ≥ scrollbackLines trimmed ∧ trimmed.scrollbackStart > 0 then
      { trimmed with
        scrollback := trimmed.scrollback.drop (trimmed.scrollbackStart * scrollbackWidth trimmed)
        scrollbackStart := 0 }
    else trimmed

/-- The history kept to another limit. -/
def setHistoryLimit (state : GridState) (lines : Nat) : GridState :=
  enforceScrollbackCapacity { state with maxScrollbackLines := lines }

/-- A line padded or cut to a width. -/
def fitLine (width : Nat) (line : List Cell) : List Cell :=
  line.take width ++ List.replicate (width - line.length) blankCell

/-- A line goes behind the others, and one too many is dropped. -/
def pushScrollbackLine (state : GridState) (line : List Cell) : GridState :=
  if state.maxScrollbackLines = 0 then state
  else
    enforceScrollbackCapacity
      { state with scrollback := state.scrollback ++ fitLine (scrollbackWidth state) line }

/-! ### Size -/

/-- A cursor brought inside a size; one past the last column is inside. -/
def clampCursor (cells : Size) (cursor : GridCursor) : GridCursor :=
  let lastRow := cells.height - 1
  { cursor with
    column := if cursor.column.toNat > cells.width then UInt16.ofNat cells.width else cursor.column
    row := if cursor.row.toNat > lastRow then UInt16.ofNat lastRow else cursor.row }

/-- A blank grid of another size. The history keeps its lines, each fitted to the
new width. -/
def resizeState (state : GridState) (cells : Size) : GridState :=
  if state.cells = cells then state
  else
    let blank := { state with
      cells := cells
      grid := List.replicate cells.area blankCell
      cursor := clampCursor cells state.cursor }
    if state.cells.width = cells.width then enforceScrollbackCapacity blank
    else
      (Data.rows (scrollbackWidth state) (scrollbackCells state)).foldl pushScrollbackLine
        { blank with scrollback := [], scrollbackStart := 0 }

/-! ### Rows -/

/-- A region shift, the same for the end that predicts it and the end that
performs it: rows move by whole rows and what they leave is blank. -/
def shiftRows (grid : List Cell) (width top bottom : Nat) (lines : Int) : List Cell :=
  let height := bottom - top
  if height = 0 ∨ lines = 0 then grid
  else if lines.natAbs ≥ height then
    splice grid (top * width) (List.replicate (height * width) blankCell)
  else
    let count := lines.natAbs
    let gap := List.replicate (count * width) blankCell
    if lines > 0 then
      let moved :=
        splice grid (top * width) (slice grid ((top + count) * width) (bottom * width))
      splice moved ((bottom - count) * width) gap
    else
      let moved :=
        splice grid ((top + count) * width) (slice grid (top * width) ((bottom - count) * width))
      splice moved (top * width) gap

end

/-! ### The history is out of the way -/

section

variable [CkVision]

omit [CkVision] in
/-- The history is not seen. -/
@[simp] theorem enforceScrollbackCapacity_view (state : GridState) :
    (enforceScrollbackCapacity state).view = state.view := by
  unfold enforceScrollbackCapacity
  dsimp only
  split
  · rfl
  · split <;> split <;> rfl

/-- A line more in the history is not seen. -/
@[simp] theorem pushScrollbackLine_view (state : GridState) (line : List Cell) :
    (pushScrollbackLine state line).view = state.view := by
  unfold pushScrollbackLine
  split
  · rfl
  · rw [enforceScrollbackCapacity_view]
    rfl

/-- Lines more in the history are not seen. -/
theorem foldl_pushScrollbackLine_view (lines : List (List Cell)) (state : GridState) :
    (lines.foldl pushScrollbackLine state).view = state.view := by
  induction lines generalizing state with
  | nil => rfl
  | cons line lines ih => rw [List.foldl_cons, ih, pushScrollbackLine_view]

/-- Where no history is kept, nothing is pushed. -/
theorem foldl_pushScrollbackLine_forgetful {state : GridState} (none_kept : state.maxScrollbackLines = 0)
    (lines : List (List Cell)) : lines.foldl pushScrollbackLine state = state := by
  induction lines with
  | nil => rfl
  | cons line lines ih => rw [List.foldl_cons, pushScrollbackLine, if_pos none_kept, ih]

/-- The same size changes nothing. -/
theorem resizeState_same {state : GridState} {cells : Size} (same : state.cells = cells) :
    resizeState state cells = state := by
  rw [resizeState, if_pos same]

/-- After a resize the screen is blank, but for what the cursor, the modes and the
title keep. -/
theorem resizeState_view {state : GridState} {cells : Size} (changed : state.cells ≠ cells) :
    (resizeState state cells).view =
      { cells := cells
        grid := List.replicate cells.area blankCell
        cursor := clampCursor cells state.cursor
        modes := state.modes
        title := state.title } := by
  unfold resizeState
  rw [if_neg changed]
  dsimp only
  split
  · rw [enforceScrollbackCapacity_view]
    rfl
  · rw [foldl_pushScrollbackLine_view]
    rfl

/-- A resized state has the size. -/
@[simp] theorem resizeState_cells (state : GridState) (cells : Size) :
    (resizeState state cells).cells = cells := by
  by_cases same : state.cells = cells
  · rw [resizeState_same same, same]
  · exact congrArg GridView.cells (resizeState_view same)

/-- A resized grid has as many cells as its size asks for. -/
theorem resizeState_sized {state : GridState} (sized : state.grid.length = state.cells.area)
    (cells : Size) : (resizeState state cells).grid.length = cells.area := by
  by_cases same : state.cells = cells
  · rw [resizeState_same same, sized, same]
  · have blank := congrArg GridView.grid (resizeState_view same)
    change (resizeState state cells).grid = _ at blank
    rw [blank, List.length_replicate]

omit [CkVision] in
/-- A cursor inside a size is left alone. -/
theorem clampCursor_of_inside {cells : Size} {cursor : GridCursor}
    (row : cursor.row.toNat < cells.height) (column : cursor.column.toNat ≤ cells.width) :
    clampCursor cells cursor = cursor := by
  unfold clampCursor
  dsimp only
  rw [if_neg (by omega), if_neg (by omega)]

/-! ### A shift stays in its region -/

/-- A shift changes no row outside of its region. -/
theorem shiftRows_within {grid : List Cell} {width height top bottom : Nat} (lines : Int)
    (sized : grid.length = height * width) (ordered : top ≤ bottom) (inside : bottom ≤ height) :
    Data.Within (top * width) (bottom * width) grid (shiftRows grid width top bottom lines) := by
  have below : bottom * width ≤ grid.length := by
    rw [sized]
    exact Nat.mul_le_mul_right width inside
  have region : (bottom - top) * width = bottom * width - top * width := Nat.sub_mul ..
  have started : top * width ≤ bottom * width := Nat.mul_le_mul_right width ordered
  unfold shiftRows
  dsimp only
  split
  · exact .refl ..
  split
  · refine .splice (le_refl _) ?_ below
    rw [List.length_replicate, region]
    omega
  · rename_i some_rows few
    have count_le : lines.natAbs ≤ bottom - top := by omega
    have count := Nat.mul_le_mul_right width count_le
    have after_top : (top + lines.natAbs) * width = top * width + lines.natAbs * width :=
      Nat.add_mul ..
    have before_bottom : (bottom - lines.natAbs) * width =
        bottom * width - lines.natAbs * width := Nat.sub_mul ..
    split
    · have moved : Data.Within (top * width) (bottom * width) grid
          (splice grid (top * width)
            (slice grid ((top + lines.natAbs) * width) (bottom * width))) := by
        refine .splice (le_refl _) ?_ below
        rw [Data.length_slice (by omega) below]
        omega
      refine moved.trans (.splice (by omega) ?_ (by rw [moved.1]; exact below))
      rw [List.length_replicate]
      omega
    · have moved : Data.Within (top * width) (bottom * width) grid
          (splice grid ((top + lines.natAbs) * width)
            (slice grid (top * width) ((bottom - lines.natAbs) * width))) := by
        refine .splice (by omega) ?_ below
        rw [Data.length_slice (by omega) (by omega)]
        omega
      refine moved.trans (.splice (le_refl _) ?_ (by rw [moved.1]; exact below))
      rw [List.length_replicate]
      omega

end

end Ckmux
