import Mathlib
import Ckmux.Grid.Delta
import Ckmux.Proto.Runs

/-!
# Grids as runs

A grid travels as runs of identical cells. There is one list of runs that a grid is written as:
no run is empty, and two of the same cell only follow each other where the first has no room for
one more. Whoever reads it knows the size of the grid, and takes no runs that come to another.
-/

namespace Ckmux

open Proto (CellRun expand expand_toRuns fromRuns fromRuns_toRuns kMaxGridCells kMaxGridColumns
  kMaxGridRows length_expand sameCell sameCell_iff toRuns toRunsFrom totalLength totalLength_toRuns)

/-! ### The runs that cells are written as -/

/-- No run is empty, and one that another of its cell follows is full. -/
structure Canonical (runs : List CellRun) : Prop where
  filled : ∀ run ∈ runs, 1 ≤ run.runLength.toNat ∧ run.runLength.toNat ≤ 65535
  full : runs.IsChain fun run next => run.cell = next.cell → run.runLength = 0xFFFF

/-- The first run is of the cell that was begun with. -/
theorem toRunsFrom_head (last : CellRun) (cells : List Cell) :
    ∃ run rest, toRunsFrom last cells = run :: rest ∧ run.cell = last.cell := by
  induction cells generalizing last with
  | nil => exact ⟨last, [], rfl, rfl⟩
  | cons cell cells ih =>
      rw [toRunsFrom]
      split
      · exact ih { last with runLength := last.runLength + 1 }
      · exact ⟨last, _, rfl, rfl⟩

/-- A run that has room grows by one. -/
theorem runLength_succ {length : UInt16} (room : length < 0xFFFF) :
    (length + 1).toNat = length.toNat + 1 := by
  have bound := UInt16.lt_iff_toNat_lt.mp room
  have limit : UInt16.toNat 0xFFFF = 65535 := rfl
  have one : UInt16.toNat 1 = 1 := rfl
  rw [UInt16.toNat_add]
  omega

/-- Cells behind a run that is begun are put in no more runs than they need. -/
theorem toRunsFrom_canonical {last : CellRun} (begun : 1 ≤ last.runLength.toNat)
    (cells : List Cell) : Canonical (toRunsFrom last cells) := by
  induction cells generalizing last with
  | nil =>
      have small := last.runLength.toNat_lt
      constructor
      case filled =>
        intro run listed
        obtain rfl := List.mem_singleton.mp listed
        exact ⟨begun, by omega⟩
      case full => exact List.isChain_singleton last
  | cons cell cells ih =>
      rw [toRunsFrom]
      split
      · rename_i grows
        exact ih (by rw [runLength_succ grows.1]; omega)
      · rename_i stops
        obtain ⟨run, rest, made, same⟩ := toRunsFrom_head ⟨1, cell⟩ cells
        have later : Canonical (toRunsFrom ⟨1, cell⟩ cells) := ih (le_refl 1)
        have small := last.runLength.toNat_lt
        constructor
        case filled =>
          intro run listed
          rcases List.mem_cons.mp listed with rfl | listed
          · exact ⟨begun, by omega⟩
          · exact later.filled run listed
        case full =>
          rw [made] at later ⊢
          refine List.isChain_cons_cons.mpr ⟨fun equal => ?_, later.full⟩
          have full : ¬last.runLength < 0xFFFF := fun room =>
            stops ⟨room, sameCell_iff.mpr (equal.trans same)⟩
          rw [UInt16.lt_iff_toNat_lt] at full
          have limit : UInt16.toNat 0xFFFF = 65535 := rfl
          exact UInt16.toNat_inj.mp (by omega)

/-- Cells are put in no more runs than they need. -/
theorem toRuns_canonical (cells : List Cell) : Canonical (toRuns cells) := by
  cases cells with
  | nil => exact ⟨(fun _ listed => by cases listed), .nil⟩
  | cons cell cells => exact toRunsFrom_canonical (le_refl 1) cells

/-! ### Grids -/

/-- A grid read into a state that is there: whether it was, and the state then. -/
def decodeGridInto (runs : List CellRun) (width height : Int) (state : GridState) :
    Bool × GridState :=
  if width < 0 ∨ height < 0 then (false, state)
  else if width > kMaxGridColumns ∨ height > kMaxGridRows then (false, state)
  else
    let expected := (max 0 width).toNat * (max 0 height).toNat
    if totalLength runs ≠ expected then (false, state)
    else (true, { state with cells := ⟨width.toNat, height.toNat⟩, grid := fromRuns runs })

/-- A grid of its state's size, and of a size that the protocol carries. -/
structure GridState.Carried (state : GridState) : Prop where
  sized : state.grid.length = state.cells.area
  columns : state.cells.width ≤ kMaxGridColumns
  rows : state.cells.height ≤ kMaxGridRows

/-- A grid that can be carried has no more cells than runs may be of. -/
theorem GridState.Carried.few {state : GridState} (carried : state.Carried) :
    state.grid.length ≤ kMaxGridCells :=
  carried.sized ▸ Nat.mul_le_mul carried.columns carried.rows

/-- Where the size is no less than nothing, the state is the one that was read, or the old one. -/
theorem decodeGridInto_eq (runs : List CellRun) (cells : Size) (state : GridState) :
    decodeGridInto runs cells.width cells.height state =
      ((decodeGrid runs cells state).isSome, (decodeGrid runs cells state).getD state) := by
  have width_eq : (max 0 (cells.width : Int)).toNat = cells.width := by omega
  have height_eq : (max 0 (cells.height : Int)).toNat = cells.height := by omega
  rw [decodeGridInto, decodeGrid, if_neg (by omega)]
  simp only [gt_iff_lt, Nat.cast_lt, width_eq, height_eq, Int.toNat_natCast, Size.area]
  split
  · rfl
  · by_cases same : totalLength runs = cells.width * cells.height
    · simp [same]
    · simp [same]

/-- A grid that can be carried is taken from a snapshot as it was put in. -/
theorem decodeGridInto_encodeGrid {source : GridState} (carried : source.Carried)
    (target : GridState) :
    decodeGridInto (encodeGrid source) source.cells.width source.cells.height target =
      (true, { target with cells := source.cells, grid := source.grid }) := by
  have taken : decodeGrid (encodeGrid source) source.cells target =
      some { target with cells := source.cells, grid := source.grid } := by
    rw [decodeGrid, encodeGrid, totalLength_toRuns, fromRuns_toRuns carried.few,
      if_neg (not_or.mpr ⟨not_lt.mpr carried.columns, not_lt.mpr carried.rows⟩),
      if_neg (not_not.mpr carried.sized)]
  rw [decodeGridInto_eq, taken]
  rfl

/-- Runs that come to another number of cells are not taken, and change nothing. -/
theorem decodeGridInto_refuses {runs : List CellRun} {width height : Int}
    (other : (totalLength runs : Int) ≠ width * height) (target : GridState) :
    decodeGridInto runs width height target = (false, target) := by
  rw [decodeGridInto]
  split
  · rfl
  · rename_i positive
    split
    · rfl
    · dsimp only
      rw [if_pos]
      intro same
      apply other
      rw [max_eq_right (by omega), max_eq_right (by omega)] at same
      rw [same, Nat.cast_mul, Int.toNat_of_nonneg (by omega), Int.toNat_of_nonneg (by omega)]

/-- Runs are a canonical form of the cells they were made from, and of the grids: a grid comes back
from its runs, and from runs that come to another number of cells none does. -/
theorem runs_canonical :
    (∀ cells : List Cell, cells.length ≤ kMaxGridCells → fromRuns (toRuns cells) = cells) ∧
      (∀ cells : List Cell, Canonical (toRuns cells)) ∧
      (∀ source target : GridState, source.Carried →
        decodeGridInto (encodeGrid source) source.cells.width source.cells.height target =
          (true, { target with cells := source.cells, grid := source.grid })) ∧
      ∀ (runs : List CellRun) (width height : Int) (target : GridState),
        (totalLength runs : Int) ≠ width * height →
          decodeGridInto runs width height target = (false, target) :=
  ⟨fun _ few => fromRuns_toRuns few, toRuns_canonical,
    fun _ target carried => decodeGridInto_encodeGrid carried target,
    fun _ _ _ target other => decodeGridInto_refuses other target⟩

end Ckmux
