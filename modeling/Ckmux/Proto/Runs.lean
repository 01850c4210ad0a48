import Mathlib
import Ckmux.Proto.Message

/-!
# Runs of identical cells

`toRuns` extends the last run while a cell is the same and the run's length has
room for one more; `fromRuns` repeats each cell, unless there would be more of
them than a grid may hold. `expand` is what the runs stand for.
-/

namespace Ckmux.Proto

open Grammar (Bytes)

/-- A cell equals another when it would draw the same. -/
def sameCell (a b : Cell) : Bool := a.grapheme = b.grapheme ∧ a.width = b.width ∧ a.style = b.style

/-- Cells that are compared equal are. -/
theorem sameCell_iff {a b : Cell} : sameCell a b = true ↔ a = b := by
  rw [sameCell, decide_eq_true_iff]
  constructor
  · rintro ⟨grapheme, width, style⟩
    cases a
    cases b
    simp_all
  · rintro rfl
    exact ⟨rfl, rfl, rfl⟩

/-- The runs of some cells behind a run that may still grow. -/
def toRunsFrom (last : CellRun) : List Cell → List CellRun
  | [] => [last]
  | cell :: cells =>
      if last.runLength < 0xFFFF ∧ sameCell last.cell cell then
        toRunsFrom { last with runLength := last.runLength + 1 } cells
      else last :: toRunsFrom ⟨1, cell⟩ cells

/-- Cells in runs of the same. -/
def toRuns : List Cell → List CellRun
  | [] => []
  | cell :: cells => toRunsFrom ⟨1, cell⟩ cells

/-- How many cells some runs are of. -/
def totalLength (runs : List CellRun) : Nat := (runs.map fun run => run.runLength.toNat).sum

/-- The cells some runs stand for. -/
def expand (runs : List CellRun) : List Cell :=
  runs.flatMap fun run => List.replicate run.runLength.toNat run.cell

/-- Runs that are of more cells than a grid may have stand for none. -/
def fromRuns (runs : List CellRun) : List Cell :=
  if totalLength runs > kMaxGridCells then [] else expand runs

/-- Runs are spread out into as many cells as they say. -/
theorem length_expand (runs : List CellRun) : (expand runs).length = totalLength runs := by
  simp [expand, totalLength, List.length_flatMap]

/-- A run that is begun and cells behind it come out as they went in. -/
theorem expand_toRunsFrom (last : CellRun) (cells : List Cell) :
    expand (toRunsFrom last cells) = List.replicate last.runLength.toNat last.cell ++ cells := by
  induction cells generalizing last with
  | nil => simp [toRunsFrom, expand]
  | cons cell cells ih =>
      rw [toRunsFrom]
      split
      · rename_i grows
        obtain ⟨room, same⟩ := grows
        have more : (last.runLength + 1).toNat = last.runLength.toNat + 1 := by
          have bound := UInt16.lt_iff_toNat_lt.mp room
          rw [UInt16.toNat_add]
          have limit : UInt16.toNat 0xFFFF = 65535 := rfl
          have one : UInt16.toNat 1 = 1 := rfl
          omega
        rw [ih, more, List.replicate_succ', sameCell_iff.mp same]
        simp
      · have first : expand (last :: toRunsFrom ⟨1, cell⟩ cells) =
            List.replicate last.runLength.toNat last.cell ++ expand (toRunsFrom ⟨1, cell⟩ cells) := by
          simp [expand]
        rw [first, ih]
        simp

/-- Runs stand for the cells they were made from. -/
theorem expand_toRuns (cells : List Cell) : expand (toRuns cells) = cells := by
  cases cells with
  | nil => rfl
  | cons cell cells =>
      rw [toRuns, expand_toRunsFrom]
      rfl

/-- The runs of some cells are of as many. -/
theorem totalLength_toRuns (cells : List Cell) : totalLength (toRuns cells) = cells.length := by
  rw [← length_expand, expand_toRuns]

/-- Cells a grid may hold come back from their runs. -/
theorem fromRuns_toRuns {cells : List Cell} (fits : cells.length ≤ kMaxGridCells) :
    fromRuns (toRuns cells) = cells := by
  rw [fromRuns, totalLength_toRuns, if_neg (by omega), expand_toRuns]

end Ckmux.Proto
