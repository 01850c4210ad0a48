import Mathlib
import Ckmux.Grid.Inverse

/-!
# The states that take a delta

Whether a delta is taken depends on what is shown, and so does what it shows in
the end: the server's belief, which keeps no history, and a client's mirror, which
does, stay alike. What a delta does to a history is resize it and push lines to
it; every other operation draws. A state that has as many cells as its size says
keeps to that.
-/

namespace Ckmux

open Data (splice Within)
open Proto (GridOp kMaxGridColumns kMaxGridRows totalLength fromRuns)

variable [CkVision]

/-! ### Alike in what they show -/

/-- An operation does the same to what is seen of states that look alike. -/
theorem performOp_view_congr {one other : GridState} (alike : one.view = other.view) (op : GridOp) :
    (performOp one op).view = (performOp other op).view := by
  have cells : one.cells = other.cells := congrArg GridView.cells alike
  have grid : one.grid = other.grid := congrArg GridView.grid alike
  have cursor : one.cursor = other.cursor := congrArg GridView.cursor alike
  have modes : one.modes = other.modes := congrArg GridView.modes alike
  have title : one.title = other.title := congrArg GridView.title alike
  cases op with
  | resize op =>
      rw [performOp, performOp]
      by_cases same : one.cells = ⟨op.columns.toNat, op.rows.toNat⟩
      · rw [resizeState_same same, resizeState_same (cells ▸ same), alike]
      · rw [resizeState_view same, resizeState_view (cells ▸ same), cursor, modes, title]
  | scrollbackPush op =>
      have still (state : GridState) : (performOp state (.scrollbackPush op)).view = state.view := by
        rw [performOp]
        split
        · rfl
        · exact foldl_pushScrollbackLine_view ..
      rw [still, still, alike]
  | scroll op => simp only [performOp, GridState.view, cells, grid, cursor, modes, title]
  | cells op => simp only [performOp, GridState.view, cells, grid, cursor, modes, title]
  | cursor op => simp only [performOp, GridState.view, cells, grid, modes, title]
  | modes op => simp only [performOp, GridState.view, cells, grid, cursor, modes, title]
  | title op => simp only [performOp, GridState.view, cells, grid, cursor, modes]

/-- Operations do the same to what is seen of states that look alike. -/
theorem foldl_performOp_view_congr {one other : GridState} (alike : one.view = other.view)
    (ops : List GridOp) : (ops.foldl performOp one).view = (ops.foldl performOp other).view := by
  induction ops generalizing one other with
  | nil => exact alike
  | cons op ops ih => exact ih (performOp_view_congr alike op)

/-- What a state takes, another that shows the same takes too, and shows the same
after it. -/
theorem applyDelta_congr {one other after : GridState} {ops : List GridOp}
    (alike : one.view = other.view) (taken : applyDelta ops one = some after) :
    applyDelta ops other = some (ops.foldl performOp other) ∧
      (ops.foldl performOp other).view = after.view := by
  have cells : one.cells = other.cells := congrArg GridView.cells alike
  have grid : one.grid = other.grid := congrArg GridView.grid alike
  rw [applyDelta] at taken ⊢
  rw [← cells, ← grid]
  split at taken
  · cases taken
  · rename_i sized
    split at taken
    · cases taken
    · rename_i checked
      cases taken
      rw [if_neg sized]
      exact ⟨rfl, (foldl_performOp_view_congr alike ops).symm⟩

/-! ### Drawing -/

/-- An operation that leaves the size and the history alone. -/
def Draws : GridOp → Prop
  | .resize _ => False
  | .scrollbackPush _ => False
  | _ => True

/-- An operation that only draws leaves the size and changes nothing that is not seen. -/
theorem performOp_draws {op : GridOp} (draws : Draws op) (state : GridState) :
    (performOp state op).cells = state.cells ∧
      performOp state op = state.showing (performOp state op).view := by
  cases op with
  | resize op => exact draws.elim
  | scrollbackPush op => exact draws.elim
  | _ => exact ⟨rfl, rfl⟩

/-- Operations that only draw leave the size and change nothing that is not seen. -/
theorem foldl_performOp_draws {ops : List GridOp} (draws : ∀ op ∈ ops, Draws op)
    (state : GridState) :
    (ops.foldl performOp state).cells = state.cells ∧
      ops.foldl performOp state = state.showing (ops.foldl performOp state).view := by
  induction ops generalizing state with
  | nil => exact ⟨rfl, rfl⟩
  | cons op ops ih =>
      have first := performOp_draws (draws op List.mem_cons_self) state
      have rest := ih (fun other listed => draws other (List.mem_cons_of_mem _ listed))
        (performOp state op)
      rw [List.foldl_cons]
      refine ⟨rest.1.trans first.1, rest.2.trans ?_⟩
      rw [first.2]
      rfl

/-! ### As many cells as the size says -/

/-- What an operation that passes its check leaves. -/
theorem performOp_checked {state : GridState} {op : GridOp} {size : Size}
    (sized : state.grid.length = state.cells.area) (checked : checkOp state.cells op = some size) :
    (performOp state op).cells = size ∧ (performOp state op).grid.length = size.area := by
  have rows : state.grid.length = state.cells.height * state.cells.width := by
    rw [sized, Size.area, Nat.mul_comm]
  cases op with
  | resize op =>
      rw [checkOp] at checked
      split at checked
      · cases checked
      · cases checked
        exact ⟨resizeState_cells .., resizeState_sized sized _⟩
  | scrollbackPush op =>
      rw [checkOp] at checked
      split at checked
      · cases checked
      · cases checked
        have still : (performOp state (.scrollbackPush op)).view = state.view := by
          rw [performOp]
          split
          · rfl
          · exact foldl_pushScrollbackLine_view ..
        exact ⟨congrArg GridView.cells still,
          (congrArg (fun view => view.grid.length) still).trans sized⟩
  | scroll op =>
      rw [checkOp] at checked
      split at checked
      · cases checked
      · rename_i within
        cases checked
        simp only [not_or, UInt16.lt_iff_toNat_lt, not_lt, gt_iff_lt] at within
        exact ⟨rfl, (shiftRows_within op.lines.toInt rows within.1 within.2.1).1.trans sized⟩
  | cells op =>
      rw [checkOp] at checked
      split at checked
      · cases checked
      · rename_i within
        cases checked
        refine ⟨rfl, (Data.length_splice ?_).trans sized⟩
        have room := @Data.row_end_le state.cells.width state.cells.height op.row.toNat (by omega)
        have short : (fromRuns op.runs).length ≤ totalLength op.runs := by
          rw [fromRuns]
          split
          · exact Nat.zero_le _
          · rw [Proto.length_expand]
        omega
  | cursor op =>
      rw [checkOp] at checked
      split at checked
      · cases checked
      · cases checked
        exact ⟨rfl, sized⟩
  | modes op =>
      cases checked
      exact ⟨rfl, sized⟩
  | title op =>
      cases checked
      exact ⟨rfl, sized⟩

/-- Operations that were checked lead to the size they were checked for. -/
theorem foldl_performOp_checked {state : GridState} {ops : List GridOp} {size : Size}
    (sized : state.grid.length = state.cells.area) (checked : checkOps state.cells ops = some size) :
    (ops.foldl performOp state).cells = size ∧
      (ops.foldl performOp state).grid.length = size.area := by
  induction ops generalizing state with
  | nil =>
      cases checked
      exact ⟨rfl, sized⟩
  | cons op ops ih =>
      rw [checkOps] at checked
      cases first : checkOp state.cells op with
      | none =>
          rw [first] at checked
          cases checked
      | some next =>
          rw [first] at checked
          have after := performOp_checked sized first
          exact ih (after.2.trans (by rw [after.1])) (after.1.symm ▸ checked)

/-- A delta that is taken leaves as many cells as the size it leaves says. -/
theorem applyDelta_sized {state after : GridState} {ops : List GridOp}
    (taken : applyDelta ops state = some after) : after.grid.length = after.cells.area := by
  rw [applyDelta] at taken
  split at taken
  · cases taken
  · rename_i sized
    split at taken
    · cases taken
    · rename_i checked
      cases taken
      have left := foldl_performOp_checked (not_not.mp sized) checked
      rw [left.1]
      exact left.2

end Ckmux
