import Mathlib
import Ckmux.Grid.Followers
import Ckmux.Grid.History

/-!
# A screen that can be drawn

A view reads a mirror by its size and its cursor without looking again. So a mirror has a
size the protocol carries, as many cells as that says, a cursor among them or at the end
of a row, and no more history than it keeps. A delta that is taken leaves it so.
-/

namespace Ckmux

open Proto (GridOp kMaxGridColumns kMaxGridRows fromRuns totalLength)

/-- A cursor on a screen or at the end of one of its rows. Where there are no rows it is in
the first. -/
def GridCursor.Inside (cursor : GridCursor) (cells : Size) : Prop :=
  (cursor.row.toNat < cells.height ∨ cells.height = 0 ∧ cursor.row = 0) ∧
    cursor.column.toNat ≤ cells.width

/-- A size the protocol carries. -/
def Size.Within (size : Size) : Prop :=
  size.width ≤ kMaxGridColumns ∧ size.height ≤ kMaxGridRows

instance (cursor : GridCursor) (cells : Size) : Decidable (cursor.Inside cells) :=
  inferInstanceAs (Decidable (_ ∧ _))

instance (size : Size) : Decidable size.Within := inferInstanceAs (Decidable (_ ∧ _))

/-- A screen that can be drawn, its history aside. -/
structure GridView.Framed (view : GridView) : Prop where
  within : view.cells.Within
  sized : view.grid.length = view.cells.area
  cursor : view.cursor.Inside view.cells

/-- A screen that can be drawn, with the history it may keep. -/
structure GridState.Formed (state : GridState) : Prop where
  framed : state.view.Framed
  few : scrollbackLines state ≤ state.maxScrollbackLines

/-- A history in order is no longer than it may be. -/
theorem GridState.Kept.few_lines {state : GridState} (kept : state.Kept) :
    scrollbackLines state ≤ state.maxScrollbackLines := by
  obtain ⟨count, whole, _⟩ := kept.whole
  have lines : scrollbackLines state = count - state.scrollbackStart := by
    rw [scrollbackLines, whole, Nat.mul_div_cancel _ (scrollbackWidth_pos state)]
  rw [lines, ← length_historyLines whole]
  exact kept.few

/-- A cursor that is clamped is inside a grid that has a row. -/
theorem clampCursor_inside {cells : Size} (within : cells.Within) (rows : 1 ≤ cells.height)
    (cursor : GridCursor) : (clampCursor cells cursor).Inside cells := by
  obtain ⟨columns_le, rows_le⟩ := within
  have columns_limit : kMaxGridColumns = 1000 := rfl
  have rows_limit : kMaxGridRows = 1000 := rfl
  have fits : ∀ count, count ≤ 1000 → (UInt16.ofNat count).toNat = count := fun count few =>
    UInt16.toNat_ofNat_of_lt' (by change _ < 65536; omega)
  refine ⟨.inl ?_, ?_⟩
  · unfold clampCursor
    dsimp only
    split
    · rw [fits _ (by omega)]
      omega
    · omega
  · unfold clampCursor
    dsimp only
    split
    · rw [fits _ (by omega)]
    · omega

section

variable [CkVision]

/-- An operation that passes its check leaves the cursor on the screen. -/
theorem performOp_inside {state : GridState} {op : GridOp} {size : Size}
    (inside : state.cursor.Inside state.cells) (checked : checkOp state.cells op = some size) :
    (performOp state op).cursor.Inside (performOp state op).cells := by
  cases op with
  | resize op =>
      by_cases same : state.cells = ⟨op.columns.toNat, op.rows.toNat⟩
      · have still : performOp state (.resize op) = state := resizeState_same same
        rw [still]
        exact inside
      · rw [checkOp] at checked
        split at checked
        · cases checked
        · rename_i bounded
          simp only [not_or, not_lt, gt_iff_lt] at bounded
          have rows : 1 ≤ op.rows.toNat := by
            have positive : op.rows.toNat ≠ 0 := fun none => bounded.2.1 (UInt16.toNat_inj.mp none)
            omega
          have within : Size.Within ⟨op.columns.toNat, op.rows.toNat⟩ :=
            ⟨bounded.2.2.1, bounded.2.2.2⟩
          have view : (performOp state (.resize op)).view = _ := resizeState_view same
          have cursor := congrArg GridView.cursor view
          have cells := congrArg GridView.cells view
          change (performOp state (.resize op)).cursor = _ at cursor
          change (performOp state (.resize op)).cells = _ at cells
          rw [cursor, cells]
          exact clampCursor_inside within rows _
  | scrollbackPush op =>
      have still : (performOp state (.scrollbackPush op)).view = state.view := by
        rw [performOp]
        split
        · rfl
        · exact foldl_pushScrollbackLine_view ..
      have cursor : (performOp state (.scrollbackPush op)).cursor = state.cursor :=
        congrArg GridView.cursor still
      have cells : (performOp state (.scrollbackPush op)).cells = state.cells :=
        congrArg GridView.cells still
      rw [cursor, cells]
      exact inside
  | cursor op =>
      rw [checkOp] at checked
      split at checked
      · cases checked
      · rename_i placed
        simp only [not_or, not_le, not_lt, ge_iff_le, gt_iff_lt] at placed
        exact ⟨.inl placed.1, placed.2⟩
  | scroll op => exact inside
  | cells op => exact inside
  | modes op => exact inside
  | title op => exact inside

omit [CkVision] in
/-- A size that passes its check is one the protocol carries. -/
theorem checkOp_within {cells size : Size} {op : GridOp} (within : cells.Within)
    (checked : checkOp cells op = some size) : size.Within := by
  cases op with
  | resize op =>
      rw [checkOp] at checked
      split at checked
      · cases checked
      · rename_i bounded
        cases checked
        simp only [not_or, not_lt, gt_iff_lt] at bounded
        exact ⟨bounded.2.2.1, bounded.2.2.2⟩
  | modes op =>
      cases checked
      exact within
  | title op =>
      cases checked
      exact within
  | _ =>
      rw [checkOp] at checked
      split at checked
      · cases checked
      · cases checked
        exact within

/-- What an operation that passes its check leaves can be drawn. -/
theorem performOp_framed {state : GridState} {op : GridOp} {size : Size}
    (framed : state.view.Framed) (checked : checkOp state.cells op = some size) :
    (performOp state op).view.Framed := by
  have sized := performOp_checked framed.sized checked
  have area : (performOp state op).grid.length = (performOp state op).cells.area := by
    rw [sized.1]
    exact sized.2
  have within : (performOp state op).cells.Within := by
    rw [sized.1]
    exact checkOp_within framed.within checked
  exact ⟨within, area, performOp_inside framed.cursor checked⟩

/-- No operation puts a history out of order, or gives it another length. -/
theorem performOp_kept {state : GridState} (kept : state.Kept) (op : GridOp) :
    (performOp state op).Kept := by
  cases op with
  | resize op => exact (resizeState_kept kept _).1
  | scrollbackPush op =>
      rw [performOp]
      split
      · exact kept
      · exact (foldl_pushScrollbackLine_kept kept _).1
  | scroll op => exact (@GridState.Kept.congr _ (performOp state (.scroll op)) kept rfl rfl rfl rfl).1
  | cells op => exact (@GridState.Kept.congr _ (performOp state (.cells op)) kept rfl rfl rfl rfl).1
  | cursor op => exact (@GridState.Kept.congr _ (performOp state (.cursor op)) kept rfl rfl rfl rfl).1
  | modes op => exact (@GridState.Kept.congr _ (performOp state (.modes op)) kept rfl rfl rfl rfl).1
  | title op => exact (@GridState.Kept.congr _ (performOp state (.title op)) kept rfl rfl rfl rfl).1

/-- Operations keep what a history must be. -/
theorem foldl_performOp_kept {state : GridState} (kept : state.Kept) (ops : List GridOp) :
    (ops.foldl performOp state).Kept := by
  induction ops generalizing state with
  | nil => exact kept
  | cons op ops ih => exact ih (performOp_kept kept op)

/-- Operations that were checked leave size, cells and cursor as they must be. -/
theorem foldl_performOp_framed {state : GridState} {ops : List GridOp} {size : Size}
    (framed : state.view.Framed) (checked : checkOps state.cells ops = some size) :
    (ops.foldl performOp state).view.Framed := by
  induction ops generalizing state with
  | nil => exact framed
  | cons op ops ih =>
      rw [checkOps] at checked
      cases first : checkOp state.cells op with
      | none =>
          rw [first] at checked
          cases checked
      | some next =>
          rw [first] at checked
          have left := performOp_checked framed.sized first
          exact ih (performOp_framed framed first) (left.1.symm ▸ checked)

/-- A delta that is taken leaves a screen that can be drawn. -/
theorem applyDelta_formed {state after : GridState} {ops : List GridOp} (framed : state.view.Framed)
    (taken : applyDelta ops state = some after) : after.view.Framed := by
  rw [applyDelta] at taken
  split at taken
  · cases taken
  · split at taken
    · cases taken
    · rename_i checked
      cases taken
      exact foldl_performOp_framed framed checked

/-- A delta that is taken keeps what a history must be. -/
theorem applyDelta_kept {state after : GridState} {ops : List GridOp} (kept : state.Kept)
    (taken : applyDelta ops state = some after) : after.Kept := by
  rw [applyDelta] at taken
  split at taken
  · cases taken
  · split at taken
    · cases taken
    · cases taken
      exact foldl_performOp_kept kept ops

end

end Ckmux
