import Mathlib
import Ckmux.Grid.Formed

/-!
# A delta performed in place

`applyDelta` says what a delta leaves. The program changes the mirror where it lies: it
moves rows and copies cells by offsets into one buffer, at a width it keeps by hand. Here
each of these accesses says which entries it may touch, and none is the answer where it
would touch another: a scroll its own rows, cells their own row.
-/

namespace Ckmux

open Data (splice slice readWithin writeWithin)
open Proto (GridOp fromRuns totalLength)

section

variable [CkVision]

/-- A region shift that touches the region's rows only. -/
def shiftRowsWithin (grid : List Cell) (width top bottom : Nat) (lines : Int) :
    Option (List Cell) :=
  let height := bottom - top
  let first := top * width
  let last := bottom * width
  if height = 0 ∨ lines = 0 then some grid
  else if lines.natAbs ≥ height then
    writeWithin first last grid first (List.replicate (height * width) blankCell)
  else
    let count := lines.natAbs
    let gap := List.replicate (count * width) blankCell
    if lines > 0 then do
      let moved ← writeWithin first last grid first
        (← readWithin first last grid ((top + count) * width) last)
      writeWithin first last moved ((bottom - count) * width) gap
    else do
      let moved ← writeWithin first last grid ((top + count) * width)
        (← readWithin first last grid first ((bottom - count) * width))
      writeWithin first last moved first gap

/-- The operations of a delta, one after another, on a mirror of a width. -/
def performFrom (width : Nat) (mirror : GridState) : List GridOp → Option GridState
  | [] => some mirror
  | .resize op :: ops =>
      let resized := resizeState mirror ⟨op.columns.toNat, op.rows.toNat⟩
      -- The operations after this one count by the new width.
      performFrom resized.cells.width resized ops
  | .scrollbackPush op :: ops =>
      if mirror.maxScrollbackLines = 0 then performFrom width mirror ops
      else performFrom width ((op.lines.map fromRuns).foldl pushScrollbackLine mirror) ops
  | .scroll op :: ops => do
      let grid ← shiftRowsWithin mirror.grid width op.top.toNat op.bottom.toNat op.lines.toInt
      performFrom width { mirror with grid := grid } ops
  | .cells op :: ops => do
      let first := op.row.toNat * width
      let grid ← writeWithin first (first + width) mirror.grid (first + op.column.toNat)
        (fromRuns op.runs)
      performFrom width { mirror with grid := grid } ops
  | .cursor op :: ops =>
      performFrom width
        { mirror with cursor := ⟨op.column, op.row, op.style, op.visible, op.blink⟩ } ops
  | .modes op :: ops =>
      performFrom width
        { mirror with
          modes := (mirror.modes &&& ~~~op.changedMask) ||| (op.values &&& op.changedMask) } ops
  | .title op :: ops => performFrom width { mirror with title := op.title } ops

/-- A delta checked whole and then performed in place. There is no answer where an access
went astray. -/
def applyDeltaIn (ops : List GridOp) : StateT GridState Option Bool := do
  let mirror ← get
  if mirror.grid.length ≠ mirror.cells.area then return false
  if (checkOps mirror.cells ops).isNone then return false
  set (← performFrom mirror.cells.width mirror ops)
  return true

/-! ### No access goes astray -/

/-- Every access of a shift within the grid is inside it, and the checks change nothing. -/
theorem shiftRowsWithin_eq {grid : List Cell} {width height top bottom : Nat} (lines : Int)
    (sized : grid.length = height * width) (ordered : top ≤ bottom) (inside : bottom ≤ height) :
    shiftRowsWithin grid width top bottom lines = some (shiftRows grid width top bottom lines) := by
  have below : bottom * width ≤ grid.length := by
    rw [sized]
    exact Nat.mul_le_mul_right width inside
  have region : (bottom - top) * width = bottom * width - top * width := Nat.sub_mul ..
  have started : top * width ≤ bottom * width := Nat.mul_le_mul_right width ordered
  unfold shiftRowsWithin shiftRows
  dsimp only
  split
  · rfl
  split
  · refine Data.writeWithin_eq (le_refl _) ?_ below
    rw [List.length_replicate, region]
    omega
  · rename_i some_rows few
    have count_le : lines.natAbs ≤ bottom - top := by omega
    have count := Nat.mul_le_mul_right width count_le
    have after_top : (top + lines.natAbs) * width = top * width + lines.natAbs * width :=
      Nat.add_mul ..
    have before_bottom : (bottom - lines.natAbs) * width =
        bottom * width - lines.natAbs * width := Nat.sub_mul ..
    have gap : (List.replicate (lines.natAbs * width) blankCell).length = lines.natAbs * width :=
      List.length_replicate ..
    split
    · have band := @Data.length_slice _ grid ((top + lines.natAbs) * width) (bottom * width)
        (by omega) below
      have moved := @Data.length_splice _ grid
        (slice grid ((top + lines.natAbs) * width) (bottom * width)) (top * width) (by omega)
      rw [Data.readWithin_eq (by omega) (by omega) (le_refl _) below, Option.bind_eq_bind,
        Option.bind_some, Data.writeWithin_eq (le_refl _) (by omega) below, Option.bind_some, Data.writeWithin_eq (by omega) (by omega) (by omega)]
    · have band := @Data.length_slice _ grid (top * width) ((bottom - lines.natAbs) * width)
        (by omega) (by omega)
      have moved := @Data.length_splice _ grid
        (slice grid (top * width) ((bottom - lines.natAbs) * width))
        ((top + lines.natAbs) * width) (by omega)
      rw [Data.readWithin_eq (le_refl _) (by omega) (by omega) below, Option.bind_eq_bind,
        Option.bind_some, Data.writeWithin_eq (by omega) (by omega) below, Option.bind_some, Data.writeWithin_eq (le_refl _) (by omega) (by omega)]

/-- Checked operations are performed without straying. The induction carries the size each
operation meets, which is the one it was checked against. -/
theorem performFrom_eq {mirror : GridState} {ops : List GridOp} {size : Size}
    (sized : mirror.grid.length = mirror.cells.area)
    (checked : checkOps mirror.cells ops = some size) :
    performFrom mirror.cells.width mirror ops = some (ops.foldl performOp mirror) := by
  induction ops generalizing mirror with
  | nil => rfl
  | cons op ops ih =>
      rw [checkOps] at checked
      cases first : checkOp mirror.cells op with
      | none =>
          rw [first] at checked
          cases checked
      | some next =>
          rw [first] at checked
          obtain ⟨met, area⟩ := performOp_checked sized first
          have rest : performFrom (performOp mirror op).cells.width (performOp mirror op) ops =
              some (ops.foldl performOp (performOp mirror op)) :=
            ih (area.trans (met ▸ rfl)) (met.symm ▸ checked)
          have rows : mirror.grid.length = mirror.cells.height * mirror.cells.width := by
            rw [sized, Size.area, Nat.mul_comm]
          rw [List.foldl_cons, ← rest]
          cases op with
          | resize op => rfl
          | scrollbackPush op =>
              have still : (performOp mirror (.scrollbackPush op)).view = mirror.view := by
                rw [performOp]
                split
                · rfl
                · exact foldl_pushScrollbackLine_view ..
              have width : (performOp mirror (.scrollbackPush op)).cells.width =
                  mirror.cells.width := congrArg (fun view => view.cells.width) still
              rw [width, performFrom, performOp]
              split <;> rfl
          | scroll op =>
              rw [checkOp] at first
              split at first
              · cases first
              · rename_i within
                simp only [not_or, UInt16.lt_iff_toNat_lt, not_lt, gt_iff_lt] at within
                rw [performFrom, shiftRowsWithin_eq _ rows within.1 within.2.1]
                rfl
          | cells op =>
              rw [checkOp] at first
              split at first
              · cases first
              · rename_i within
                have room := @Data.row_end_le mirror.cells.width mirror.cells.height
                  op.row.toNat (by omega)
                have short : (fromRuns op.runs).length ≤ totalLength op.runs := by
                  rw [fromRuns]
                  split
                  · exact Nat.zero_le _
                  · rw [Proto.length_expand]
                rw [performFrom, Data.writeWithin_eq (by omega) (by omega) (by omega)]
                rfl
          | cursor op => rfl
          | modes op => rfl
          | title op => rfl

/-- In place or not, a delta is taken and leaves the same. -/
theorem applyDeltaIn_run (ops : List GridOp) (mirror : GridState) :
    (applyDeltaIn ops).run mirror =
      match applyDelta ops mirror with
      | some after => some (true, after)
      | none => some (false, mirror) := by
  rw [applyDelta]
  by_cases sized : mirror.grid.length = mirror.cells.area
  · rw [if_neg (not_not.mpr sized)]
    cases checked : checkOps mirror.cells ops with
    | none =>
        simp [applyDeltaIn, sized, checked]
    | some size =>
        simp [applyDeltaIn, sized, checked, performFrom_eq sized checked]
  · rw [if_pos sized]
    simp [applyDeltaIn, sized]

end

/-! ### What stays true of a mirror -/

/-- A mirror in order: as many cells as its size says, a cursor on the screen, and a history
of whole lines, no more of them than it keeps. -/
structure GridState.Represented (state : GridState) : Prop where
  sized : state.grid.length = state.cells.area
  inside : state.cursor.Inside state.cells
  kept : state.Kept

/-- What an operation says of one of the mode bits, if it names it. -/
def statesMode (bit : Nat) : GridOp → Option Bool
  | .modes op => if op.changedMask.toNat.testBit bit then some (op.values.toNat.testBit bit) else none
  | _ => none

/-- What the last of some operations to name a mode bit says of it. -/
def statedMode (ops : List GridOp) (bit : Nat) : Option Bool := (ops.filterMap (statesMode bit)).getLast?

/-- Of several operations the last that states a mode is the one that counts. -/
theorem statedMode_cons (op : GridOp) (ops : List GridOp) (bit : Nat) :
    statedMode (op :: ops) bit = (statedMode ops bit).or (statesMode bit op) := by
  rw [statedMode, statedMode, List.filterMap_cons]
  cases statesMode bit op with
  | none => exact (Option.or_none ..).symm
  | some stated =>
      rw [List.getLast?_cons]
      cases (ops.filterMap (statesMode bit)).getLast? <;> rfl

/-- A masked assignment changes the bits the mask names. -/
theorem testBit_masked (held values mask : UInt32) (bit : Nat) :
    ((held &&& ~~~mask) ||| (values &&& mask)).toNat.testBit bit =
      if mask.toNat.testBit bit then values.toNat.testBit bit else held.toNat.testBit bit := by
  have small := held.toNat_lt
  have low : held.toNat.testBit bit = (decide (bit < 32) && held.toNat.testBit bit) := by
    by_cases within : bit < 32
    · simp [within]
    · have large : held.toNat < 2 ^ bit := small.trans_le (Nat.pow_le_pow_right (by omega) (by omega))
      rw [Nat.testBit_lt_two_pow large, Bool.and_false]
  have flipped : (~~~mask).toNat.testBit bit = (decide (bit < 32) && !mask.toNat.testBit bit) := by
    have whole : (~~~mask).toNat = 2 ^ 32 - (mask.toNat + 1) := by
      rw [UInt32.toNat_not]
      change 4294967296 - 1 - mask.toNat = _
      omega
    rw [whole, Nat.testBit_two_pow_sub_succ mask.toNat_lt]
  rw [UInt32.toNat_or, UInt32.toNat_and, UInt32.toNat_and, Nat.testBit_or, Nat.testBit_and,
    Nat.testBit_and, flipped]
  cases named : mask.toNat.testBit bit with
  | true => simp
  | false =>
      rw [low]
      cases decide (bit < 32) <;> simp

section

variable [CkVision]

/-- An operation that states a mode sets it, and no other operation touches it. -/
theorem performOp_modes (state : GridState) (op : GridOp) (bit : Nat) :
    (performOp state op).modes.toNat.testBit bit =
      (statesMode bit op).getD (state.modes.toNat.testBit bit) := by
  cases op with
  | modes op =>
      rw [performOp, statesMode, testBit_masked]
      split <;> rfl
  | resize op =>
      by_cases same : state.cells = ⟨op.columns.toNat, op.rows.toNat⟩
      · have still : performOp state (.resize op) = state := resizeState_same same
        rw [still]
        rfl
      · have view : (performOp state (.resize op)).view = _ := resizeState_view same
        have modes := congrArg GridView.modes view
        change (performOp state (.resize op)).modes = state.modes at modes
        rw [modes]
        rfl
  | scrollbackPush op =>
      have still : (performOp state (.scrollbackPush op)).view = state.view := by
        rw [performOp]
        split
        · rfl
        · exact foldl_pushScrollbackLine_view ..
      have modes : (performOp state (.scrollbackPush op)).modes = state.modes :=
        congrArg GridView.modes still
      rw [modes]
      rfl
  | _ => rfl

/-- A mode bit is what the last operation to name it says, or what it was. -/
theorem foldl_performOp_modes (state : GridState) (ops : List GridOp) (bit : Nat) :
    (ops.foldl performOp state).modes.toNat.testBit bit =
      (statedMode ops bit).getD (state.modes.toNat.testBit bit) := by
  induction ops generalizing state with
  | nil => rfl
  | cons op ops ih =>
      rw [List.foldl_cons, ih, performOp_modes, statedMode_cons]
      cases statedMode ops bit <;> rfl

/-- Operations that were checked leave the cursor on the screen. -/
theorem foldl_performOp_inside {state : GridState} {ops : List GridOp} {size : Size}
    (sized : state.grid.length = state.cells.area) (inside : state.cursor.Inside state.cells)
    (checked : checkOps state.cells ops = some size) :
    (ops.foldl performOp state).cursor.Inside (ops.foldl performOp state).cells := by
  induction ops generalizing state with
  | nil => exact inside
  | cons op ops ih =>
      rw [checkOps] at checked
      cases first : checkOp state.cells op with
      | none =>
          rw [first] at checked
          cases checked
      | some next =>
          rw [first] at checked
          obtain ⟨met, area⟩ := performOp_checked sized first
          exact ih (area.trans (met ▸ rfl)) (performOp_inside inside first) (met.symm ▸ checked)

/-- A delta that is taken leaves a mirror in order. -/
theorem GridState.Represented.taken {mirror after : GridState} {ops : List GridOp}
    (represented : mirror.Represented) (taken : applyDelta ops mirror = some after) :
    after.Represented := by
  refine ⟨applyDelta_sized taken, ?_, applyDelta_kept represented.kept taken⟩
  rw [applyDelta, if_neg (not_not.mpr represented.sized)] at taken
  split at taken
  · cases taken
  · rename_i checked
    cases taken
    exact foldl_performOp_inside represented.sized represented.inside checked

/-- A delta that is taken leaves each mode as it states it last, or as it was. -/
theorem applyDelta_modes {mirror after : GridState} {ops : List GridOp}
    (taken : applyDelta ops mirror = some after) (bit : Nat) :
    after.modes.toNat.testBit bit =
      (statedMode ops bit).getD (mirror.modes.toNat.testBit bit) := by
  rw [applyDelta] at taken
  split at taken
  · cases taken
  · split at taken
    · cases taken
    · cases taken
      exact foldl_performOp_modes mirror ops bit

/-- A blank mirror is in order. -/
theorem blankState_represented (cells : Size) (limit : Nat) :
    (blankState cells limit).Represented where
  sized := List.length_replicate ..
  inside := by
    refine ⟨?_, Nat.zero_le _⟩
    rcases Nat.eq_zero_or_pos cells.height with flat | tall
    · exact .inr ⟨flat, rfl⟩
    · exact .inl tall
  kept := (kept_of_empty rfl rfl).1

/-- A delta is taken whole or not at all. No access strays; a delta that is refused leaves the
mirror as it was; one that is taken leaves it in order, each mode bit as last stated. -/
theorem delta_whole_or_not (mirror : GridState) (represented : mirror.Represented)
    (ops : List GridOp) :
    ∃ taken after, (applyDeltaIn ops).run mirror = some (taken, after) ∧
      (taken = false → after = mirror) ∧
      (taken = true → after.Represented ∧
        ∀ bit, after.modes.toNat.testBit bit =
          (statedMode ops bit).getD (mirror.modes.toNat.testBit bit)) := by
  rw [applyDeltaIn_run]
  cases taken : applyDelta ops mirror with
  | none => exact ⟨false, mirror, rfl, fun _ => rfl, fun said => Bool.noConfusion said⟩
  | some after =>
      refine ⟨true, after, rfl, fun said => Bool.noConfusion said, fun _ => ⟨?_, ?_⟩⟩
      · exact represented.taken taken
      · exact applyDelta_modes taken

end

/-- A letter, a mode and a smaller screen, for a blank mirror. -/
def shrinkingOps : List GridOp :=
  [.cells ⟨0, 1, [⟨1, ⟨[120], 1, {}⟩⟩]⟩, .modes ⟨3, 1⟩, .resize ⟨1, 1⟩, .modes ⟨2, 2⟩]

/-- The delta is taken whole, and states the first two mode bits. -/
theorem delta_whole_or_not_shrinking :
    let mirror := @blankState asciiVision ⟨2, 1⟩ 5
    (∃ taken after, (@applyDeltaIn asciiVision shrinkingOps).run mirror = some (taken, after) ∧
      (taken = false → after = mirror) ∧
      (taken = true → after.Represented ∧
        ∀ bit, after.modes.toNat.testBit bit =
          (statedMode shrinkingOps bit).getD (mirror.modes.toNat.testBit bit))) ∧
      ((@applyDeltaIn asciiVision shrinkingOps).run mirror).map Prod.fst = some true ∧
      (statedMode shrinkingOps 0, statedMode shrinkingOps 1, statedMode shrinkingOps 2) =
        (some true, some true, none) := by
  refine ⟨?_, by decide, by decide⟩
  exact @delta_whole_or_not asciiVision (@blankState asciiVision ⟨2, 1⟩ 5)
    (@blankState_represented asciiVision ⟨2, 1⟩ 5) shrinkingOps

end Ckmux
