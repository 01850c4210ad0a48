import Mathlib
import Ckmux.Grid.Spans

/-!
# Applying a difference

A delta made from one screen to another, applied where the first is held, leaves
the second, and the history it would have had. `Brings` follows a delta operation
by operation: what the check lets through, and what performing it leaves. The
grid is settled row by row, each row by its own operations whatever the others
hold, so the shift, the hashes and the spans have no say in the result.
-/

namespace Ckmux

open Data (row splice slice Within)
open Proto (CellRun CellsOp GridOp kMaxGridColumns kMaxGridRows kMaxGridCells toRuns fromRuns
  totalLength totalLength_toRuns fromRuns_toRuns)

/-- A state that shows a screen, its history its own. -/
def GridState.showing (state : GridState) (view : GridView) : GridState :=
  { state with
    cells := view.cells
    grid := view.grid
    cursor := view.cursor
    modes := view.modes
    title := view.title }

/-- What a state is made to show is what is seen of it. -/
@[simp] theorem GridState.view_showing (state : GridState) (view : GridView) :
    (state.showing view).view = view := rfl

section

variable [CkVision]

/-- The state that holds what a resize and some pushed lines leave of a history,
and shows a screen. -/
def advanced (state : GridState) (current : GridView) (pushed : List (List Cell)) : GridState :=
  (pushed.foldl pushScrollbackLine (resizeState state current.cells)).showing current

/-! ### Following a delta -/

omit [CkVision] in
/-- Operations behind others are checked at the size those leave. -/
theorem checkOps_append {front : List GridOp} {size reached : Size}
    (passed : checkOps size front = some reached) (back : List GridOp) :
    checkOps size (front ++ back) = checkOps reached back := by
  induction front generalizing size with
  | nil =>
      cases passed
      rfl
  | cons op front ih =>
      rw [checkOps] at passed
      rw [List.cons_append, checkOps]
      cases step : checkOp size op with
      | none =>
          rw [step] at passed
          cases passed
      | some next =>
          rw [step] at passed
          exact ih passed

/-- Operations that pass the check at a state's size, and what performing them
leaves. -/
structure Brings (ops : List GridOp) (state after : GridState) : Prop where
  checked : checkOps state.cells ops = some after.cells
  performed : ops.foldl performOp state = after

namespace Brings

/-- Nothing brings a state to itself. -/
theorem nil (state : GridState) : Brings [] state state := ⟨rfl, rfl⟩

/-- An operation that may be done brings a state to what it makes of it. -/
theorem one {op : GridOp} {state after : GridState} (checked : checkOp state.cells op = some after.cells)
    (performed : performOp state op = after) : Brings [op] state after := by
  refine ⟨?_, performed⟩
  rw [checkOps, checked]
  rfl

/-- What brings a state further goes behind. -/
theorem append {front back : List GridOp} {state between after : GridState}
    (first : Brings front state between) (second : Brings back between after) :
    Brings (front ++ back) state after where
  checked := by rw [checkOps_append first.checked, second.checked]
  performed := by rw [List.foldl_append, first.performed, second.performed]

/-- A delta that can be followed is accepted. -/
theorem applied {ops : List GridOp} {state after : GridState} (brings : Brings ops state after)
    (sized : state.grid.length = state.cells.area) : applyDelta ops state = some after := by
  rw [applyDelta, if_neg (not_not.mpr sized), brings.checked, brings.performed]

end Brings

/-! ### Single operations -/

/-- A size operation brings a state to its resized self. -/
theorem brings_resize {state : GridState} {cells : Size} (width_pos : 1 ≤ cells.width)
    (width_le : cells.width ≤ kMaxGridColumns) (height_pos : 1 ≤ cells.height)
    (height_le : cells.height ≤ kMaxGridRows) :
    Brings [resizeOp cells] state (resizeState state cells) := by
  have columns : kMaxGridColumns = 1000 := rfl
  have rows : kMaxGridRows = 1000 := rfl
  have width : (UInt16.ofNat cells.width).toNat = cells.width :=
    UInt16.toNat_ofNat_of_lt' (by change _ < 65536; omega)
  have height : (UInt16.ofNat cells.height).toNat = cells.height :=
    UInt16.toNat_ofNat_of_lt' (by change _ < 65536; omega)
  apply Brings.one
  · rw [resizeOp, checkOp, if_neg, resizeState_cells]
    · simp only [width, height]
    · simp only [width, height, ← UInt16.toNat_inj, UInt16.toNat_zero]
      omega
  · simp only [resizeOp, performOp, width, height]

/-- Pushed lines arrive as they were, where any history is kept. -/
theorem brings_pushes {state : GridState} {pushed : List (List Cell)}
    (width_le : state.cells.width ≤ kMaxGridColumns)
    (lines : ∀ line ∈ pushed, 1 ≤ line.length ∧ line.length ≤ state.cells.width) :
    Brings (pushOps pushed) state (pushed.foldl pushScrollbackLine state) := by
  unfold pushOps
  by_cases none_pushed : pushed = []
  · rw [if_pos none_pushed, none_pushed]
    exact .nil state
  rw [if_neg none_pushed]
  apply Brings.one
  · have size := congrArg GridView.cells (foldl_pushScrollbackLine_view pushed state)
    change (pushed.foldl pushScrollbackLine state).cells = state.cells at size
    rw [checkOp, if_neg, size]
    rintro ⟨runs, listed, wrong⟩
    obtain ⟨line, line_listed, rfl⟩ := List.mem_map.mp listed
    have fits := lines line line_listed
    rw [totalLength_toRuns] at wrong
    omega
  · have decoded : (pushed.map toRuns).map fromRuns = pushed := by
      have columns : kMaxGridColumns ≤ kMaxGridCells := by decide
      have each : ∀ line ∈ pushed, (fromRuns ∘ toRuns) line = id line := by
        intro line listed
        have fits := lines line listed
        exact fromRuns_toRuns (by omega)
      rw [List.map_map, List.map_congr_left each, List.map_id]
    rw [performOp, decoded]
    by_cases forgetful : state.maxScrollbackLines = 0
    · rw [if_pos forgetful, foldl_pushScrollbackLine_forgetful forgetful]
    · rw [if_neg forgetful]

/-- A cells operation brings the cells it carries. -/
theorem brings_cells {state : GridState} {index column : Nat} {cells : List Cell}
    (inside : index < state.cells.height) (fits : column + cells.length ≤ state.cells.width)
    (width_le : state.cells.width ≤ kMaxGridColumns) (height_le : state.cells.height ≤ kMaxGridRows) :
    Brings [.cells ⟨UInt16.ofNat index, UInt16.ofNat column, toRuns cells⟩] state
      { state with grid := splice state.grid (index * state.cells.width + column) cells } := by
  have columns : kMaxGridColumns = 1000 := rfl
  have rows : kMaxGridRows = 1000 := rfl
  have many : kMaxGridColumns ≤ kMaxGridCells := by decide
  have row : (UInt16.ofNat index).toNat = index :=
    UInt16.toNat_ofNat_of_lt' (by change _ < 65536; omega)
  have start : (UInt16.ofNat column).toNat = column :=
    UInt16.toNat_ofNat_of_lt' (by change _ < 65536; omega)
  apply Brings.one
  · rw [checkOp, if_neg]
    simp only [row, start, totalLength_toRuns]
    omega
  · simp only [performOp, row, start]
    rw [fromRuns_toRuns (by omega)]

/-- A scroll operation brings the rows shifted. -/
theorem brings_scroll {state : GridState} {top bottom : Nat} {lines : Int}
    (inside : bottom ≤ state.cells.height) (height_le : state.cells.height ≤ kMaxGridRows)
    (few : lines.natAbs + top ≤ bottom) :
    Brings [.scroll ⟨UInt16.ofNat top, UInt16.ofNat bottom, Int16.ofInt lines⟩] state
      { state with grid := shiftRows state.grid state.cells.width top bottom lines } := by
  have rows : kMaxGridRows = 1000 := rfl
  have first : (UInt16.ofNat top).toNat = top :=
    UInt16.toNat_ofNat_of_lt' (by change _ < 65536; omega)
  have last : (UInt16.ofNat bottom).toNat = bottom :=
    UInt16.toNat_ofNat_of_lt' (by change _ < 65536; omega)
  have distance : (Int16.ofInt lines).toInt = lines :=
    Int16.toInt_ofInt_of_le (by omega) (by omega)
  apply Brings.one
  · rw [checkOp, if_neg]
    simp only [UInt16.lt_iff_toNat_lt, gt_iff_lt, first, last, distance]
    omega
  · simp only [performOp, first, last, distance]

/-- A cursor operation brings the cursor. -/
theorem brings_cursor (state : GridState) {cursor : GridCursor}
    (row : cursor.row.toNat < state.cells.height)
    (column : cursor.column.toNat ≤ state.cells.width) :
    Brings [.cursor cursor.op] state { state with cursor := cursor } := by
  apply Brings.one
  · rw [GridCursor.op, checkOp, if_neg]
    dsimp only
    omega
  · rfl

omit [CkVision] in
/-- The bits that differ, taken from the wanted modes, make them the wanted modes. -/
theorem modes_differing (held wanted : UInt32) :
    (held &&& ~~~(held ^^^ wanted)) ||| (wanted &&& (held ^^^ wanted)) = wanted := by
  apply UInt32.toBitVec_inj.mp
  ext bit inside
  simp only [UInt32.toBitVec_or, UInt32.toBitVec_and, UInt32.toBitVec_not, UInt32.toBitVec_xor,
    BitVec.getElem_or, BitVec.getElem_and, BitVec.getElem_not, BitVec.getElem_xor]
  cases held.toBitVec[bit] <;> cases wanted.toBitVec[bit] <;> rfl

omit [CkVision] in
/-- Every bit stated makes them the stated modes. -/
theorem modes_stated (held wanted : UInt32) :
    (held &&& ~~~0xFFFFFFFF) ||| (wanted &&& 0xFFFFFFFF) = wanted := by
  have every : (0xFFFFFFFF : UInt32) = -1 := rfl
  rw [every]
  simp

/-! ### Rows -/

/-- Operations that settle one row of a state's grid, whatever the other rows have
become. -/
def SettlesRow (state : GridState) (wanted : List Cell) (index : Nat) (ops : List GridOp) : Prop :=
  ∀ grid, grid.length = state.grid.length →
    row state.cells.width grid index = row state.cells.width state.grid index →
    ∃ settled, Brings ops { state with grid := grid } { state with grid := settled } ∧
      Within (index * state.cells.width) (index * state.cells.width + state.cells.width) grid
        settled ∧
      row state.cells.width settled index = row state.cells.width wanted index

/-- A row that is already right settles itself. -/
theorem settlesRow_nil {state : GridState} {wanted : List Cell} {index : Nat}
    (right : row state.cells.width state.grid index = row state.cells.width wanted index) :
    SettlesRow state wanted index [] :=
  fun grid _ same => ⟨grid, .nil _, .refl .., same.trans right⟩

section

variable {state : GridState} {wanted : List Cell}

/-- The spans of a row, performed one after another, paint it. -/
theorem brings_spans {index : Nat} {cells : List Cell} (spans : List (Nat × Nat))
    (inside : index < state.cells.height) (width_le : state.cells.width ≤ kMaxGridColumns)
    (height_le : state.cells.height ≤ kMaxGridRows) (whole : cells.length = state.cells.width)
    (fit : Fit cells.length spans) (grid : List Cell) :
    Brings (spans.map fun span =>
        .cells ⟨UInt16.ofNat index, UInt16.ofNat span.1, toRuns (slice cells span.1 span.2)⟩)
      { state with grid := grid }
      { state with grid := paint (index * state.cells.width) cells spans grid } := by
  induction spans generalizing grid with
  | nil => exact .nil _
  | cons span spans ih =>
      have this_fits := fit span List.mem_cons_self
      have written := Data.length_slice this_fits.1 this_fits.2
      rw [List.map_cons, ← List.singleton_append]
      exact .append (@brings_cells _ { state with grid := grid } _ _ _ inside
          (by dsimp only; omega) width_le height_le)
        (ih (fun other listed => fit other (List.mem_cons_of_mem _ listed)) _)

/-- What is emitted for a row settles it. -/
theorem settlesRow_emitChangedRow {index : Nat}
    (sized : state.grid.length = state.cells.height * state.cells.width)
    (wantedSized : wanted.length = state.cells.height * state.cells.width)
    (width_pos : 1 ≤ state.cells.width) (width_le : state.cells.width ≤ kMaxGridColumns)
    (height_le : state.cells.height ≤ kMaxGridRows) (inside : index < state.cells.height) :
    SettlesRow state wanted index
      (emitChangedRow index (row state.cells.width state.grid index)
        (row state.cells.width wanted index)) := by
  intro grid length_eq same
  have gridSized := length_eq.trans sized
  have whole := Data.length_row wantedSized inside
  have mirror_whole := Data.length_row sized inside
  have room := @Data.row_end_le state.cells.width _ _ inside
  have found := changedSpansFrom_spans (row state.cells.width state.grid index)
    (row state.cells.width wanted index) 0 none 0 trivial (Nat.zero_le _)
  have fits : index * state.cells.width + (row state.cells.width wanted index).length ≤
      grid.length := by omega
  have painted := paint_within found.fit fits
  rw [emitChangedRow, if_neg]
  · refine ⟨_, brings_spans _ inside width_le height_le whole found.fit grid, ?_, ?_⟩
    · rwa [whole] at painted
    · apply List.ext_getElem?
      intro column
      by_cases within : column < state.cells.width
      · rw [Data.getElem?_row within]
        apply getElem?_paint found.fit fits
        by_cases differs : (row state.cells.width state.grid index)[column]? =
            (row state.cells.width wanted index)[column]?
        · right
          rw [← Data.getElem?_row within, same, differs]
        · exact .inl (found.covers column (Nat.zero_le _) (by omega) differs)
      · have settled_whole := Data.length_row (painted.1.trans gridSized) inside
        rw [List.getElem?_eq_none (by omega), List.getElem?_eq_none (by omega)]
  · rintro (uneven | empty)
    · exact uneven (mirror_whole.trans whole.symm)
    · rw [empty, List.length_nil] at whole
      omega

/-- A row sent whole settles it. -/
theorem settlesRow_whole {index : Nat}
    (sized : state.grid.length = state.cells.height * state.cells.width)
    (wantedSized : wanted.length = state.cells.height * state.cells.width)
    (width_le : state.cells.width ≤ kMaxGridColumns)
    (height_le : state.cells.height ≤ kMaxGridRows) (inside : index < state.cells.height) :
    SettlesRow state wanted index
      [.cells ⟨UInt16.ofNat index, 0, toRuns (row state.cells.width wanted index)⟩] := by
  intro grid length_eq _
  have gridSized := length_eq.trans sized
  have whole := Data.length_row wantedSized inside
  have room := @Data.row_end_le state.cells.width _ _ inside
  refine ⟨_, @brings_cells _ { state with grid := grid } _ 0 _ inside (by dsimp only; omega)
    width_le height_le, ?_, ?_⟩
  · change Within _ _ grid (splice grid (index * state.cells.width) _)
    exact .splice (le_refl _) (by omega) (by omega)
  · exact Data.row_splice gridSized inside whole

/-- Rows settled one after another settle the grid. What is left of the induction
is that the rows still to come are as they were. -/
theorem brings_rows {emit : Nat → List GridOp}
    (sized : state.grid.length = state.cells.height * state.cells.width)
    (wantedSized : wanted.length = state.cells.height * state.cells.width)
    (settles : ∀ index < state.cells.height, SettlesRow state wanted index (emit index)) :
    Brings ((List.range state.cells.height).flatMap emit) state { state with grid := wanted } := by
  have rows : ∀ count ≤ state.cells.height, ∃ grid,
      Brings ((List.range count).flatMap emit) state { state with grid := grid } ∧
      grid.length = state.grid.length ∧
      (∀ index < count, row state.cells.width grid index = row state.cells.width wanted index) ∧
      ∀ index < state.cells.height, count ≤ index →
        row state.cells.width grid index = row state.cells.width state.grid index := by
    intro count
    induction count with
    | zero =>
        intro _
        exact ⟨state.grid, .nil _, rfl, fun _ early => absurd early (Nat.not_lt_zero _),
          fun _ _ _ => rfl⟩
    | succ count ih =>
        intro within
        obtain ⟨grid, brings, length_eq, done, left⟩ := ih (by omega)
        obtain ⟨settled, row_brings, changed, right⟩ :=
          settles count within grid length_eq (left count within (le_refl _))
        refine ⟨settled, ?_, changed.1.trans length_eq, fun index before => ?_,
          fun index inside after => ?_⟩
        · rw [List.range_succ, List.flatMap_append, List.flatMap_singleton]
          exact brings.append row_brings
        · rcases Nat.lt_succ_iff_lt_or_eq.mp before with earlier | rfl
          · have apart := @Data.row_end_le state.cells.width _ _ earlier
            rw [Data.row_of_within changed (.inl (by omega)), done index earlier]
          · exact right
        · have apart := @Data.row_end_le state.cells.width _ _ (Nat.lt_of_succ_le after)
          rw [Data.row_of_within changed (.inr (by omega)), left index inside (by omega)]
  obtain ⟨grid, brings, length_eq, done, _⟩ := rows _ (le_refl _)
  rwa [Data.ext_rows (length_eq.trans sized) wantedSized done] at brings

end

/-! ### Grids -/

/-- A whole repaint settles every row, whatever was there. -/
theorem brings_everyRow {state : GridState} {current : GridView} (formed : current.WellFormed)
    (size : state.cells = current.cells) (sized : state.grid.length = state.cells.area) :
    Brings (emitEveryRow current) state { state with grid := current.grid } := by
  have rows := formed.sized_rows
  have state_rows : state.grid.length = state.cells.height * state.cells.width := by
    rw [sized, Size.area, Nat.mul_comm]
  rw [emitEveryRow, if_neg (not_not.mpr formed.sized), ← size, ← List.flatMap_singleton' (List.map _ _),
    List.flatMap_map]
  rw [← size] at rows
  apply brings_rows state_rows rows
  intro index inside
  exact settlesRow_whole state_rows rows (size ▸ formed.columns_le) (size ▸ formed.rows_le) inside

omit [CkVision] in
/-- Looking for the top of a band goes down no further than it may. -/
theorem le_bandTop (interesting : Nat → Bool) (more top : Nat) :
    bandTop interesting more top ≤ top + more := by
  induction more generalizing top with
  | zero => exact le_refl _
  | succ more ih =>
      rw [bandTop]
      split
      · omega
      · have later := ih (top + 1)
        omega

omit [CkVision] in
/-- The bottom of a band is between where it was looked for. -/
theorem bandBottom_bounds (interesting : Nat → Bool) {top bottom : Nat} (ordered : top ≤ bottom) :
    top ≤ bandBottom interesting top bottom ∧ bandBottom interesting top bottom ≤ bottom := by
  induction bottom with
  | zero => exact ⟨ordered, le_refl _⟩
  | succ bottom ih =>
      rw [bandBottom]
      split
      · rename_i shrinks
        have bounds := ih (by omega)
        omega
      · exact ⟨ordered, le_refl _⟩

omit [CkVision] in
/-- The best shift is standing still or one of those tried. -/
theorem bestShift_mem (score : Int → Nat) (band : Nat) :
    (bestShift score band).1 = 0 ∨ (bestShift score band).1 ∈ shifts band := by
  have among : ∀ (tried : List Int) (best : Int × Nat),
      (∀ lines ∈ tried, lines ∈ shifts band) → best.1 = 0 ∨ best.1 ∈ shifts band →
      (tried.foldl (fun best lines =>
          if lines = 0 then best
          else if score lines > best.2 then (lines, score lines)
          else best) best).1 = 0 ∨
        (tried.foldl (fun best lines =>
          if lines = 0 then best
          else if score lines > best.2 then (lines, score lines)
          else best) best).1 ∈ shifts band := by
    intro tried
    induction tried with
    | nil =>
        intro best _ so_far
        exact so_far
    | cons lines tried ih =>
        intro best listed so_far
        rw [List.foldl_cons]
        apply ih _ fun other other_listed => listed other (List.mem_cons_of_mem _ other_listed)
        split
        · exact so_far
        split
        · exact .inr (listed lines List.mem_cons_self)
        · exact so_far
  exact among _ _ (fun _ listed => listed) (.inl rfl)

/-- A chosen shift leaves some row of its band to move. -/
theorem chooseShift_lt {hash : RowHash} {held wanted : List Cell} {width top bottom : Nat}
    {lines : Int} (chosen : chooseShift hash held wanted width top bottom = some lines) :
    lines.natAbs + top < bottom := by
  unfold chooseShift at chosen
  split at chosen
  · cases chosen
  · rename_i tall
    dsimp only at chosen
    split at chosen
    · rename_i worth
      cases chosen
      rcases bestShift_mem _ (bottom - top) with still | tried
      · exact absurd still worth.1
      · obtain ⟨index, listed, shift⟩ := List.mem_map.mp tried
        rw [List.mem_range] at listed
        rw [← shift]
        omega
    · cases chosen

/-- The operations on a grid of the same size settle it: a row not looked at is
right already, and a shift moves only rows that are looked at. -/
theorem brings_gridOps (hash : RowHash) {state : GridState} {current : GridView}
    (damaged : List RowDamage) (formed : current.WellFormed) (size : state.cells = current.cells)
    (sized : state.grid.length = state.cells.area)
    (sound : ∀ index < current.cells.height, examined damaged index = false →
      row current.cells.width state.grid index = row current.cells.width current.grid index) :
    Brings (gridOps hash state.grid current damaged) state { state with grid := current.grid } := by
  have rows := formed.sized_rows
  have state_rows : state.grid.length = state.cells.height * state.cells.width := by
    rw [sized, Size.area, Nat.mul_comm]
  have width_pos := formed.columns_pos
  have width_le := formed.columns_le
  have height_le := formed.rows_le
  rw [← size] at rows sound width_pos width_le height_le
  unfold gridOps
  dsimp only
  rw [← size]
  generalize bandTop_eq : bandTop (fun index => examined damaged index &&
    hash (row state.cells.width state.grid index) != hash (row state.cells.width current.grid index))
    state.cells.height 0 = top
  generalize bandBottom_eq : bandBottom (fun index => examined damaged index &&
    hash (row state.cells.width state.grid index) != hash (row state.cells.width current.grid index))
    top state.cells.height = bottom
  split
  · apply brings_rows state_rows rows
    intro index inside
    split
    · exact settlesRow_emitChangedRow state_rows rows width_pos width_le height_le inside
    · rename_i unlooked
      exact settlesRow_nil (sound index inside (Bool.eq_false_iff.mpr unlooked))
  · rename_i lines chosen
    have few := chooseShift_lt chosen
    have top_le : top ≤ state.cells.height := by
      have bound := le_bandTop (fun index => examined damaged index &&
        hash (row state.cells.width state.grid index) !=
          hash (row state.cells.width current.grid index)) state.cells.height 0
      omega
    have bounds := bandBottom_bounds (fun index => examined damaged index &&
      hash (row state.cells.width state.grid index) !=
        hash (row state.cells.width current.grid index)) top_le
    rw [bandBottom_eq] at bounds
    have moved := shiftRows_within lines state_rows bounds.1 bounds.2
    rw [← List.singleton_append]
    refine (brings_scroll bounds.2 height_le few.le).append ?_
    apply @brings_rows _ { state with grid := shiftRows state.grid state.cells.width top bottom lines }
      _ _ (moved.1.trans state_rows) rows
    intro index inside
    split
    · exact settlesRow_emitChangedRow (moved.1.trans state_rows) rows width_pos width_le height_le
        inside
    · rename_i unlooked
      simp only [Bool.or_eq_true, Bool.and_eq_true, decide_eq_true_eq, not_or, not_and,
        Bool.not_eq_true] at unlooked
      apply settlesRow_nil
      rw [← sound index inside unlooked.1]
      apply Data.row_of_within moved
      rcases Nat.lt_or_ge index top with above | below
      · exact .inl (Data.row_end_le above)
      · exact .inr (Nat.mul_le_mul_right _ (by have := unlooked.2 below; omega))

/-! ### Whole deltas -/

/-- What is left of a delta once size, history and grid are right. -/
theorem brings_rest {previous : GridState} {current : GridView} {state : GridState}
    (formed : current.WellFormed) (size : state.cells = current.cells)
    (grid : state.grid = current.grid)
    (cursor : previous.cursor = current.cursor → state.cursor = current.cursor)
    (modes : state.modes = previous.modes) (title : state.title = previous.title) :
    Brings ((if previous.cursor = current.cursor then [] else [.cursor current.cursor.op]) ++
        (if previous.modes = current.modes then []
          else [.modes ⟨previous.modes ^^^ current.modes, current.modes⟩]) ++
        (if previous.title = current.title then [] else [.title ⟨current.title⟩]))
      state (state.showing current) := by
  have cursor_brings : Brings
      (if previous.cursor = current.cursor then [] else [.cursor current.cursor.op])
      state { state with cursor := current.cursor } := by
    split
    · rename_i same
      rw [← cursor same]
      exact .nil state
    · exact brings_cursor state (size ▸ formed.cursor_row) (size ▸ formed.cursor_column)
  have modes_brings : Brings
      (if previous.modes = current.modes then []
        else [.modes ⟨previous.modes ^^^ current.modes, current.modes⟩])
      { state with cursor := current.cursor }
      { state with cursor := current.cursor, modes := current.modes } := by
    split
    · rename_i same
      rw [← same, ← modes]
      exact .nil _
    · apply Brings.one rfl
      rw [performOp, modes, modes_differing]
  have title_brings : Brings
      (if previous.title = current.title then [] else [.title ⟨current.title⟩])
      { state with cursor := current.cursor, modes := current.modes } (state.showing current) := by
    rw [GridState.showing, ← size, ← grid]
    split
    · rename_i same
      rw [← same, ← title]
      exact .nil _
    · exact .one rfl rfl
  exact (cursor_brings.append modes_brings).append title_brings

/-- A difference can be followed from the screen it was made from, whatever history
the follower keeps, and ends at the screen it was made to. -/
theorem brings_diffWith (hash : RowHash) {previous : GridState} {current : GridView}
    {pushed : List (List Cell)} {damaged : List RowDamage}
    (sized : previous.grid.length = previous.cells.area) (formed : current.WellFormed)
    (lines : ∀ line ∈ pushed, 1 ≤ line.length ∧ line.length ≤ current.cells.width)
    (sound : previous.cells = current.cells → ∀ index < current.cells.height,
      examined damaged index = false →
        row current.cells.width previous.grid index = row current.cells.width current.grid index) :
    Brings (diffWith hash previous current pushed damaged) previous
      (advanced previous current pushed) := by
  have columns_pos := formed.columns_pos
  have rows_pos := formed.rows_pos
  have size_eq := resizeState_cells previous current.cells
  have resizes := @brings_resize _ previous current.cells columns_pos formed.columns_le rows_pos
    formed.rows_le
  have blank_sized := resizeState_sized sized current.cells
  generalize resized : resizeState previous current.cells = blank at size_eq resizes blank_sized
  have pushes := @brings_pushes _ blank pushed (size_eq ▸ formed.columns_le)
    (fun line listed => size_eq ▸ lines line listed)
  have pushed_view := foldl_pushScrollbackLine_view pushed blank
  rw [advanced, resized]
  generalize pushed.foldl pushScrollbackLine blank = full at pushes pushed_view
  have cells_eq := (congrArg GridView.cells pushed_view).trans size_eq
  have grid_eq := congrArg GridView.grid pushed_view
  have cursor_eq := congrArg GridView.cursor pushed_view
  have modes_eq := congrArg GridView.modes pushed_view
  have title_eq := congrArg GridView.title pushed_view
  simp only [GridState.view] at cells_eq grid_eq cursor_eq modes_eq title_eq
  unfold diffWith
  dsimp only
  rw [List.append_assoc (_ ++ _ ++ _), List.append_assoc (_ ++ _ ++ _), ← List.append_assoc (ite _ _ _)]
  by_cases same : previous.cells = current.cells
  · have geometry : previous.cells = current.cells ∧ previous.grid.length = current.cells.area ∧
        current.grid.length = current.cells.area := ⟨same, same ▸ sized, formed.sized⟩
    have still : blank = previous := by rw [← resized, resizeState_same same]
    rw [if_pos geometry, if_neg (not_not.mpr geometry), if_pos ⟨columns_pos, rows_pos⟩,
      List.nil_append]
    subst still
    rw [← grid_eq] at sound sized ⊢
    have settled := brings_gridOps hash damaged formed cells_eq (by rw [sized, cells_eq, same])
      (sound same)
    exact (pushes.append settled).append (@brings_rest _ blank current
      { full with grid := current.grid } formed cells_eq rfl (cursor_eq.trans ·) modes_eq title_eq)
  · have geometry : ¬(previous.cells = current.cells ∧
        previous.grid.length = current.cells.area ∧ current.grid.length = current.cells.area) :=
      fun equal => same equal.1
    have blank_view := resizeState_view same
    rw [resized] at blank_view
    have blank_cursor := congrArg GridView.cursor blank_view
    have blank_modes := congrArg GridView.modes blank_view
    have blank_title := congrArg GridView.title blank_view
    simp only [GridState.view] at blank_cursor blank_modes blank_title
    rw [if_neg geometry, if_pos geometry]
    have settled := brings_everyRow formed cells_eq (by rw [grid_eq, blank_sized, cells_eq])
    refine ((resizes.append pushes).append settled).append (@brings_rest _ previous current
      { full with grid := current.grid } formed cells_eq rfl ?_ (modes_eq.trans blank_modes)
      (title_eq.trans blank_title))
    -- A cursor that is not restated was inside the new size already.
    intro unmoved
    rw [cursor_eq, blank_cursor, unmoved]
    exact clampCursor_of_inside formed.cursor_row formed.cursor_column

/-- A repaint can be followed from any screen. -/
theorem brings_fullRepaint {state : GridState} {current : GridView} {pushed : List (List Cell)}
    (sized : state.grid.length = state.cells.area) (formed : current.WellFormed)
    (lines : ∀ line ∈ pushed, 1 ≤ line.length ∧ line.length ≤ current.cells.width) :
    Brings (fullRepaint current pushed) state (advanced state current pushed) := by
  have size_eq := resizeState_cells state current.cells
  have resizes := @brings_resize _ state current.cells formed.columns_pos formed.columns_le
    formed.rows_pos formed.rows_le
  have blank_sized := resizeState_sized sized current.cells
  rw [advanced]
  generalize resizeState state current.cells = blank at size_eq resizes blank_sized ⊢
  have pushes := @brings_pushes _ blank pushed (size_eq ▸ formed.columns_le)
    (fun line listed => size_eq ▸ lines line listed)
  have pushed_view := foldl_pushScrollbackLine_view pushed blank
  generalize pushed.foldl pushScrollbackLine blank = full at pushes pushed_view ⊢
  have cells_eq : full.cells = current.cells := (congrArg GridView.cells pushed_view).trans size_eq
  have grid_eq : full.grid = blank.grid := congrArg GridView.grid pushed_view
  have settled := brings_everyRow formed cells_eq (by rw [grid_eq, blank_sized, cells_eq])
  refine ((resizes.append pushes).append settled).append ?_
  rw [GridState.showing, ← cells_eq]
  have modes_brings (held : GridState) :
      Brings [.modes ⟨0xFFFFFFFF, current.modes⟩] held { held with modes := current.modes } := by
    apply Brings.one rfl
    rw [performOp, modes_stated]
  have title_brings (held : GridState) :
      Brings [.title ⟨current.title⟩] held { held with title := current.title } := .one rfl rfl
  exact (brings_cursor { full with grid := current.grid } (cells_eq ▸ formed.cursor_row)
    (cells_eq ▸ formed.cursor_column)).append ((modes_brings _).append (title_brings _))

/-- A difference applied to the state it was made from leaves the other's screen,
over the history that the resize and the pushed lines make of the first's. Any
hash will do, and so will any report whose unnamed rows have not changed. -/
theorem applyDelta_diff (previous current : GridState) (pushed : List (List Cell))
    (held : previous.view.WellFormed) (formed : current.view.WellFormed)
    (lines : ∀ line ∈ pushed, 1 ≤ line.length ∧ line.length ≤ current.cells.width) :
    applyDelta (diff previous current.view pushed []) previous =
        some ((pushed.foldl pushScrollbackLine (resizeState previous current.cells)).showing
          current.view) ∧
      ∀ (hash : RowHash) (damaged : List RowDamage),
        (previous.cells = current.cells → ∀ index < current.cells.height,
          examined damaged index = false →
            row current.cells.width previous.grid index =
              row current.cells.width current.grid index) →
        applyDelta (diffWith hash previous current.view pushed damaged) previous =
          some ((pushed.foldl pushScrollbackLine (resizeState previous current.cells)).showing
            current.view) := by
  have hinted (hash : RowHash) (damaged : List RowDamage) sound :=
    (@brings_diffWith _ hash previous current.view pushed damaged held.sized formed lines
      sound).applied held.sized
  exact ⟨hinted rowHash [] fun _ _ _ unexamined => Bool.noConfusion unexamined, hinted⟩

end

/-! ### A screen that scrolls -/

/-- A screen of some one-column rows. -/
def lettersDown (letters : List UInt8) : GridState :=
  { cells := ⟨1, letters.length⟩
    grid := letters.map fun letter => ⟨[letter], 1, {}⟩
    maxScrollbackLines := 2 }

/-- A column of letters is a grid as it must be. -/
theorem lettersDown_formed {letters : List UInt8} (some_row : 1 ≤ letters.length)
    (few : letters.length ≤ kMaxGridRows) : (lettersDown letters).view.WellFormed where
  sized := by simp [lettersDown, GridState.view, Size.area]
  columns_pos := le_refl _
  columns_le := (by decide : 1 ≤ kMaxGridColumns)
  rows_pos := some_row
  rows_le := few
  cursor_row := some_row
  cursor_column := Nat.zero_le _

/-- Four rows move up by one; then, of two rows, the one that changed is all that
is named, and hashes as it did before. -/
theorem applyDelta_diff_letters :
    @applyDelta asciiVision
        (@diff asciiVision (lettersDown [97, 98, 99, 100]) (lettersDown [98, 99, 100, 101]).view
          [[⟨[97], 1, {}⟩]] []) (lettersDown [97, 98, 99, 100]) =
      some { lettersDown [98, 99, 100, 101] with scrollback := [⟨[97], 1, {}⟩] } ∧
    @applyDelta asciiVision
        (@diffWith asciiVision (fun _ => 0) (lettersDown [97, 98]) (lettersDown [97, 99]).view
          [] [⟨0, 0⟩, ⟨0, 1⟩]) (lettersDown [97, 98]) =
      some (lettersDown [97, 99]) := by
  have scrolled := (@applyDelta_diff asciiVision (lettersDown [97, 98, 99, 100])
    (lettersDown [98, 99, 100, 101]) [[⟨[97], 1, {}⟩]] (lettersDown_formed (by decide) (by decide))
    (lettersDown_formed (by decide) (by decide)) (by decide)).1
  have named := (@applyDelta_diff asciiVision (lettersDown [97, 98]) (lettersDown [97, 99]) []
    (lettersDown_formed (by decide) (by decide)) (lettersDown_formed (by decide) (by decide))
    (by decide)).2 (fun _ => 0) [⟨0, 0⟩, ⟨0, 1⟩] (by decide)
  refine ⟨scrolled.trans ?_, named.trans rfl⟩
  decide

end Ckmux
