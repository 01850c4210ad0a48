import Mathlib
import Ckmux.Data.Newest
import Ckmux.Grid.Inverse

/-!
# The history of a state, line by line

The flat buffer, its dead part and the moment that is reclaimed are storage. What a
state keeps is a queue of lines: a push adds one, fitted to the width, and the
newest as many as the state keeps remain; a resize fits every line again.
-/

namespace Ckmux

open Data (rows rows_append rows_drop rows_nil length_rows length_rtake rtake_of_length_le
  rtake_rtake_append)

/-- The lines a state keeps, oldest first. -/
def historyLines (state : GridState) : List (List Cell) :=
  rows (scrollbackWidth state) (scrollbackCells state)

/-- A history in order: a buffer of whole lines, a dead part that lies in it, and no
more lines than the state keeps. -/
structure GridState.Kept (state : GridState) : Prop where
  whole : ∃ count, state.scrollback.length = count * scrollbackWidth state ∧
    state.scrollbackStart ≤ count
  few : (historyLines state).length ≤ state.maxScrollbackLines

/-- A line of the history has a column. -/
theorem scrollbackWidth_pos (state : GridState) : 0 < scrollbackWidth state := by
  rw [scrollbackWidth]
  omega

/-- The lines behind the dead part. -/
theorem historyLines_eq {state : GridState} {count : Nat}
    (whole : state.scrollback.length = count * scrollbackWidth state) :
    historyLines state = (rows (scrollbackWidth state) state.scrollback).drop state.scrollbackStart := by
  have positive := scrollbackWidth_pos state
  have lines : scrollbackLines state = count - state.scrollbackStart := by
    rw [scrollbackLines, whole, Nat.mul_div_cancel _ positive]
  rw [historyLines, scrollbackCells, lines, List.take_of_length_le, rows_drop positive]
  rw [List.length_drop, whole, Nat.sub_mul]

/-- As many lines are left as there are, less those that are dropped. -/
theorem length_historyLines {state : GridState} {count : Nat}
    (whole : state.scrollback.length = count * scrollbackWidth state) :
    (historyLines state).length = count - state.scrollbackStart := by
  rw [historyLines_eq whole, List.length_drop, length_rows, whole,
    Nat.mul_div_cancel _ (scrollbackWidth_pos state)]

/-- What is live is the lines one after another. -/
theorem flatten_historyLines {state : GridState} (kept : state.Kept) :
    (historyLines state).flatten = scrollbackCells state := by
  obtain ⟨count, whole, live⟩ := kept.whole
  have positive := scrollbackWidth_pos state
  have lines : scrollbackLines state = count - state.scrollbackStart := by
    rw [scrollbackLines, whole, Nat.mul_div_cancel _ positive]
  apply @Data.flatten_rows _ _ (count - state.scrollbackStart) _ positive
  rw [scrollbackCells, lines, List.length_take, List.length_drop, whole, Nat.sub_mul, Nat.min_self]

/-- Every line of the history is as long as the others. -/
theorem length_of_mem_historyLines {state : GridState} {line : List Cell}
    (listed : line ∈ historyLines state) : line.length = scrollbackWidth state :=
  Data.length_of_mem_rows listed

/-- Dropping lines into the dead part, as many as are too many. -/
theorem trimmed_lines {state : GridState} {count : Nat}
    (whole : state.scrollback.length = count * scrollbackWidth state)
    (live : state.scrollbackStart ≤ count) {start : Nat}
    (trims : start = state.scrollbackStart + (scrollbackLines state - state.maxScrollbackLines)) :
    start ≤ count ∧
      historyLines { state with scrollbackStart := start } =
        (historyLines state).rtake state.maxScrollbackLines := by
  have lines : scrollbackLines state = count - state.scrollbackStart := by
    rw [scrollbackLines, whole, Nat.mul_div_cancel _ (scrollbackWidth_pos state)]
  have inside : start ≤ count := by omega
  refine ⟨inside, ?_⟩
  rw [@historyLines_eq { state with scrollbackStart := start } count whole, List.rtake,
    length_historyLines whole, historyLines_eq whole, List.drop_drop, trims, lines]
  rfl

/-- Keeping the newest lines, whether or not the dead part is reclaimed. -/
theorem enforceScrollbackCapacity_kept {state : GridState} {count : Nat}
    (whole : state.scrollback.length = count * scrollbackWidth state)
    (live : state.scrollbackStart ≤ count) :
    (enforceScrollbackCapacity state).Kept ∧
      historyLines (enforceScrollbackCapacity state) =
        (historyLines state).rtake state.maxScrollbackLines := by
  have positive := scrollbackWidth_pos state
  -- What is kept is few enough, and the limit does not change.
  suffices lines : (∃ kept, (enforceScrollbackCapacity state).scrollback.length =
        kept * scrollbackWidth (enforceScrollbackCapacity state) ∧
        (enforceScrollbackCapacity state).scrollbackStart ≤ kept) ∧
      (enforceScrollbackCapacity state).maxScrollbackLines = state.maxScrollbackLines ∧
      historyLines (enforceScrollbackCapacity state) =
        (historyLines state).rtake state.maxScrollbackLines by
    refine ⟨⟨lines.1, ?_⟩, lines.2.2⟩
    rw [lines.2.2, lines.2.1, length_rtake]
    omega
  unfold enforceScrollbackCapacity
  by_cases forgetful : state.maxScrollbackLines = 0
  · have none_kept : (historyLines state).rtake state.maxScrollbackLines = [] := by
      rw [forgetful, List.rtake_zero]
    rw [if_pos forgetful, none_kept]
    have emptied : ([] : List Cell).length = 0 * scrollbackWidth state := by rw [Nat.zero_mul]; rfl
    refine ⟨⟨0, emptied, le_refl _⟩, rfl, ?_⟩
    rw [@historyLines_eq { state with scrollback := [], scrollbackStart := 0 } _ emptied]
    exact (congrArg (List.drop 0) (rows_nil _))
  · rw [if_neg forgetful]
    dsimp only
    obtain ⟨inside, lines⟩ := trimmed_lines whole live rfl
    have trims : (if scrollbackLines state > state.maxScrollbackLines then
        { state with scrollbackStart :=
            state.scrollbackStart + (scrollbackLines state - state.maxScrollbackLines) }
        else state) = { state with scrollbackStart :=
            state.scrollbackStart + (scrollbackLines state - state.maxScrollbackLines) } := by
      split
      · rfl
      · rw [Nat.sub_eq_zero_of_le (by omega), Nat.add_zero]
    rw [trims]
    generalize state.scrollbackStart + (scrollbackLines state - state.maxScrollbackLines) = start at *
    have reclaimed : (state.scrollback.drop (start * scrollbackWidth state)).length =
        (count - start) * scrollbackWidth state := by
      rw [List.length_drop, whole, Nat.sub_mul]
    split
    · refine ⟨⟨count - start, reclaimed, Nat.zero_le _⟩, rfl, ?_⟩
      have behind := @historyLines_eq { state with
          scrollback := state.scrollback.drop (start * scrollbackWidth state)
          scrollbackStart := 0 } _ reclaimed
      rw [List.drop_zero] at behind
      rw [← lines, @historyLines_eq { state with scrollbackStart := start } _ whole]
      exact behind.trans (rows_drop positive start)
    · exact ⟨⟨count, whole, inside⟩, rfl, lines⟩

/-- Dropping lines leaves the limit. -/
theorem enforceScrollbackCapacity_limit (state : GridState) :
    (enforceScrollbackCapacity state).maxScrollbackLines = state.maxScrollbackLines := by
  unfold enforceScrollbackCapacity
  dsimp only
  split
  · rfl
  · split <;> split <;> rfl

/-- Where no line is too many, enforcing the limit drops none. -/
theorem GridState.Kept.capacity {state : GridState} (kept : state.Kept) :
    (enforceScrollbackCapacity state).Kept ∧
      historyLines (enforceScrollbackCapacity state) = historyLines state := by
  obtain ⟨count, whole, live⟩ := kept.whole
  have enforced := enforceScrollbackCapacity_kept whole live
  rwa [rtake_of_length_le kept.few] at enforced

/-- A history depends on nothing else a state holds. -/
theorem GridState.Kept.congr {one other : GridState} (kept : one.Kept)
    (scrollback : other.scrollback = one.scrollback)
    (start : other.scrollbackStart = one.scrollbackStart)
    (limit : other.maxScrollbackLines = one.maxScrollbackLines)
    (width : other.cells.width = one.cells.width) :
    other.Kept ∧ historyLines other = historyLines one := by
  have same_width : scrollbackWidth other = scrollbackWidth one := by
    rw [scrollbackWidth, scrollbackWidth, width]
  obtain ⟨count, whole, live⟩ := kept.whole
  have other_whole : other.scrollback.length = count * scrollbackWidth other := by
    rw [scrollback, whole, same_width]
  have lines : historyLines other = historyLines one := by
    rw [historyLines_eq other_whole, historyLines_eq whole, scrollback, start, same_width]
  exact ⟨⟨⟨count, other_whole, start ▸ live⟩, by rw [lines, limit]; exact kept.few⟩, lines⟩

/-- A state with no history. -/
theorem kept_of_empty {state : GridState} (scrollback : state.scrollback = [])
    (start : state.scrollbackStart = 0) : state.Kept ∧ historyLines state = [] := by
  have whole : state.scrollback.length = 0 * scrollbackWidth state := by
    rw [scrollback, Nat.zero_mul]
    rfl
  have lines : historyLines state = [] := by
    rw [historyLines_eq whole, scrollback, rows_nil, List.drop_nil]
  exact ⟨⟨⟨0, whole, start.le⟩, by rw [lines]; exact Nat.zero_le _⟩, lines⟩

section

variable [CkVision]

/-- A line is made as long as is wanted. -/
theorem length_fitLine (width : Nat) (line : List Cell) : (fitLine width line).length = width := by
  rw [fitLine, List.length_append, List.length_take, List.length_replicate]
  omega

/-- A line of the right length stays. -/
theorem fitLine_of_length {width : Nat} {line : List Cell} (whole : line.length = width) :
    fitLine width line = line := by
  rw [fitLine, ← whole, List.take_length, Nat.sub_self, List.replicate_zero, List.append_nil]

/-- Lines of the right length stay. -/
theorem map_fitLine {width : Nat} {lines : List (List Cell)}
    (whole : ∀ line ∈ lines, line.length = width) : lines.map (fitLine width) = lines := by
  have each : ∀ line ∈ lines, fitLine width line = id line := fun line listed =>
    fitLine_of_length (whole line listed)
  rw [List.map_congr_left each, List.map_id]

/-- A push adds a line and keeps the newest. -/
theorem pushScrollbackLine_kept {state : GridState} (kept : state.Kept) (line : List Cell) :
    (pushScrollbackLine state line).Kept ∧
      historyLines (pushScrollbackLine state line) =
        (historyLines state ++ [fitLine (scrollbackWidth state) line]).rtake
          state.maxScrollbackLines := by
  obtain ⟨count, whole, live⟩ := kept.whole
  have positive := scrollbackWidth_pos state
  unfold pushScrollbackLine
  by_cases forgetful : state.maxScrollbackLines = 0
  · rw [if_pos forgetful, forgetful, List.rtake_zero]
    have few := kept.few
    rw [forgetful, Nat.le_zero, List.length_eq_zero_iff] at few
    exact ⟨kept, few⟩
  · rw [if_neg forgetful]
    have fitted := length_fitLine (scrollbackWidth state) line
    have longer : (state.scrollback ++ fitLine (scrollbackWidth state) line).length =
        (count + 1) * scrollbackWidth state := by
      rw [List.length_append, whole, fitted, Nat.succ_mul]
    have enforced := @enforceScrollbackCapacity_kept
      { state with scrollback := state.scrollback ++ fitLine (scrollbackWidth state) line } _ longer
      (Nat.le_succ_of_le live)
    have added : historyLines
        { state with scrollback := state.scrollback ++ fitLine (scrollbackWidth state) line } =
          historyLines state ++ [fitLine (scrollbackWidth state) line] := by
      rw [@historyLines_eq { state with
          scrollback := state.scrollback ++ fitLine (scrollbackWidth state) line } _ longer,
        historyLines_eq whole]
      change (rows (scrollbackWidth state) (state.scrollback ++ _)).drop state.scrollbackStart = _
      have one : rows (scrollbackWidth state) (fitLine (scrollbackWidth state) line) =
          [fitLine (scrollbackWidth state) line] := by
        have alone := Data.rows_line_append positive fitted []
        rwa [List.append_nil, rows_nil] at alone
      rw [rows_append positive whole, one, List.drop_append_of_le_length]
      rw [length_rows, whole, Nat.mul_div_cancel _ positive]
      exact live
    rw [added] at enforced
    exact enforced

/-- A line more leaves the limit. -/
theorem pushScrollbackLine_limit (state : GridState) (line : List Cell) :
    (pushScrollbackLine state line).maxScrollbackLines = state.maxScrollbackLines := by
  unfold pushScrollbackLine
  split
  · rfl
  · exact enforceScrollbackCapacity_limit _

/-- Pushing lines one after another keeps the newest of them all. -/
theorem foldl_pushScrollbackLine_kept {state : GridState} (kept : state.Kept)
    (lines : List (List Cell)) :
    (lines.foldl pushScrollbackLine state).Kept ∧
      (lines.foldl pushScrollbackLine state).maxScrollbackLines = state.maxScrollbackLines ∧
      historyLines (lines.foldl pushScrollbackLine state) =
        (historyLines state ++ lines.map (fitLine (scrollbackWidth state))).rtake
          state.maxScrollbackLines := by
  induction lines generalizing state with
  | nil =>
      rw [List.map_nil, List.append_nil, rtake_of_length_le kept.few]
      exact ⟨kept, rfl, rfl⟩
  | cons line lines ih =>
      obtain ⟨pushed, added⟩ := pushScrollbackLine_kept kept line
      have limit := pushScrollbackLine_limit state line
      have width : scrollbackWidth (pushScrollbackLine state line) = scrollbackWidth state := by
        have size := congrArg GridView.cells (pushScrollbackLine_view state line)
        simp only [GridState.view] at size
        rw [scrollbackWidth, scrollbackWidth, size]
      obtain ⟨all, same, newest⟩ := ih pushed
      rw [List.foldl_cons]
      refine ⟨all, same.trans limit, ?_⟩
      rw [newest, added, limit, width, rtake_rtake_append, List.map_cons, List.append_assoc,
        List.singleton_append]

/-- A resize fits every line to the new width. -/
theorem resizeState_kept {state : GridState} (kept : state.Kept) (cells : Size) :
    (resizeState state cells).Kept ∧
      (resizeState state cells).maxScrollbackLines = state.maxScrollbackLines ∧
      historyLines (resizeState state cells) =
        (historyLines state).map (fitLine (max 1 cells.width)) := by
  have unfitted (same : state.cells.width = cells.width) :
      (historyLines state).map (fitLine (max 1 cells.width)) = historyLines state := by
    apply map_fitLine
    intro line listed
    rw [length_of_mem_historyLines listed, scrollbackWidth, same]
  unfold resizeState
  split
  · rename_i same
    exact ⟨kept, rfl, (unfitted (congrArg Size.width same)).symm⟩
  · dsimp only
    split
    · rename_i same
      rw [unfitted same]
      obtain ⟨blank, lines⟩ := @GridState.Kept.congr _ { state with
        cells := cells
        grid := List.replicate cells.area blankCell
        cursor := clampCursor cells state.cursor } kept rfl rfl rfl same.symm
      obtain ⟨enforced, still⟩ := blank.capacity
      exact ⟨enforced, enforceScrollbackCapacity_limit _, still.trans lines⟩
    · obtain ⟨blank, none_yet⟩ := @kept_of_empty { state with
        cells := cells
        grid := List.replicate cells.area blankCell
        cursor := clampCursor cells state.cursor
        scrollback := []
        scrollbackStart := 0 } rfl rfl
      obtain ⟨pushed, limit, lines⟩ := foldl_pushScrollbackLine_kept blank (historyLines state)
      refine ⟨pushed, limit, lines.trans ?_⟩
      rw [none_yet, List.nil_append, rtake_of_length_le]
      · rfl
      · rw [List.length_map]
        exact kept.few

/-- The history of a state that a delta has been applied to: its own lines, fitted
to the new width, and the pushed ones behind them. -/
theorem advanced_kept {state : GridState} (kept : state.Kept) (current : GridView)
    (pushed : List (List Cell)) :
    (advanced state current pushed).Kept ∧
      (advanced state current pushed).maxScrollbackLines = state.maxScrollbackLines ∧
      historyLines (advanced state current pushed) =
        ((historyLines state ++ pushed).map (fitLine (max 1 current.cells.width))).rtake
          state.maxScrollbackLines := by
  obtain ⟨resized, limit, fitted⟩ := resizeState_kept kept current.cells
  obtain ⟨full, full_limit, newest⟩ := foldl_pushScrollbackLine_kept resized pushed
  have size : (pushed.foldl pushScrollbackLine (resizeState state current.cells)).cells =
      current.cells :=
    (congrArg GridView.cells (foldl_pushScrollbackLine_view pushed _)).trans
      (resizeState_cells state current.cells)
  obtain ⟨shown, lines⟩ := @GridState.Kept.congr _ (advanced state current pushed) full rfl rfl rfl
    (congrArg Size.width size).symm
  refine ⟨shown, full_limit.trans limit, ?_⟩
  rw [lines, newest, fitted, limit, scrollbackWidth, resizeState_cells, List.map_append]

end

end Ckmux
