import Mathlib
import Ckmux.Grid.History

/-!
# The history as a queue of lines

A reader scrolls through the newest lines, as many as were asked for, each as wide as the
screen. That is `PlainHistory`: a queue that drops its oldest line. The buffer the program
keeps instead, with its dead part and its lines cut by dividing, holds the same at every
moment of every history, and never twice as many lines as may be kept.
-/

namespace Ckmux

open Data (Recent length_rtake rtake_of_length_le)

/-- What happens to a history. -/
inductive HistoryStep where
  | push (line : List Cell)
  | limit (lines : Nat)
  | resize (cells : Size)
deriving DecidableEq

/-- The newest lines, and how wide they are. -/
structure PlainHistory where
  width : Nat
  recent : Recent (List Cell)

/-- A buffer of lines that are not twice as many as may be kept: none where none may be. -/
structure GridState.Compact (state : GridState) : Prop where
  stored : ∃ rows, state.scrollback.length = rows * scrollbackWidth state ∧
    (state.maxScrollbackLines = 0 → rows = 0) ∧
    (0 < state.maxScrollbackLines → rows < 2 * state.maxScrollbackLines)

/-- The dead part goes before it outgrows what is kept. -/
theorem enforceScrollbackCapacity_compact {state : GridState} {count : Nat}
    (whole : state.scrollback.length = count * scrollbackWidth state)
    (live : state.scrollbackStart ≤ count) : (enforceScrollbackCapacity state).Compact := by
  have lines : scrollbackLines state = count - state.scrollbackStart := by
    rw [scrollbackLines, whole, Nat.mul_div_cancel _ (scrollbackWidth_pos state)]
  have counted (start : Nat) : scrollbackLines { state with scrollbackStart := start } =
      count - start := by
    rw [scrollbackLines]
    change state.scrollback.length / scrollbackWidth state - start = _
    rw [whole, Nat.mul_div_cancel _ (scrollbackWidth_pos state)]
  unfold enforceScrollbackCapacity
  by_cases forgetful : state.maxScrollbackLines = 0
  · rw [if_pos forgetful]
    exact ⟨0, (Nat.zero_mul _).symm, fun _ => rfl, fun some_kept => by
      change 0 < state.maxScrollbackLines at some_kept
      omega⟩
  · rw [if_neg forgetful]
    dsimp only
    have trims : (if scrollbackLines state > state.maxScrollbackLines then
        { state with scrollbackStart :=
            state.scrollbackStart + (scrollbackLines state - state.maxScrollbackLines) }
        else state) = { state with scrollbackStart :=
            state.scrollbackStart + (scrollbackLines state - state.maxScrollbackLines) } := by
      split
      · rfl
      · rw [Nat.sub_eq_zero_of_le (by omega), Nat.add_zero]
    rw [trims]
    have start_eq : state.scrollbackStart + (scrollbackLines state - state.maxScrollbackLines) =
        state.scrollbackStart + (count - state.scrollbackStart - state.maxScrollbackLines) := by
      rw [lines]
    generalize state.scrollbackStart + (scrollbackLines state - state.maxScrollbackLines) = start
      at start_eq ⊢
    rw [counted start]
    split
    · rename_i reclaims
      refine ⟨count - start, ?_, fun none_kept => absurd none_kept forgetful, fun some_kept => ?_⟩
      · change (state.scrollback.drop (start * scrollbackWidth state)).length =
          (count - start) * scrollbackWidth state
        rw [List.length_drop, whole, Nat.sub_mul]
      · change count - start < 2 * state.maxScrollbackLines
        change start ≥ count - start ∧ start > 0 at reclaims
        omega
    · rename_i stays
      refine ⟨count, whole, fun none_kept => absurd none_kept forgetful, fun some_kept => ?_⟩
      change count < 2 * state.maxScrollbackLines
      change ¬(start ≥ count - start ∧ start > 0) at stays
      omega

section

variable [CkVision]

/-- What each step does to the state. -/
def historyStep (state : GridState) : HistoryStep → GridState
  | .push line => pushScrollbackLine state line
  | .limit lines => setHistoryLimit state lines
  | .resize cells => resizeState state cells

/-- No lines, on a screen of a size. -/
def PlainHistory.blank (cells : Size) (limit : Nat) : PlainHistory :=
  ⟨max 1 cells.width, ⟨limit, [], Nat.zero_le _⟩⟩

/-- What each step does to a plain history. -/
def PlainHistory.step (plain : PlainHistory) : HistoryStep → PlainHistory
  | .push line => { plain with recent := plain.recent.push (fitLine plain.width line) }
  | .limit lines => { plain with recent := plain.recent.keep lines }
  | .resize cells =>
      let width := max 1 cells.width
      if plain.width = width then plain else ⟨width, plain.recent.map (fitLine width)⟩

/-! ### The buffer stays small -/

/-- A line more keeps the storage compact. -/
theorem pushScrollbackLine_compact {state : GridState} (kept : state.Kept) (compact : state.Compact)
    (line : List Cell) : (pushScrollbackLine state line).Compact := by
  obtain ⟨count, whole, live⟩ := kept.whole
  unfold pushScrollbackLine
  split
  · exact compact
  · have longer : (state.scrollback ++ fitLine (scrollbackWidth state) line).length =
        (count + 1) * scrollbackWidth state := by
      rw [List.length_append, whole, length_fitLine, Nat.succ_mul]
    exact @enforceScrollbackCapacity_compact
      { state with scrollback := state.scrollback ++ fitLine (scrollbackWidth state) line } _ longer
      (Nat.le_succ_of_le live)

/-- Lines keep the storage compact. -/
theorem foldl_pushScrollbackLine_compact {state : GridState} (kept : state.Kept)
    (compact : state.Compact) (lines : List (List Cell)) :
    (lines.foldl pushScrollbackLine state).Compact := by
  induction lines generalizing state with
  | nil => exact compact
  | cons line lines ih =>
      exact ih (pushScrollbackLine_kept kept line).1 (pushScrollbackLine_compact kept compact line)

omit [CkVision] in
/-- No storage at all is compact. -/
theorem compact_of_empty {state : GridState} (scrollback : state.scrollback = []) :
    state.Compact := by
  refine ⟨0, ?_, fun _ => rfl, fun some_kept => by omega⟩
  rw [scrollback, Nat.zero_mul]
  rfl

/-- Another size keeps the storage compact. -/
theorem resizeState_compact {state : GridState} (kept : state.Kept) (compact : state.Compact)
    (cells : Size) : (resizeState state cells).Compact := by
  unfold resizeState
  split
  · exact compact
  · dsimp only
    split
    · rename_i same
      obtain ⟨blank, _⟩ := @GridState.Kept.congr _ { state with
        cells := cells
        grid := List.replicate cells.area blankCell
        cursor := clampCursor cells state.cursor } kept rfl rfl rfl same.symm
      obtain ⟨count, whole, live⟩ := blank.whole
      exact enforceScrollbackCapacity_compact whole live
    · exact foldl_pushScrollbackLine_compact (kept_of_empty rfl rfl).1 (compact_of_empty rfl) _

/-! ### The buffer holds the lines -/

/-- A state whose history is some plain one, in a buffer that is not too large. -/
structure Refines (state : GridState) (plain : PlainHistory) : Prop where
  kept : state.Kept
  compact : state.Compact
  width : scrollbackWidth state = plain.width
  limit : state.maxScrollbackLines = plain.recent.limit
  lines : historyLines state = plain.recent.entries

/-- A blank state has the blank history. -/
theorem blankState_refines (cells : Size) (limit : Nat) :
    Refines (blankState cells limit) (PlainHistory.blank cells limit) where
  kept := (kept_of_empty rfl rfl).1
  compact := compact_of_empty rfl
  width := rfl
  limit := rfl
  lines := (kept_of_empty rfl rfl).2

/-- A line more leaves how wide lines are. -/
theorem scrollbackWidth_pushScrollbackLine (state : GridState) (line : List Cell) :
    scrollbackWidth (pushScrollbackLine state line) = scrollbackWidth state := by
  have size := congrArg GridView.cells (pushScrollbackLine_view state line)
  simp only [GridState.view] at size
  rw [scrollbackWidth, scrollbackWidth, size]

/-- One step of a history, in the buffer and on the plain lines. -/
theorem Refines.step {state : GridState} {plain : PlainHistory} (refines : Refines state plain)
    (event : HistoryStep) : Refines (historyStep state event) (plain.step event) := by
  cases event with
  | push line =>
      obtain ⟨pushed, lines⟩ := pushScrollbackLine_kept refines.kept line
      refine ⟨pushed, pushScrollbackLine_compact refines.kept refines.compact line, ?_, ?_, ?_⟩
      · exact (scrollbackWidth_pushScrollbackLine state line).trans refines.width
      · exact (pushScrollbackLine_limit state line).trans refines.limit
      · rw [historyStep, lines, refines.lines, refines.width, refines.limit]
        rfl
  | limit lines =>
      obtain ⟨count, whole, live⟩ := refines.kept.whole
      obtain ⟨kept, newest⟩ := @enforceScrollbackCapacity_kept
        { state with maxScrollbackLines := lines } count whole live
      refine ⟨kept, @enforceScrollbackCapacity_compact
        { state with maxScrollbackLines := lines } count whole live, ?_, ?_, ?_⟩
      · have size := congrArg GridView.cells
          (enforceScrollbackCapacity_view { state with maxScrollbackLines := lines })
        simp only [GridState.view] at size
        rw [historyStep, setHistoryLimit, scrollbackWidth, size]
        exact refines.width
      · exact enforceScrollbackCapacity_limit _
      · rw [historyStep, setHistoryLimit, newest]
        exact congrArg (fun entries => entries.rtake lines) refines.lines
  | resize cells =>
      obtain ⟨kept, limit, lines⟩ := resizeState_kept refines.kept cells
      have width : scrollbackWidth (resizeState state cells) = max 1 cells.width := by
        rw [scrollbackWidth, resizeState_cells]
      have compact := resizeState_compact refines.kept refines.compact cells
      rw [PlainHistory.step]
      split
      · rename_i same
        refine ⟨kept, compact, width.trans same.symm, limit.trans refines.limit, ?_⟩
        have unfitted : (historyLines state).map (fitLine (max 1 cells.width)) =
            historyLines state := by
          refine map_fitLine fun line listed => ?_
          rw [length_of_mem_historyLines listed, refines.width, same]
        exact lines.trans (unfitted.trans refines.lines)
      · refine ⟨kept, compact, width, limit.trans refines.limit, lines.trans ?_⟩
        rw [refines.lines]
        rfl

/-- A whole history, in the buffer and on the plain lines. -/
theorem Refines.run {state : GridState} {plain : PlainHistory} (refines : Refines state plain)
    (events : List HistoryStep) :
    Refines (events.foldl historyStep state) (events.foldl PlainHistory.step plain) := by
  induction events generalizing state plain with
  | nil => exact refines
  | cons event events ih => exact ih (refines.step event)

omit [CkVision] in
/-- As many lines are counted as the plain history has. -/
theorem Refines.counted {state : GridState} {plain : PlainHistory} (refines : Refines state plain) :
    scrollbackLines state = plain.recent.entries.length := by
  obtain ⟨count, whole, _⟩ := refines.kept.whole
  rw [← refines.lines, length_historyLines whole, scrollbackLines, whole,
    Nat.mul_div_cancel _ (scrollbackWidth_pos state)]

/-- After any pushes, limits and resizes the live part of the buffer is the lines of the plain
history, one after another; there are as many as the program counts, and the buffer holds
fewer than twice as many as may be kept. -/
theorem scrollback_is_bounded_list (cells : Size) (limit : Nat) (events : List HistoryStep) :
    let state := events.foldl historyStep (blankState cells limit)
    let plain := events.foldl PlainHistory.step (PlainHistory.blank cells limit)
    scrollbackCells state = plain.recent.entries.flatten ∧
      scrollbackLines state = plain.recent.entries.length ∧
      ∃ rows, state.scrollback.length = rows * scrollbackWidth state ∧
        (state.maxScrollbackLines = 0 → rows = 0) ∧
        (0 < state.maxScrollbackLines → rows < 2 * state.maxScrollbackLines) := by
  have refines := (blankState_refines cells limit).run events
  refine ⟨?_, refines.counted, refines.compact.stored⟩
  rw [← flatten_historyLines refines.kept, refines.lines]

end

end Ckmux
