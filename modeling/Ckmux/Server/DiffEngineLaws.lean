import Mathlib
import Ckmux.Grid.Followers
import Ckmux.Server.DiffEngine

/-!
# What a tick says

`sayScreen_taken` is the whole of it: whoever shows what the server believes takes
what is said, and comes to show what the server then believes, with the lines that
scrolled off pushed to whatever history it keeps. That the belief is then the
terminal's own screen needs the damage report to be sound.
-/

namespace Ckmux

open Data (row)
open Proto (GridDelta GridOp)

/-! ### The damage report -/

/-- A row the damage report names. -/
def TerminalDamage.names (damage : TerminalDamage) (index : Nat) : Bool :=
  damage.full || match damage.rows[index]? with
    | some span => !span.empty
    | none => false

/-- The hints a report becomes. -/
def hintsOf (source : TerminalSubsession) : List RowDamage :=
  if source.damage.full then [] else rowHints source.damage source.status.cells.height

/-- A row that is not looked at is one the report does not name. -/
theorem unnamed_of_unexamined {source : TerminalSubsession} {index : Nat}
    (inside : index < source.status.cells.height)
    (unexamined : examined (hintsOf source) index = false) :
    source.damage.names index = false := by
  unfold hintsOf at unexamined
  rw [TerminalDamage.names]
  by_cases full : source.damage.full
  · rw [if_pos full] at unexamined
    cases unexamined
  rw [if_neg full] at unexamined
  have same : (rowHints source.damage source.status.cells.height)[index]? =
      source.damage.rows[index]? := List.getElem?_take_of_lt inside
  rw [Bool.not_eq_true] at full
  rw [full, Bool.false_or]
  unfold examined at unexamined
  split at unexamined
  · cases unexamined
  · rw [same] at unexamined
    exact unexamined

/-! ### Lines that scrolled off -/

/-- A line sent for the history is as wide as the screen. -/
theorem newestHistoryLines_length {source : TerminalSubsession} {columns count : Nat}
    (positive : 1 ≤ columns) {line : List Cell}
    (listed : line ∈ newestHistoryLines source columns count) : line.length = columns := by
  unfold newestHistoryLines at listed
  split at listed
  · cases listed
  · dsimp only at listed
    rw [Nat.max_eq_right positive] at listed
    obtain ⟨index, within, rfl⟩ := List.mem_map.mp listed
    rw [List.mem_range'_1] at within
    have whole := Nat.div_mul_le_self source.scrollback.length columns
    have room := @Data.row_end_le columns (source.scrollback.length / columns) index (by omega)
    rw [row, List.length_take, List.length_drop]
    omega

section

variable [CkVision]

/-! ### What is said of a screen -/

/-- A difference between screens of one size pushes lines and then draws. -/
theorem diffWith_same_size (hash : RowHash) {previous : GridState} {current : GridView}
    (pushed : List (List Cell)) (damaged : List RowDamage)
    (sized : previous.grid.length = previous.cells.area) (formed : current.WellFormed)
    (same : previous.cells = current.cells) :
    ∃ drawing : List GridOp, (∀ op ∈ drawing, Draws op) ∧
      diffWith hash previous current pushed damaged = pushOps pushed ++ drawing := by
  have geometry : previous.cells = current.cells ∧ previous.grid.length = current.cells.area ∧
      current.grid.length = current.cells.area := ⟨same, same ▸ sized, formed.sized⟩
  have changedRows (mirror : List Cell) (looked : Nat → Bool) :
      ∀ op ∈ (List.range current.cells.height).flatMap fun index =>
        if looked index then
          emitChangedRow index (row current.cells.width mirror index)
            (row current.cells.width current.grid index)
        else [], Draws op := by
    intro op listed
    obtain ⟨index, _, emitted⟩ := List.mem_flatMap.mp listed
    split at emitted
    · unfold emitChangedRow at emitted
      split at emitted
      · cases emitted
      · obtain ⟨span, _, rfl⟩ := List.mem_map.mp emitted
        trivial
    · cases emitted
  have grid : ∀ op ∈ gridOps hash previous.grid current damaged, Draws op := by
    unfold gridOps
    dsimp only
    split
    · exact changedRows _ _
    · intro op listed
      rcases List.mem_cons.mp listed with rfl | listed
      · trivial
      · exact changedRows _ _ op listed
  unfold diffWith
  dsimp only
  rw [if_pos geometry, if_neg (not_not.mpr geometry), if_pos ⟨formed.columns_pos, formed.rows_pos⟩,
    List.nil_append, List.append_assoc, List.append_assoc, List.append_assoc]
  refine ⟨_, ?_, rfl⟩
  intro op listed
  rcases List.mem_append.mp listed with drawn | listed
  · exact grid op drawn
  rcases List.mem_append.mp listed with moved | listed
  · split at moved
    · cases moved
    · rw [List.mem_singleton.mp moved]
      trivial
  rcases List.mem_append.mp listed with switched | named
  · split at switched
    · cases switched
    · rw [List.mem_singleton.mp switched]
      trivial
  · split at named
    · cases named
    · rw [List.mem_singleton.mp named]
      trivial

/-- Whoever shows what a difference was made from takes it if that does, and then
shows the same over a history of its own. -/
theorem diffWith_taken {hash : RowHash} {previous mirror after : GridState} {current : GridView}
    {pushed : List (List Cell)} {damaged : List RowDamage} (alike : previous.view = mirror.view)
    (sized : previous.grid.length = previous.cells.area) (formed : current.WellFormed)
    (lines : ∀ line ∈ pushed, 1 ≤ line.length ∧ line.length ≤ current.cells.width)
    (same : previous.cells = current.cells)
    (taken : applyDelta (diffWith hash previous current pushed damaged) previous = some after) :
    after.cells = current.cells ∧
      applyDelta (diffWith hash previous current pushed damaged) mirror =
        some (advanced mirror after.view pushed) := by
  have mirror_size : mirror.cells = current.cells :=
    (congrArg GridView.cells alike).symm.trans same
  obtain ⟨drawing, draws, ops⟩ := diffWith_same_size hash pushed damaged sized formed same
  obtain ⟨mirrored, shown⟩ := applyDelta_congr alike taken
  rw [ops] at mirrored shown ⊢
  have pushes := @brings_pushes _ mirror pushed (mirror_size ▸ formed.columns_le)
    (fun line listed => mirror_size ▸ lines line listed)
  rw [List.foldl_append, pushes.performed] at mirrored shown
  have pushed_size : (pushed.foldl pushScrollbackLine mirror).cells = current.cells :=
    (congrArg GridView.cells (foldl_pushScrollbackLine_view pushed mirror)).trans mirror_size
  have drawn := foldl_performOp_draws draws (pushed.foldl pushScrollbackLine mirror)
  have after_size : after.cells = current.cells :=
    (congrArg GridView.cells shown).symm.trans (drawn.1.trans pushed_size)
  refine ⟨after_size, ?_⟩
  rw [mirrored, drawn.2, shown, advanced]
  rw [resizeState_same (show mirror.cells = after.view.cells from mirror_size.trans after_size.symm)]

/-- What is said is taken by whoever shows what is believed, and leaves it showing
what is then believed. -/
theorem sayScreen_taken {believed mirror : GridState} {source : TerminalSubsession}
    {pushed : List (List Cell)} (alike : believed.view = mirror.view)
    (sized : believed.grid.length = believed.cells.area) (formed : (viewOf source).WellFormed)
    (lines : ∀ line ∈ pushed, 1 ≤ line.length ∧ line.length ≤ source.status.cells.width) :
    applyDelta (sayScreen believed source pushed).1 mirror =
      some (advanced mirror (sayScreen believed source pushed).2.view pushed) := by
  have mirror_sized : mirror.grid.length = mirror.cells.area := by
    have grid := congrArg GridView.grid alike
    have cells := congrArg GridView.cells alike
    simp only [GridState.view] at grid cells
    rw [← grid, ← cells, sized]
  have repainted := (@brings_fullRepaint _ mirror _ pushed mirror_sized formed lines).applied
    mirror_sized
  unfold sayScreen
  dsimp only
  split
  · exact repainted
  · rename_i same
    split
    · rename_i after taken
      exact (diffWith_taken alike sized formed lines (not_not.mp same) taken).2
    · exact repainted

/-- What is believed after a tick has the terminal's size, and as many cells as it
says. -/
theorem sayScreen_size {believed : GridState} {source : TerminalSubsession}
    {pushed : List (List Cell)} (sized : believed.grid.length = believed.cells.area)
    (formed : (viewOf source).WellFormed)
    (lines : ∀ line ∈ pushed, 1 ≤ line.length ∧ line.length ≤ source.status.cells.width) :
    (sayScreen believed source pushed).2.cells = source.status.cells ∧
      (sayScreen believed source pushed).2.grid.length =
        (sayScreen believed source pushed).2.cells.area := by
  have repainted : (stateOf (viewOf source)).cells = source.status.cells ∧
      (stateOf (viewOf source)).grid.length = (stateOf (viewOf source)).cells.area :=
    ⟨rfl, formed.sized⟩
  unfold sayScreen
  dsimp only
  split
  · exact repainted
  · rename_i same
    split
    · rename_i after taken
      exact ⟨(diffWith_taken rfl sized formed lines (not_not.mp same) taken).1,
        applyDelta_sized taken⟩
    · exact repainted

/-- Where the size is the one believed, and the rows the report does not name are as
believed, or the size is another, the belief becomes the terminal's own screen. -/
theorem sayScreen_exact {believed : GridState} {source : TerminalSubsession}
    {pushed : List (List Cell)} (sized : believed.grid.length = believed.cells.area)
    (formed : (viewOf source).WellFormed)
    (lines : ∀ line ∈ pushed, 1 ≤ line.length ∧ line.length ≤ source.status.cells.width)
    (sound : believed.cells = source.status.cells → ∀ index < source.status.cells.height,
      source.damage.names index = false → row source.status.cells.width believed.grid index =
        row source.status.cells.width source.cells index) :
    (sayScreen believed source pushed).2.view = viewOf source := by
  have followed := @brings_diffWith _ rowHash believed (viewOf source) pushed (hintsOf source) sized
    formed lines fun same index inside unexamined =>
      sound same index inside (unnamed_of_unexamined inside unexamined)
  have taken := followed.applied sized
  unfold sayScreen
  dsimp only
  split
  · rfl
  · split
    · rename_i after advanced
      rw [hintsOf, ← diff] at taken
      rw [taken] at advanced
      cases advanced
      rfl
    · rfl

/-! ### A tick -/

/-- The lines a tick pushes. -/
def pushedLines (source : TerminalSubsession) : List (List Cell) :=
  if source.flooded then []
  else newestHistoryLines source source.status.cells.width source.damage.scrollbackPushed

/-- What a tick does to a differ, and whether there is a delta. -/
inductive Flushed (differ : TerminalDiffer) (id : UInt64) (source : TerminalSubsession) :
    Option GridDelta × TerminalDiffer → Prop where
  | quiet (still : source.damage.any = false) : Flushed differ id source (none, differ)
  | owing (calm : source.flooded = false) (diverged : differ.historyDiverged = true) :
      Flushed differ id source (none, { differ with needsSnapshot := true })
  | silent (nothing : (sayScreen differ.believed source (pushedLines source)).1 = []) :
      Flushed differ id source (none, { differ with
        believed := (sayScreen differ.believed source (pushedLines source)).2
        historyDiverged := differ.historyDiverged || source.flooded })
  | told (something : (sayScreen differ.believed source (pushedLines source)).1 ≠ []) :
      Flushed differ id source
        (some ⟨id, differ.sequence + 1, (sayScreen differ.believed source (pushedLines source)).1⟩,
          { differ with
            believed := (sayScreen differ.believed source (pushedLines source)).2
            historyDiverged := differ.historyDiverged || source.flooded
            sequence := differ.sequence + 1 })

/-- A flush does what a flush should. -/
theorem flush_flushed (differ : TerminalDiffer) (id : UInt64) (source : TerminalSubsession) :
    Flushed differ id source (differ.flush id source) := by
  unfold TerminalDiffer.flush
  split
  · rename_i still
    exact .quiet (Bool.eq_false_iff.mpr still)
  split
  · rename_i owes
    exact .owing (Bool.eq_false_iff.mpr owes.1) owes.2
  · change Flushed differ id source
      (if (sayScreen differ.believed source (pushedLines source)).1.isEmpty then _ else _)
    split
    · rename_i nothing
      exact .silent (List.isEmpty_iff.mp nothing)
    · rename_i something
      exact .told (fun nothing => something (List.isEmpty_iff.mpr nothing))

omit [CkVision] in
/-- A line pushed has a column and no more than the screen. -/
theorem pushedLines_length {source : TerminalSubsession} (formed : (viewOf source).WellFormed)
    {line : List Cell} (listed : line ∈ pushedLines source) :
    1 ≤ line.length ∧ line.length ≤ source.status.cells.width := by
  have positive : 1 ≤ source.status.cells.width := formed.columns_pos
  unfold pushedLines at listed
  split at listed
  · cases listed
  · have whole := newestHistoryLines_length positive listed
    omega

end

end Ckmux
