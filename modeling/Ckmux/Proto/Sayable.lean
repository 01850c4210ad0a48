import Ckmux.Proto.RoundTrip
import Ckmux.Proto.Runs

/-!
# Snapshots that can be said

Of what a snapshot says only texts may be too long for the wire: a title, a name, a
complaint, and the text of a cell.
-/

namespace Ckmux.Proto

open Grammar (Bytes Says Occupies)

/-- Texts the wire has room for, of a window's own and of every cell. -/
structure TerminalState.Sayable (state : TerminalState) : Prop where
  title : state.title.length ≤ 0xFFFF
  customTitle : state.customTitle.length ≤ 0xFFFF
  diagnostic : state.diagnostic.length ≤ 0xFFFF
  grid : ∀ run ∈ state.grid, run.cell.grapheme.length ≤ 0xFFFF
  scrollback : ∀ line ∈ state.scrollback, ∀ run ∈ line, run.cell.grapheme.length ≤ 0xFFFF

/-- A run can be written if its cell's text has a length of two bytes. -/
theorem CellRun.written {run : CellRun} (short : run.cell.grapheme.length ≤ 0xFFFF) :
    Says (CellRun.write run) := by
  have cell : Says (Cell.write run.cell) :=
    .cons (.str short) <| .cons (.u8 _) <| .cons (.u32 _) <| .cons (.u32 _) <| .cons (.u8 _) <|
      .cons (.u16 _) .nil
  exact .cons (.u16 _) <| .cons cell .nil

/-- Runs can be written if each of them can. -/
theorem writeRuns_written {runs : List CellRun}
    (short : ∀ run ∈ runs, run.cell.grapheme.length ≤ 0xFFFF) : Says (writeRuns runs) :=
  .counted fun run listed => CellRun.written (short run listed)

/-- A job's description can always be written. -/
theorem PrintJobInfo.written (info : PrintJobInfo) : Says (PrintJobInfo.write info) :=
  .cons (.u64 _) <| .cons (.u8 _) <| .cons (.u32 _) <| .cons (.u32 _) <| .cons (.u64 _) .nil

/-- A terminal whose texts are short enough can be written. -/
theorem TerminalState.Sayable.written {state : TerminalState} (sayable : state.Sayable) :
    Says (TerminalState.write state) := by
  have rect : Says (Rect.write state.rect) :=
    .cons (.u16 _) <| .cons (.u16 _) <| .cons (.u16 _) <| .cons (.u16 _) .nil
  have tile : Says (TileFraction.write state.tile) :=
    .cons (.u16 _) <| .cons (.u16 _) <| .cons (.u16 _) <| .cons (.u16 _) .nil
  have cursor : Says (CursorOp.write state.cursor) :=
    .cons (.u16 _) <| .cons (.u16 _) <| .cons (.u8 _) <| .cons (.u8 _) <| .cons (.u8 _) .nil
  have scrollback : Says (writeLines state.scrollback) :=
    .counted fun line listed => writeRuns_written (sayable.scrollback line listed)
  exact .cons (.u64 _) <| .cons (.u16 _) <| .cons (.str sayable.title) <|
    .cons (.str sayable.customTitle) <| .cons (.u8 _) <| .cons (.u16 _) <| .cons (.u16 _) <|
    .cons rect <| .cons (.u16 _) <| .cons (.u8 _) <| .cons tile <| .cons cursor <|
    .cons (.u32 _) <| .cons (writeRuns_written sayable.grid) <| .cons scrollback <|
    .cons (.counted fun image _ => .u64 image) <| .cons (.u8 _) <| .cons (.u8 _) <|
    .cons (.u8 _) <| .cons (.u32 _) <| .cons (.counted fun job _ => PrintJobInfo.written job) <|
    .cons (.u64 _) <| .cons (.u8 _) <| .cons (.u32 _) <| .cons (.u8 _) <| .cons (.u8 _) <|
    .cons (.str sayable.diagnostic) <| .cons (.u32 _) <| .cons (.u32 _) .nil

/-- A snapshot of terminals that can be said can be said. -/
theorem attached_written (session : UInt64) {snapshot : Snapshot}
    (sayable : ∀ state ∈ snapshot.terminals, state.Sayable) :
    Says (Message.write (.attached ⟨session, snapshot⟩)) :=
  .cons (.u64 _) <| .cons (.u16 _) <| .cons (.u16 _) <| .cons (.u64 _) <|
    .cons (.counted fun state listed => (sayable state listed).written) .nil

/-! ### Sizes known before they are written -/

/-- Runs whose cells' texts the wire has room for. -/
def ShortTexts (runs : List CellRun) : Prop := ∀ run ∈ runs, run.cell.grapheme.length ≤ 0xFFFF

/-- Lines can be written if each of them can. -/
theorem writeLines_written {lines : List (List CellRun)} (short : ∀ line ∈ lines, ShortTexts line) :
    Says (writeLines lines) :=
  .counted fun line listed => writeRuns_written (short line listed)

/-- A snapshot behind the eight bytes of its session. -/
theorem attached_occupies (session : UInt64) (snapshot : Snapshot) :
    Occupies (Message.write (.attached ⟨session, snapshot⟩)) (8 + snapshot.encodedSize) := by
  refine (Occupies.cons (.u64 _) <| .cons (.u16 _) <| .cons (.u16 _) <| .cons (.u64 _) <|
    .cons (.counted TerminalState.occupies _) .nil).congr ?_
  rw [Snapshot.encodedSize]
  dsimp only
  omega

/-- Cells can be written if their texts are short enough. -/
theorem CellsOp.written {op : CellsOp} (short : ShortTexts op.runs) :
    Says (GridOp.write (.cells op)) :=
  .cons (.u8 _) <| .cons (.u16 _) <| .cons (.u16 _) <| .cons (writeRuns_written short) .nil

/-- What a value is said to cost is what its writer spends, wherever the texts in it can be
said at all: an operation's cells, runs, lines, a window, and a snapshot behind the session it
is of. -/
theorem encodedSize_exact :
    (∀ op : CellsOp, ShortTexts op.runs →
      ∃ bytes, GridOp.write (.cells op) = some bytes ∧ bytes.length = op.encodedSize) ∧
    (∀ runs : List CellRun, ShortTexts runs →
      ∃ bytes, writeRuns runs = some bytes ∧ bytes.length = encodedRuns runs) ∧
    (∀ lines : List (List CellRun), (∀ line ∈ lines, ShortTexts line) →
      ∃ bytes, writeLines lines = some bytes ∧ bytes.length = encodedLines lines) ∧
    (∀ state : TerminalState, state.Sayable →
      ∃ bytes, TerminalState.write state = some bytes ∧ bytes.length = state.encodedSize) ∧
    (∀ (session : UInt64) (snapshot : Snapshot), (∀ state ∈ snapshot.terminals, state.Sayable) →
      ∃ bytes, Message.write (.attached ⟨session, snapshot⟩) = some bytes ∧
        bytes.length = 8 + snapshot.encodedSize) := by
  refine ⟨fun op short => ?_, fun runs short => ?_, fun lines short => ?_, fun state sayable => ?_,
    fun session snapshot sayable => ?_⟩
  · exact (CellsOp.written short).sized (GridOp.occupies (.cells op))
  · exact (writeRuns_written short).sized (encodedRuns_occupies runs)
  · exact (writeLines_written short).sized (encodedLines_occupies lines)
  · exact sayable.written.sized (TerminalState.occupies state)
  · exact (attached_written session sayable).sized (attached_occupies session snapshot)

/-- A letter in a window with nothing else, and a snapshot of that. -/
theorem encodedSize_exact_letter :
    let runs : List CellRun := [⟨3, ⟨[97], 1, {}⟩⟩]
    let state : TerminalState := { columns := 3, rows := 1, grid := runs, title := [98] }
    (∃ bytes, writeRuns runs = some bytes ∧ bytes.length = 21) ∧
      (∃ bytes, TerminalState.write state = some bytes ∧ bytes.length = 115) ∧
      ∃ bytes, Message.write (.attached ⟨7, { terminals := [state] }⟩) = some bytes ∧
        bytes.length = 139 := by
  have short : ShortTexts [⟨3, ⟨[97], 1, {}⟩⟩] := by
    intro run listed
    rw [List.mem_singleton.mp listed]
    decide
  have sayable : TerminalState.Sayable
      { columns := 3, rows := 1, grid := [⟨3, ⟨[97], 1, {}⟩⟩], title := [98] } :=
    ⟨by decide, by decide, by decide, short, fun line listed => by cases listed⟩
  refine ⟨?_, ?_, ?_⟩
  · exact encodedSize_exact.2.1 _ short
  · exact encodedSize_exact.2.2.2.1 _ sayable
  · refine encodedSize_exact.2.2.2.2 7 { terminals := [_] } fun state listed => ?_
    rw [List.mem_singleton.mp listed]
    exact sayable

/-- Each run repeats one of the cells it was made from. -/
theorem mem_toRunsFrom {last run : CellRun} {cells : List Cell}
    (listed : run ∈ toRunsFrom last cells) : run.cell = last.cell ∨ run.cell ∈ cells := by
  induction cells generalizing last with
  | nil => exact .inl (congrArg CellRun.cell (List.mem_singleton.mp listed))
  | cons cell cells ih =>
      rw [toRunsFrom] at listed
      split at listed
      · exact (ih listed).imp_right (List.mem_cons_of_mem _)
      · rcases List.mem_cons.mp listed with rfl | later
        · exact .inl rfl
        · refine .inr ?_
          rcases ih later with same | among
          · exact same ▸ List.mem_cons_self
          · exact List.mem_cons_of_mem _ among

/-- A run is of one of the cells it was made of. -/
theorem mem_toRuns {run : CellRun} {cells : List Cell} (listed : run ∈ toRuns cells) :
    run.cell ∈ cells := by
  cases cells with
  | nil => cases listed
  | cons cell cells =>
      rcases mem_toRunsFrom listed with same | among
      · exact same ▸ List.mem_cons_self
      · exact List.mem_cons_of_mem _ among

end Ckmux.Proto
