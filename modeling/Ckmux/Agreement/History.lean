import Mathlib
import Ckmux.Agreement.Stream
import Ckmux.Grid.History

/-!
# The history of a mirror

A line reaches a mirror in a snapshot, or in a tick's push, which takes as many of
the newest lines as have scrolled since the damage was last cleared. Taking a
snapshot does not clear it. So a mirror is level with its terminal up to the lines
still to be pushed, but for a snapshot taken while there are some: those it has
already, and is sent again.
-/

namespace Ckmux

open Data (Level rows length_rtake rtake_of_length_le)
open Proto (encodedRuns toRuns fromRuns totalLength_toRuns fromRuns_toRuns kMaxGridCells)
open Semantics (System)

/-- The lines of a terminal's history. -/
def terminalLines (terminal : TerminalSubsession) : List (List Cell) :=
  rows (max 1 terminal.status.cells.width) terminal.scrollback

/-- What a whole history costs in a snapshot. -/
def historyBytes (terminal : TerminalSubsession) : Nat :=
  ((terminalLines terminal).map fun line => encodedRuns (toRuns line)).sum

/-- Some lines, perhaps none, scroll into a history that keeps so many: the newest
remain, and the report counts what came and is not silent about it. -/
structure Scrolls (historyLimit : Nat) (before after : TerminalSubsession) : Prop where
  width : after.status.cells.width = before.status.cells.width
  free : after.synchronizedOutputActive = false
  lines : ∃ lines : List (List Cell), (∀ line ∈ lines, line.length = before.status.cells.width) ∧
    after.scrollback = ((terminalLines before ++ lines).rtake historyLimit).flatten ∧
    after.damage.scrollbackPushed = before.damage.scrollbackPushed + lines.length
  few : after.damage.scrollbackPushed ≤ kMaxHistoryLinesPerDelta
  noticed : after.damage.scrollbackPushed ≠ 0 → after.damage.any = true

/-- A terminal whose lines scroll into its history, and snapshots with room for all
of it. -/
def scrolling (historyLimit : Nat) (stream : Stream) : StreamEvent → Prop
  | .change terminal => Scrolls historyLimit stream.terminal terminal
  | .tick _ => True
  | .snapshot budget => historyBytes stream.terminal ≤ budget

/-- Pushing the lines that have scrolled since the damage was cleared once more
would leave the history as it is. -/
def Settled (historyLimit : Nat) (terminal : TerminalSubsession) : Prop :=
  Level historyLimit (terminalLines terminal) (terminalLines terminal)
    terminal.damage.scrollbackPushed

instance (historyLimit : Nat) (terminal : TerminalSubsession) :
    Decidable (Settled historyLimit terminal) :=
  inferInstanceAs (Decidable (Level ..))

/-- Snapshots are taken of settled terminals only. -/
def settling (historyLimit : Nat) (stream : Stream) : StreamEvent → Prop
  | .snapshot _ => Settled historyLimit stream.terminal
  | _ => True

/-! ### Lines sent -/

/-- The newest lines are the end of the scrollback, cut into rows. -/
theorem newestHistoryLines_eq (source : TerminalSubsession) (columns count : Nat) :
    newestHistoryLines source columns count =
      (rows (max 1 columns) source.scrollback).rtake count := by
  unfold newestHistoryLines
  by_cases none_asked : count = 0
  · rw [if_pos none_asked, none_asked, List.rtake_zero]
  · rw [if_neg none_asked]
    dsimp only
    rw [List.rtake, Data.length_rows, rows, ← List.map_drop, List.range_eq_range', List.drop_range']
    generalize source.scrollback.length / max 1 columns = available
    congr 2
    · omega
    · omega

/-- With room for all of them every line is within the budget. -/
theorem linesWithin_all {budget spent : Nat} {lines : List (List Proto.CellRun)}
    (room : spent + (lines.map encodedRuns).sum ≤ budget) :
    (linesWithin budget spent lines).1 = lines := by
  induction lines generalizing spent with
  | nil => rfl
  | cons runs older ih =>
      rw [List.map_cons, List.sum_cons] at room
      rw [linesWithin, if_neg (by omega)]
      dsimp only
      rw [ih (by omega)]

/-- A budget with room for the whole history carries it. -/
theorem fillHistory_all {said : Proto.TerminalState} {source : TerminalSubsession} {budget : Nat}
    (columns : said.columns.toNat = source.status.cells.width)
    (room : historyBytes source ≤ budget) :
    (fillHistory said source budget).1.scrollback = (terminalLines source).map toRuns := by
  have every : (List.range (source.scrollback.length / max 1 source.status.cells.width)).reverse.map
      (fun index => toRuns (Data.row (max 1 source.status.cells.width) source.scrollback index)) =
        ((terminalLines source).map toRuns).reverse := by
    rw [terminalLines, rows, List.map_map, ← List.map_reverse]
    rfl
  have cost : 0 + ((((terminalLines source).map toRuns).reverse).map encodedRuns).sum ≤ budget := by
    rw [Nat.zero_add, List.map_reverse, List.sum_reverse, List.map_map]
    exact room
  rw [fillHistory]
  dsimp only
  rw [columns, every, linesWithin_all cost, List.reverse_reverse]

section

variable [CkVision]

/-- Lines of the terminal's width are adopted one by one, as they are. -/
theorem foldl_adoptLine {state : GridState} {lines : List (List Cell)}
    (width_pos : 1 ≤ state.cells.width) (width_le : state.cells.width ≤ kMaxGridCells)
    (whole : ∀ line ∈ lines, line.length = state.cells.width) :
    (lines.map toRuns).foldl adoptLine state = lines.foldl pushScrollbackLine state := by
  induction lines generalizing state with
  | nil => rfl
  | cons line lines ih =>
      have length := whole line List.mem_cons_self
      have width : (pushScrollbackLine state line).cells.width = state.cells.width :=
        congrArg (fun view => view.cells.width) (pushScrollbackLine_view state line)
      have first : adoptLine state (toRuns line) = pushScrollbackLine state line := by
        rw [adoptLine, totalLength_toRuns, if_neg (by omega), fromRuns_toRuns (by omega)]
      rw [List.map_cons, List.foldl_cons, List.foldl_cons, first]
      apply ih
      · rwa [width]
      · rwa [width]
      · rw [width]
        exact fun other listed => whole other (List.mem_cons_of_mem _ listed)

/-! ### What every step keeps -/

/-- A terminal's history in order, and a mirror's history of lines as wide. -/
structure Historic (historyLimit : Nat) (stream : Stream) : Prop extends Abreast stream where
  free : stream.terminal.synchronizedOutputActive = false
  whole : ∃ count, stream.terminal.scrollback.length = count * stream.terminal.status.cells.width
  few : (terminalLines stream.terminal).length ≤ historyLimit
  enough : min stream.terminal.damage.scrollbackPushed historyLimit ≤
    (terminalLines stream.terminal).length
  bounded : stream.terminal.damage.scrollbackPushed ≤ kMaxHistoryLinesPerDelta
  noticed : stream.terminal.damage.scrollbackPushed ≠ 0 → stream.terminal.damage.any = true
  calm : stream.differ.historyDiverged = false
  kept : stream.mirror.state.Kept
  limit : stream.mirror.state.maxScrollbackLines = historyLimit
  wide : ∀ line ∈ historyLines stream.mirror.state, line.length = stream.terminal.status.cells.width

namespace Historic

variable {historyLimit : Nat} {stream : Stream}

omit [CkVision] in
/-- A terminal with a history is not flooded. -/
theorem not_flooded (historic : Historic historyLimit stream) : stream.terminal.flooded = false := by
  have bounded := historic.bounded
  rw [TerminalSubsession.flooded, decide_eq_false_iff_not]
  omega

omit [CkVision] in
/-- Its screen has a width. -/
theorem width_pos (historic : Historic historyLimit stream) :
    max 1 stream.terminal.status.cells.width = stream.terminal.status.cells.width :=
  Nat.max_eq_right historic.formed.columns_pos

omit [CkVision] in
/-- Each of its lines is as long as the screen is wide. -/
theorem length_of_mem (historic : Historic historyLimit stream) {line : List Cell}
    (listed : line ∈ terminalLines stream.terminal) :
    line.length = stream.terminal.status.cells.width :=
  (Data.length_of_mem_rows listed).trans historic.width_pos

omit [CkVision] in
/-- A tick pushes the newest lines, as many as have scrolled. -/
theorem pushedLines_eq (historic : Historic historyLimit stream) :
    pushedLines stream.terminal =
      (terminalLines stream.terminal).rtake stream.terminal.damage.scrollbackPushed := by
  rw [pushedLines, historic.not_flooded, if_neg Bool.false_ne_true, newestHistoryLines_eq]
  rfl

omit [CkVision] in
/-- A mirror that holds the terminal's lines holds its history. -/
theorem scrollbackCells_eq (historic : Historic historyLimit stream) :
    scrollbackCells stream.mirror.state = stream.terminal.scrollback ↔
      historyLines stream.mirror.state = terminalLines stream.terminal := by
  obtain ⟨count, whole⟩ := historic.whole
  have terminal_cells : (terminalLines stream.terminal).flatten = stream.terminal.scrollback := by
    rw [terminalLines, historic.width_pos]
    exact Data.flatten_rows historic.formed.columns_pos whole
  constructor
  · intro same
    rw [← flatten_historyLines historic.kept] at same
    rw [terminalLines, historic.width_pos, ← same]
    exact (Data.rows_flatten historic.formed.columns_pos historic.wide).symm
  · intro same
    rw [← flatten_historyLines historic.kept, same, terminal_cells]

/-- What a tick does to a mirror's history: push the newest lines, as many as have
scrolled since the last. -/
theorem tick (historic : Historic historyLimit stream) (id : UInt64) (rasters : List UInt64) :
    Historic historyLimit (stream.step id (.tick rasters)) ∧
      terminalLines (stream.step id (.tick rasters)).terminal = terminalLines stream.terminal ∧
      (stream.step id (.tick rasters)).terminal.damage.scrollbackPushed = 0 ∧
      historyLines (stream.step id (.tick rasters)).mirror.state =
        (historyLines stream.mirror.state ++
          (terminalLines stream.terminal).rtake stream.terminal.damage.scrollbackPushed).rtake
            historyLimit := by
  obtain ⟨abreast, ticked, terminal, _⟩ := historic.toAbreast.tick id rasters historic.free
  have few := historic.kept.few
  rw [historic.limit] at few
  generalize stream.step id (.tick rasters) = after at *
  have lines : terminalLines after.terminal = terminalLines stream.terminal := by
    rw [terminal]
    rfl
  have cleared : after.terminal.damage.scrollbackPushed = 0 := by
    rw [terminal]
    rfl
  suffices pushed : after.differ.historyDiverged = false ∧ after.mirror.state.Kept ∧
      after.mirror.state.maxScrollbackLines = historyLimit ∧
      historyLines after.mirror.state = (historyLines stream.mirror.state ++
        (terminalLines stream.terminal).rtake stream.terminal.damage.scrollbackPushed).rtake
          historyLimit by
    obtain ⟨calm, kept, limit, newest⟩ := pushed
    refine ⟨{ abreast with
      free := by rw [terminal]; exact historic.free
      whole := by rw [terminal]; exact historic.whole
      few := by rw [lines]; exact historic.few
      enough := by rw [cleared]; omega
      bounded := by rw [cleared]; exact Nat.zero_le _
      noticed := fun some_pushed => absurd cleared some_pushed
      calm := calm
      kept := kept
      limit := limit
      wide := ?_ }, lines, cleared, newest⟩
    intro line listed
    have width : after.terminal.status.cells.width = stream.terminal.status.cells.width := by
      rw [terminal]
      rfl
    rw [newest] at listed
    rw [width]
    rcases List.mem_append.mp (List.mem_of_mem_drop listed) with held | new
    · exact historic.wide line held
    · exact historic.length_of_mem (List.mem_of_mem_drop new)
  cases ticked with
  | quiet still _ _ diverged mirror =>
      have none_pushed : stream.terminal.damage.scrollbackPushed = 0 := by
        by_contra some_pushed
        rw [historic.noticed some_pushed] at still
        cases still
      rw [mirror, none_pushed, List.rtake_zero, List.append_nil, rtake_of_length_le few]
      exact ⟨diverged.trans historic.calm, historic.kept, historic.limit, rfl⟩
  | owing _ diverged =>
      rw [historic.calm] at diverged
      cases diverged
  | spoken _ _ diverged mirror =>
      have size := (@sayScreen_size _ _ _ (pushedLines stream.terminal) historic.sized
        historic.formed (fun line listed => pushedLines_length historic.formed listed)).1
      have width : max 1 stream.said.2.view.cells.width = stream.terminal.status.cells.width := by
        change max 1 (sayScreen _ _ _).2.cells.width = _
        rw [size, historic.width_pos]
      obtain ⟨kept, limit, newest⟩ := advanced_kept historic.kept stream.said.2.view
        (pushedLines stream.terminal)
      rw [width, map_fitLine, historic.limit, historic.pushedLines_eq] at newest
      · rw [mirror]
        exact ⟨by rw [diverged, historic.calm, historic.not_flooded]; rfl, kept,
          limit.trans historic.limit, by rw [historic.pushedLines_eq]; exact newest⟩
      · intro line listed
        rcases List.mem_append.mp listed with held | new
        · exact historic.wide line held
        · rw [historic.pushedLines_eq] at new
          exact historic.length_of_mem (List.mem_of_mem_drop new)

/-- A snapshot with room for the whole history makes it the mirror's. -/
theorem snapshot (historic : Historic historyLimit stream) (id : UInt64) {budget : Nat}
    (room : historyBytes stream.terminal ≤ budget) :
    Historic historyLimit (stream.step id (.snapshot budget)) ∧
      (stream.step id (.snapshot budget)).terminal = stream.terminal ∧
      historyLines (stream.step id (.snapshot budget)).mirror.state =
        terminalLines stream.terminal := by
  have abreast := historic.toAbreast.snapshot id budget
  have columns_le := historic.formed.columns_le
  have columns : (stream.differ.snapshot id stream.terminal).1.columns.toNat =
      stream.terminal.status.cells.width :=
    UInt16.toNat_ofNat_of_lt' (lt_of_le_of_lt columns_le (by decide))
  have stated := fillHistory_states (snapshot_states stream.differ id stream.terminal)
    stream.terminal budget
  obtain ⟨_, state, _⟩ := @adopt_states _ stream.mirror _ _ stated historic.formed
  have wide_enough : stream.terminal.status.cells.width ≤ kMaxGridCells :=
    le_trans columns_le (by decide)
  have adopted := @foldl_adoptLine _
    (unwound (viewOf stream.terminal) stream.mirror.state.maxScrollbackLines)
    (terminalLines stream.terminal) historic.formed.columns_pos wide_enough
    (fun line listed => historic.length_of_mem listed)
  rw [fillHistory_all columns room, adopted] at state
  obtain ⟨blank, none_yet⟩ := @kept_of_empty
    (unwound (viewOf stream.terminal) stream.mirror.state.maxScrollbackLines) rfl rfl
  obtain ⟨full, limit, newest⟩ := foldl_pushScrollbackLine_kept blank (terminalLines stream.terminal)
  have fitted : scrollbackWidth
      (unwound (viewOf stream.terminal) stream.mirror.state.maxScrollbackLines) =
        stream.terminal.status.cells.width := historic.width_pos
  have within : (terminalLines stream.terminal).length ≤
      (unwound (viewOf stream.terminal) stream.mirror.state.maxScrollbackLines).maxScrollbackLines :=
    historic.limit.symm ▸ historic.few
  rw [none_yet, List.nil_append, fitted, map_fitLine fun line listed => historic.length_of_mem listed,
    rtake_of_length_le within] at newest
  have same_width := congrArg (fun view => view.cells.width)
    (foldl_pushScrollbackLine_view (terminalLines stream.terminal)
      (unwound (viewOf stream.terminal) stream.mirror.state.maxScrollbackLines))
  generalize (terminalLines stream.terminal).foldl pushScrollbackLine
    (unwound (viewOf stream.terminal) stream.mirror.state.maxScrollbackLines) = filled at *
  obtain ⟨kept, lines⟩ := @GridState.Kept.congr _ (filled.showing (viewOf stream.terminal)) full rfl
    rfl rfl same_width.symm
  have after_state : (stream.step id (.snapshot budget)).mirror.state =
      filled.showing (viewOf stream.terminal) := state
  have after_lines : historyLines (stream.step id (.snapshot budget)).mirror.state =
      terminalLines stream.terminal := by
    rw [after_state, lines, newest]
  refine ⟨{ abreast with
    free := historic.free
    whole := historic.whole
    few := historic.few
    enough := historic.enough
    bounded := historic.bounded
    noticed := historic.noticed
    calm := rfl
    kept := by rw [after_state]; exact kept
    limit := by rw [after_state]; exact limit.trans historic.limit
    wide := ?_ }, rfl, after_lines⟩
  intro line listed
  rw [after_lines] at listed
  exact historic.length_of_mem listed

/-- Lines that scroll leave the mirror as it was, and the terminal the newest. -/
theorem change (historic : Historic historyLimit stream) (id : UInt64) {terminal : TerminalSubsession}
    (formed : (viewOf terminal).WellFormed) (scrolls : Scrolls historyLimit stream.terminal terminal) :
    Historic historyLimit (stream.step id (.change terminal)) ∧
      ∃ lines : List (List Cell),
        terminalLines terminal = (terminalLines stream.terminal ++ lines).rtake historyLimit ∧
        terminal.damage.scrollbackPushed =
          stream.terminal.damage.scrollbackPushed + lines.length := by
  obtain ⟨lines, whole, scrollback, pushed⟩ := scrolls.lines
  have wide : ∀ line ∈ (terminalLines stream.terminal ++ lines).rtake historyLimit,
      line.length = stream.terminal.status.cells.width := by
    intro line listed
    rcases List.mem_append.mp (List.mem_of_mem_drop listed) with held | new
    · exact historic.length_of_mem held
    · exact whole line new
  have positive : 0 < stream.terminal.status.cells.width := historic.formed.columns_pos
  have newest : terminalLines terminal =
      (terminalLines stream.terminal ++ lines).rtake historyLimit := by
    rw [terminalLines, scrolls.width, historic.width_pos, scrollback]
    exact Data.rows_flatten positive wide
  have enough := historic.enough
  refine ⟨{ historic.toAbreast with
    formed := formed
    free := scrolls.free
    whole := ⟨((terminalLines stream.terminal ++ lines).rtake historyLimit).length, ?_⟩
    few := ?_
    enough := ?_
    bounded := scrolls.few
    noticed := scrolls.noticed
    calm := historic.calm
    kept := historic.kept
    limit := historic.limit
    wide := fun line listed => (historic.wide line listed).trans scrolls.width.symm },
    lines, newest, pushed⟩
  · change terminal.scrollback.length = _ * terminal.status.cells.width
    rw [scrollback, scrolls.width, List.length_flatten, List.map_congr_left wide, List.map_const',
      List.sum_replicate, smul_eq_mul]
  · change (terminalLines terminal).length ≤ _
    rw [newest, length_rtake]
    omega
  · change min terminal.damage.scrollbackPushed historyLimit ≤ (terminalLines terminal).length
    rw [newest, length_rtake, List.length_append, pushed]
    omega

end Historic

/-! ### Runs -/

/-- The runs of a terminal whose lines scroll into its history, with a mirror that
keeps as many lines as it does. -/
def historySystem (id : UInt64) (historyLimit : Nat) : System Stream StreamEvent where
  initial stream :=
    (streamSystem id historyLimit).initial stream ∧ stream.terminal.scrollback = [] ∧
      stream.terminal.damage.scrollbackPushed = 0 ∧
      stream.terminal.synchronizedOutputActive = false
  allows stream event :=
    (streamSystem id historyLimit).allows stream event ∧ scrolling historyLimit stream event
  step stream event := stream.step id event

/-- At the start the history is level. -/
theorem Historic.start {id : UInt64} {historyLimit : Nat} {stream : Stream}
    (initial : (historySystem id historyLimit).initial stream) :
    Historic historyLimit stream ∧
      Level historyLimit (historyLines stream.mirror.state) (terminalLines stream.terminal)
        stream.terminal.damage.scrollbackPushed := by
  obtain ⟨started, scrollback, pushed, free⟩ := initial
  have abreast := Abreast.start started
  obtain ⟨_, _, _, differ, mirror, _, _⟩ := started
  have no_lines : terminalLines stream.terminal = [] := by
    rw [terminalLines, scrollback]
    exact Data.rows_nil _
  obtain ⟨kept, none_held⟩ := @kept_of_empty stream.mirror.state (by rw [mirror]; rfl)
    (by rw [mirror]; rfl)
  refine ⟨{ abreast with
    free := free
    whole := ⟨0, by rw [scrollback, Nat.zero_mul]; rfl⟩
    few := by rw [no_lines]; exact Nat.zero_le _
    enough := by rw [pushed]; omega
    bounded := by rw [pushed]; exact Nat.zero_le _
    noticed := fun some_pushed => absurd pushed some_pushed
    calm := by rw [differ]
    kept := kept
    limit := by rw [mirror]; rfl
    wide := fun line listed => by rw [none_held] at listed; cases listed }, ?_⟩
  rw [no_lines, none_held, pushed]
  exact .refl (Nat.zero_le _)

/-- Every event keeps the history. -/
theorem Historic.next {id : UInt64} {historyLimit : Nat} {stream : Stream} {event : StreamEvent}
    (historic : Historic historyLimit stream)
    (allowed : (historySystem id historyLimit).allows stream event) :
    Historic historyLimit (stream.step id event) := by
  cases event with
  | change terminal => exact (historic.change id allowed.1 allowed.2).1
  | tick rasters => exact (historic.tick id rasters).1
  | snapshot budget => exact (historic.snapshot id allowed.2).1

/-- In every run the history is kept. -/
theorem historic_of_reachable {id : UInt64} {historyLimit : Nat} {stream : Stream}
    (reached : (historySystem id historyLimit).Reachable stream) : Historic historyLimit stream :=
  reached.invariant (fun _ initial => (Historic.start initial).1) fun _ _ historic allowed =>
    historic.next allowed

/-- A mirror stays level with its terminal, up to the lines still to be pushed, while
snapshots are taken of settled terminals only. -/
theorem level_of_reachable {id : UInt64} {historyLimit : Nat} {stream : Stream}
    (reached : ((historySystem id historyLimit).guarded (settling historyLimit)).Reachable stream) :
    Historic historyLimit stream ∧
      Level historyLimit (historyLines stream.mirror.state) (terminalLines stream.terminal)
        stream.terminal.damage.scrollbackPushed := by
  apply System.Reachable.invariant ?_ ?_ reached
  · exact fun _ initial => @Historic.start _ id historyLimit _ initial
  intro stream event held allowed
  obtain ⟨historic, level⟩ := held
  refine ⟨@Historic.next _ id historyLimit _ _ historic allowed.1, ?_⟩
  cases event with
  | change terminal =>
      obtain ⟨_, lines, newest, pushed⟩ := historic.change id allowed.1.1 allowed.1.2
      change Level historyLimit _ (terminalLines terminal) terminal.damage.scrollbackPushed
      rw [newest, pushed]
      exact level.append historic.enough lines
  | tick rasters =>
      obtain ⟨_, lines, cleared, newest⟩ := historic.tick id rasters
      change Level historyLimit (historyLines (stream.step id (.tick rasters)).mirror.state)
        (terminalLines (stream.step id (.tick rasters)).terminal) _
      rw [newest, level, lines]
      change Level historyLimit _ _ (stream.step id (.tick rasters)).terminal.damage.scrollbackPushed
      rw [cleared]
      exact .refl historic.few
  | snapshot budget =>
      obtain ⟨_, _, lines⟩ := historic.snapshot id allowed.1.2
      change Level historyLimit (historyLines (stream.step id (.snapshot budget)).mirror.state) _ _
      rw [lines]
      exact allowed.2

/-- In every run whose snapshots are taken of settled terminals, the mirror's history
after a tick is the terminal's; and a snapshot of any other terminal, with a tick
behind it, makes it something else. -/
theorem history_agrees_iff (id : UInt64) (historyLimit : Nat) :
    (∀ stream, ((historySystem id historyLimit).guarded (settling historyLimit)).Reachable stream →
      ∀ rasters, let after := stream.step id (.tick rasters)
        scrollbackCells after.mirror.state = after.terminal.scrollback) ∧
    ∀ stream, (historySystem id historyLimit).Reachable stream →
      ∀ budget rasters, historyBytes stream.terminal ≤ budget →
        let after := (stream.step id (.snapshot budget)).step id (.tick rasters)
        (scrollbackCells after.mirror.state = after.terminal.scrollback ↔
          Settled historyLimit stream.terminal) := by
  constructor
  · intro stream reached rasters after
    obtain ⟨historic, level⟩ := level_of_reachable reached
    obtain ⟨afterwards, lines, _, newest⟩ := historic.tick id rasters
    exact afterwards.scrollbackCells_eq.mpr (newest.trans (level.trans lines.symm))
  · intro stream reached budget rasters room after
    have historic := historic_of_reachable reached
    obtain ⟨between, terminal, held⟩ := historic.snapshot id room
    obtain ⟨afterwards, lines, _, newest⟩ := between.tick id rasters
    rw [afterwards.scrollbackCells_eq, newest, lines, terminal, held]
    rfl

end

/-! ### One line that scrolls -/

/-- The terminal of one letter, when another has taken its place. -/
def scrolledTerminal : TerminalSubsession :=
  { status := { cells := ⟨1, 1⟩ }
    cells := [⟨[98], 1, {}⟩]
    scrollback := [⟨[97], 1, {}⟩]
    damage := { any := true, full := true, scrollbackPushed := 1 } }

/-- The terminal after the scroll is well formed. -/
theorem scrolledTerminal_formed : (viewOf scrolledTerminal).WellFormed :=
  ⟨by decide, by decide, by decide, by decide, by decide, by decide, by decide⟩

/-- It has scrolled from the letter. -/
theorem scrolledTerminal_scrolls : Scrolls 5 letterTerminal scrolledTerminal where
  width := rfl
  free := rfl
  lines := ⟨[[⟨[97], 1, {}⟩]], by decide, by decide, rfl⟩
  few := by decide
  noticed := fun _ => rfl

/-- A terminal that a line has scrolled off, with its mirror. -/
def scrolledStream : Stream :=
  @Stream.step asciiVision 7 (letterStream 5) (.change scrolledTerminal)

/-- The letter's stream is one to begin with. -/
theorem letterStream_historic : (@historySystem asciiVision 7 5).initial (letterStream 5) :=
  ⟨letterStream_initial 5, rfl, rfl, rfl⟩

/-- The scroll may happen there. -/
theorem scrolledStream_allowed : (@historySystem asciiVision 7 5).allows (letterStream 5)
    (.change scrolledTerminal) :=
  ⟨scrolledTerminal_formed, scrolledTerminal_scrolls⟩

/-- So it is reached. -/
theorem scrolledStream_reached : (@historySystem asciiVision 7 5).Reachable scrolledStream :=
  (System.Reachable.start letterStream_historic).next scrolledStream_allowed

/-- And the scroll is not settled yet. -/
theorem scrolledTerminal_unsettled : ¬Settled 5 scrolledTerminal := by decide

/-- A tick sends the line that scrolled; a snapshot before it has the mirror hold
something else. -/
theorem history_agrees_iff_scrolled :
    scrollbackCells (@Stream.step asciiVision 7 scrolledStream (.tick [])).mirror.state =
        [⟨[97], 1, {}⟩] ∧
      let after := @Stream.step asciiVision 7
        (@Stream.step asciiVision 7 scrolledStream (.snapshot 1000)) (.tick [])
      scrollbackCells after.mirror.state ≠ after.terminal.scrollback := by
  obtain ⟨settled_runs, otherwise⟩ := @history_agrees_iff asciiVision 7 5
  have settling_allowed : ((@historySystem asciiVision 7 5).guarded (settling 5)).allows
      (letterStream 5) (.change scrolledTerminal) := ⟨scrolledStream_allowed, trivial⟩
  have reached := System.Reachable.next
    (@System.Reachable.start _ _ ((@historySystem asciiVision 7 5).guarded (settling 5)) _
      letterStream_historic) settling_allowed
  refine ⟨(settled_runs _ reached []).trans rfl, fun again => ?_⟩
  exact scrolledTerminal_unsettled
    ((otherwise scrolledStream scrolledStream_reached 1000 [] (by decide)).mp again)

/-- A line that scrolls before a snapshot is sent in it, and again in the tick
behind it. -/
theorem history_doubled : ¬∀ stream, (@historySystem asciiVision 7 5).Reachable stream →
    ∀ rasters, let after := @Stream.step asciiVision 7 stream (.tick rasters)
      scrollbackCells after.mirror.state = after.terminal.scrollback := by
  intro always
  have room : historyBytes scrolledTerminal ≤ 1000 := by decide
  have allowed : (@historySystem asciiVision 7 5).allows scrolledStream (.snapshot 1000) :=
    ⟨trivial, room⟩
  have doubled := always _ (scrolledStream_reached.next allowed) []
  have historic := @historic_of_reachable asciiVision 7 5 _ scrolledStream_reached
  obtain ⟨between, terminal, held⟩ := @Historic.snapshot asciiVision 5 _ historic 7 _ room
  obtain ⟨afterwards, lines, _, newest⟩ := @Historic.tick asciiVision 5 _ between 7 []
  have same := afterwards.scrollbackCells_eq.mp doubled
  rw [newest, lines, terminal, held] at same
  exact scrolledTerminal_unsettled same

end Ckmux
