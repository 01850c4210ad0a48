import Mathlib
import Ckmux.Agreement.Snapshot
import Ckmux.Semantics.System

/-!
# One terminal, one mirror

A terminal changes as it likes, provided its damage report is sound; a tick sends
what the differ makes of it, and a snapshot restates it. The mirror receives
everything sent, in order. `sent` keeps the deltas since the last snapshot, and
`shown` the screens the terminal has had since its report was last cleared.
-/

namespace Ckmux

open Data (row)
open Proto (GridDelta)
open Semantics (System)

/-- A terminal and the mirror of it. `shown` are the screens since the damage was last cleared, and
`sent` the deltas so far. -/
structure Stream where
  terminal : TerminalSubsession
  shown : List GridView
  differ : TerminalDiffer
  mirror : TerminalMirror
  sent : List GridDelta
  refused : Bool

/-- The screen changes, it is ticked, or a snapshot is taken of it. -/
inductive StreamEvent where
  | change (terminal : TerminalSubsession)
  /-- A tick; `rasters` is what it leaves of the believed pictures. -/
  | tick (rasters : List UInt64)
  | snapshot (budget : Nat)

/-- A sound report, of the screens since it was last cleared: a row it does not name
is as it was in each of them, and so is all of the screen when there is no damage. Of
rows that had another size it says nothing. -/
def Reports (shown : List GridView) (terminal : TerminalSubsession) : Prop :=
  ∀ view ∈ shown,
    (terminal.damage.any = false → view = viewOf terminal) ∧
    (view.cells = terminal.status.cells → ∀ index < terminal.status.cells.height,
      terminal.damage.names index = false → row terminal.status.cells.width view.grid index =
        row terminal.status.cells.width terminal.cells index)

section

variable [CkVision]

/-- The mirror takes the delta of a tick, where there is one. -/
def Stream.receive (stream : Stream) : Option GridDelta → Stream
  | none => stream
  | some delta =>
      let taken := stream.mirror.apply delta
      { stream with
        mirror := taken.2
        sent := stream.sent ++ [delta]
        refused := stream.refused || !taken.1 }

/-- The stream after one event. -/
def Stream.step (id : UInt64) (stream : Stream) : StreamEvent → Stream
  | .change terminal => { stream with terminal := terminal, shown := viewOf terminal :: stream.shown }
  | .tick rasters =>
      if stream.terminal.synchronizedOutputActive then stream
      else
        let ticked := tickTerminal stream.differ id stream.terminal
        Stream.receive
          { stream with
            terminal := ticked.2.2
            shown := [viewOf stream.terminal]
            differ := { ticked.2.1 with believedRasters := rasters } } ticked.1
  | .snapshot budget =>
      let taken := stream.differ.snapshot id stream.terminal
      let said := (fillHistory taken.1 stream.terminal budget).1
      let adopted := stream.mirror.adopt said
      { stream with
        differ := taken.2
        mirror := adopted.2
        sent := []
        refused := stream.refused || !adopted.1 }

/-- The runs of a terminal, its differ and a mirror that keeps so many lines, from
before anything of the terminal has been shown. Nothing is asked here of the report
of a change; `reporting` asks it. -/
def streamSystem (id : UInt64) (historyLimit : Nat) : System Stream StreamEvent where
  initial stream :=
    (viewOf stream.terminal).WellFormed ∧ Reports [{}] stream.terminal ∧
      stream.shown = [viewOf stream.terminal, {}] ∧ stream.differ = {} ∧
      stream.mirror = .fresh historyLimit ∧ stream.sent = [] ∧ stream.refused = false
  allows _
    | .change terminal => (viewOf terminal).WellFormed
    | _ => True
  step stream event := stream.step id event

omit [CkVision] in
/-- Every change leaves a sound report. -/
def reporting (stream : Stream) : StreamEvent → Prop
  | .change terminal => Reports stream.shown terminal
  | _ => True

/-! ### What every step keeps -/

/-- The deltas since a snapshot are numbered from one. -/
def Numbered (sent : List GridDelta) : Prop :=
  sent.map (fun delta => delta.seq) = (List.range sent.length).map fun index => UInt32.ofNat (index + 1)

omit [CkVision] in
/-- The next delta takes the next number. -/
theorem Numbered.next {sent : List GridDelta} {delta : GridDelta} (numbered : Numbered sent)
    (seq : delta.seq = UInt32.ofNat sent.length + 1) : Numbered (sent ++ [delta]) := by
  have following : UInt32.ofNat sent.length + 1 = UInt32.ofNat (sent.length + 1) := by
    rw [UInt32.ofNat_add]
    rfl
  rw [Numbered, List.map_append, numbered, List.length_append, List.length_singleton,
    List.range_succ, List.map_append, List.map_singleton, List.map_singleton, seq, following]

/-- The mirror holds what is believed, and has taken everything it was sent. -/
structure Abreast (stream : Stream) : Prop where
  formed : (viewOf stream.terminal).WellFormed
  sized : stream.differ.believed.grid.length = stream.differ.believed.cells.area
  alike : stream.differ.believed.view = stream.mirror.state.view
  counted : stream.differ.sequence = UInt32.ofNat stream.sent.length
  level : stream.mirror.sequence = stream.differ.sequence
  numbered : Numbered stream.sent
  gapless : stream.mirror.gaps = 0
  content : stream.mirror.needsSnapshot = false
  accepted : stream.refused = false

/-- At the start nothing was sent and nothing missed. -/
theorem Abreast.start {id : UInt64} {historyLimit : Nat} {stream : Stream}
    (initial : (streamSystem id historyLimit).initial stream) : Abreast stream := by
  obtain ⟨formed, _, _, differ, mirror, sent, refused⟩ := initial
  constructor
  · exact formed
  · rw [differ]
    rfl
  · rw [differ, mirror]
    rfl
  · rw [differ, sent]
    rfl
  · rw [differ, mirror]
    rfl
  · rw [sent]
    rfl
  · rw [mirror]
    rfl
  · rw [mirror]
    rfl
  · exact refused

/-- What a tick has a stream say, and the belief that leaves. -/
def Stream.said (stream : Stream) : List Proto.GridOp × GridState :=
  sayScreen stream.differ.believed stream.terminal (pushedLines stream.terminal)

/-- What a tick that is not held does: nothing, where nothing has changed; ask for a
snapshot, where a flood has calmed down; or speak. -/
inductive Ticked (stream after : Stream) : Prop where
  | quiet (still : stream.terminal.damage.any = false)
      (believed : after.differ.believed = stream.differ.believed)
      (owes : after.differ.needsSnapshot = stream.differ.needsSnapshot)
      (diverged : after.differ.historyDiverged = stream.differ.historyDiverged)
      (mirror : after.mirror.state = stream.mirror.state)
  | owing (calm : stream.terminal.flooded = false)
      (diverged : stream.differ.historyDiverged = true)
      (owes : after.differ.needsSnapshot = true)
  | spoken (believed : after.differ.believed = stream.said.2)
      (owes : after.differ.needsSnapshot = stream.differ.needsSnapshot)
      (diverged : after.differ.historyDiverged =
        (stream.differ.historyDiverged || stream.terminal.flooded))
      (mirror : after.mirror.state = advanced stream.mirror.state stream.said.2.view
        (pushedLines stream.terminal))

/-- A tick that is not held keeps the two abreast, and clears the report. -/
theorem Abreast.tick {stream : Stream} (abreast : Abreast stream) (id : UInt64)
    (rasters : List UInt64) (free : stream.terminal.synchronizedOutputActive = false) :
    Abreast (stream.step id (.tick rasters)) ∧ Ticked stream (stream.step id (.tick rasters)) ∧
      (stream.step id (.tick rasters)).terminal = stream.terminal.clearDamage ∧
      (stream.step id (.tick rasters)).shown = [viewOf stream.terminal] := by
  have lines := fun line listed => @pushedLines_length stream.terminal abreast.formed line listed
  have taken := sayScreen_taken abreast.alike abreast.sized abreast.formed lines
  have size := sayScreen_size abreast.sized abreast.formed lines
  rw [Stream.step, if_neg (Bool.eq_false_iff.mp free), tickTerminal,
    if_neg (Bool.eq_false_iff.mp free)]
  dsimp only
  have flushed := flush_flushed stream.differ id stream.terminal
  generalize stream.differ.flush id stream.terminal = result at flushed
  cases flushed with
  | quiet still =>
      exact ⟨{ abreast with }, .quiet still rfl rfl rfl rfl, rfl, rfl⟩
  | owing calm diverged =>
      exact ⟨{ abreast with }, .owing calm diverged rfl, rfl, rfl⟩
  | silent nothing =>
      rw [nothing, applyDelta] at taken
      split at taken
      · cases taken
      · injection taken with unchanged
        refine ⟨{ abreast with sized := size.2, alike := ?_ }, .spoken rfl rfl rfl unchanged, rfl, rfl⟩
        change _ = (List.foldl performOp stream.mirror.state []).view
        rw [unchanged]
        rfl
  | told something =>
      have accepted := @TerminalMirror.apply_next _ stream.mirror
        ⟨id, stream.differ.sequence + 1,
          (sayScreen stream.differ.believed stream.terminal (pushedLines stream.terminal)).1⟩ _
        (by rw [abreast.level]) taken
      dsimp only [Stream.receive]
      rw [accepted]
      refine ⟨{ abreast with
        sized := size.2
        alike := rfl
        counted := ?_
        level := rfl
        numbered := abreast.numbered.next (by rw [abreast.counted])
        accepted := ?_ }, .spoken rfl rfl rfl rfl, rfl, rfl⟩
      · dsimp only
        rw [abreast.counted, List.length_append, List.length_singleton, UInt32.ofNat_add]
        rfl
      · dsimp only
        rw [abreast.accepted]
        rfl

/-- What a snapshot leaves: mirror, belief and terminal all show the same. -/
theorem Abreast.snapshot {stream : Stream} (abreast : Abreast stream) (id : UInt64) (budget : Nat) :
    Abreast (stream.step id (.snapshot budget)) := by
  have stated := fillHistory_states (snapshot_states stream.differ id stream.terminal)
    stream.terminal budget
  obtain ⟨accepted, state, sequence, content, gaps⟩ :=
    @adopt_states _ stream.mirror _ _ stated abreast.formed
  exact {
    formed := abreast.formed
    sized := abreast.formed.sized
    alike := by
      dsimp only [Stream.step]
      rw [state]
      rfl
    counted := rfl
    level := sequence
    numbered := rfl
    gapless := gaps.trans abreast.gapless
    content := content
    accepted := by
      dsimp only [Stream.step]
      rw [abreast.accepted, accepted]
      rfl }

/-- Every event keeps the mirror abreast. -/
theorem Abreast.next {id : UInt64} {historyLimit : Nat} {stream : Stream} {event : StreamEvent}
    (abreast : Abreast stream) (allowed : (streamSystem id historyLimit).allows stream event) :
    Abreast (stream.step id event) := by
  cases event with
  | change terminal => exact { abreast with formed := allowed }
  | tick rasters =>
      by_cases held : stream.terminal.synchronizedOutputActive = true
      · rw [Stream.step, if_pos held]
        exact abreast
      · exact (abreast.tick id rasters (Bool.eq_false_iff.mpr held)).1
  | snapshot budget => exact abreast.snapshot id budget

/-! ### What sound reports add -/

omit [CkVision] in
/-- A report is sound of the screen it reports on. -/
theorem Reports.cons {shown : List GridView} {terminal : TerminalSubsession}
    (reports : Reports shown terminal) : Reports (viewOf terminal :: shown) terminal := by
  intro view listed
  rcases List.mem_cons.mp listed with rfl | listed
  · exact ⟨fun _ => rfl, fun _ _ _ _ => rfl⟩
  · exact reports view listed

omit [CkVision] in
/-- A cleared report is sound of the screen it was cleared at. -/
theorem reports_cleared (terminal : TerminalSubsession) :
    Reports [viewOf terminal] terminal.clearDamage := by
  intro view listed
  rw [List.mem_singleton.mp listed]
  exact ⟨fun _ => rfl, fun _ _ _ _ => rfl⟩

/-- What is believed is a screen the terminal has had since its report was cleared,
unless a snapshot is owed. -/
structure InStep (stream : Stream) : Prop extends Abreast stream where
  reports : Reports stream.shown stream.terminal
  current : viewOf stream.terminal ∈ stream.shown
  held : stream.differ.needsSnapshot = false → stream.differ.believed.view ∈ stream.shown

/-- At the start the mirror is in step. -/
theorem InStep.start {id : UInt64} {historyLimit : Nat} {stream : Stream}
    (initial : (streamSystem id historyLimit).initial stream) : InStep stream := by
  have abreast := Abreast.start initial
  obtain ⟨_, reports, shown, differ, _⟩ := initial
  refine ⟨abreast, ?_, ?_, fun _ => ?_⟩
  · rw [shown]
    exact reports.cons
  · rw [shown]
    exact List.mem_cons_self
  · rw [differ, shown]
    exact List.mem_cons_of_mem _ (List.mem_singleton.mpr rfl)

/-- A tick that holds nothing back brings the mirror in step. -/
theorem InStep.tick {stream : Stream} (inStep : InStep stream) (id : UInt64)
    (rasters : List UInt64) (free : stream.terminal.synchronizedOutputActive = false) :
    InStep (stream.step id (.tick rasters)) := by
  obtain ⟨abreast, ticked, terminal, shown⟩ := inStep.toAbreast.tick id rasters free
  generalize stream.step id (.tick rasters) = after at *
  refine ⟨abreast, ?_, ?_, fun owed => ?_⟩
  · rw [terminal, shown]
    exact reports_cleared _
  · rw [terminal, shown]
    exact List.mem_singleton.mpr rfl
  · rw [shown]
    cases ticked with
    | quiet still believed owes =>
        rw [believed]
        exact List.mem_singleton.mpr ((inStep.reports _ (inStep.held (owes ▸ owed))).1 still)
    | owing _ _ owes =>
        rw [owes] at owed
        cases owed
    | spoken believed owes =>
        rw [believed]
        apply List.mem_singleton.mpr
        apply sayScreen_exact inStep.sized inStep.formed
          (fun line listed => pushedLines_length inStep.formed listed)
        exact (inStep.reports _ (inStep.held (owes ▸ owed))).2

/-- Every event keeps the mirror in step. -/
theorem InStep.next {id : UInt64} {historyLimit : Nat} {stream : Stream} {event : StreamEvent}
    (inStep : InStep stream)
    (allowed : ((streamSystem id historyLimit).guarded reporting).allows stream event) :
    InStep (stream.step id event) := by
  cases event with
  | change terminal =>
      exact { inStep.toAbreast.next allowed.1 with
        reports := allowed.2.cons
        current := List.mem_cons_self
        held := fun owed => List.mem_cons_of_mem _ (inStep.held owed) }
  | tick rasters =>
      by_cases held : stream.terminal.synchronizedOutputActive = true
      · rw [Stream.step, if_pos held]
        exact inStep
      · exact inStep.tick id rasters (Bool.eq_false_iff.mpr held)
  | snapshot budget =>
      exact { inStep.toAbreast.snapshot id budget with
        reports := inStep.reports
        current := inStep.current
        held := fun _ => inStep.current }

/-- In every run the mirror is in step. -/
theorem inStep_of_reachable {id : UInt64} {historyLimit : Nat} {stream : Stream}
    (reached : ((streamSystem id historyLimit).guarded reporting).Reachable stream) :
    InStep stream := by
  apply System.Reachable.invariant ?_ ?_ reached
  · exact fun _ initial => @InStep.start _ id historyLimit _ initial
  · exact fun _ _ inStep allowed => @InStep.next _ id historyLimit _ _ inStep allowed

end

/-! ### A terminal of one letter -/

/-- A terminal of one cell that nobody has been told of. -/
def letterTerminal : TerminalSubsession :=
  { status := { cells := ⟨1, 1⟩ }
    cells := [⟨[97], 1, {}⟩]
    damage := { any := true, full := true } }

/-- A stream that shows one letter. -/
def letterStream (historyLimit : Nat) : Stream :=
  ⟨letterTerminal, [viewOf letterTerminal, {}], {}, .fresh historyLimit, [], false⟩

/-- The letter's screen is well formed. -/
theorem letterTerminal_formed : (viewOf letterTerminal).WellFormed :=
  ⟨by decide, by decide, by decide, by decide, by decide, by decide, by decide⟩

/-- The letter's stream is one to begin with. -/
theorem letterStream_initial (historyLimit : Nat) :
    (@streamSystem asciiVision 7 historyLimit).initial (letterStream historyLimit) := by
  refine ⟨letterTerminal_formed, ?_, rfl, rfl, rfl, rfl, rfl⟩
  intro view _
  exact ⟨fun still => Bool.noConfusion still, fun _ _ _ unnamed => Bool.noConfusion unnamed⟩

/-- The same terminal grown by a row, whose report names the new row and leaves the
first unnamed; its program may be drawing a synchronized frame. -/
def grownTerminal (held : Bool) (second : UInt8) : TerminalSubsession :=
  { status := { cells := ⟨1, 2⟩ }
    cells := [⟨[97], 1, {}⟩, ⟨[second], 1, {}⟩]
    damage := { any := true, rows := [⟨0, 0⟩, ⟨0, 1⟩] }
    synchronizedOutputActive := held }

/-- A letter is shown, restated by a snapshot and shown again; the terminal grows in a
frame that a tick has to wait for, the frame ends and is shown, and the new row changes. -/
def grownEvents : List StreamEvent :=
  [.tick [], .snapshot 100, .tick [], .change (grownTerminal true 98), .tick [],
    .change (grownTerminal false 98), .tick [], .change (grownTerminal false 99)]

/-- Where that run leads. -/
def grownStream : Stream :=
  grownEvents.foldl (@Stream.step asciiVision 7) (letterStream 5)

/-- The grown screen is well formed. -/
theorem grownTerminal_formed (held : Bool) (second : UInt8) :
    (viewOf (grownTerminal held second)).WellFormed := by
  have wide : 1 ≤ Proto.kMaxGridColumns := by decide
  have high : 2 ≤ Proto.kMaxGridRows := by decide
  exact ⟨rfl, Nat.le_refl 1, wide, Nat.le_succ 1, high, Nat.zero_lt_two, Nat.zero_le 1⟩

/-- Growing is soundly reported of screens that begin with the letter. -/
theorem grownTerminal_reports {held : Bool} {second : UInt8} {shown : List GridView}
    (begins : ∀ view ∈ shown, row 1 view.grid 0 = [⟨[97], 1, {}⟩]) :
    Reports shown (grownTerminal held second) := by
  intro view listed
  refine ⟨fun still => Bool.noConfusion still, fun _ index inside unnamed => ?_⟩
  have top : index = 0 := by
    cases index with
    | zero => rfl
    | succ index =>
        have last : index = 0 := Nat.lt_one_iff.mp (Nat.succ_lt_succ_iff.mp inside)
        rw [last] at unnamed
        exact Bool.noConfusion unnamed
  rw [top]
  exact begins view listed

/-- The grown stream is reached. -/
theorem grownStream_reached :
    ((@streamSystem asciiVision 7 5).guarded reporting).Reachable grownStream := by
  have begun := @System.Reachable.start _ _ ((@streamSystem asciiVision 7 5).guarded reporting) _
    (letterStream_initial 5)
  refine begun.follow grownEvents ⟨⟨trivial, trivial⟩, ⟨trivial, trivial⟩, ⟨trivial, trivial⟩,
    ⟨grownTerminal_formed true 98, ?_⟩, ⟨trivial, trivial⟩, ⟨grownTerminal_formed false 98, ?_⟩,
    ⟨trivial, trivial⟩, ⟨grownTerminal_formed false 99, ?_⟩, trivial⟩
  · exact grownTerminal_reports (by decide)
  · exact grownTerminal_reports (by decide)
  · exact grownTerminal_reports (by decide)

end Ckmux
