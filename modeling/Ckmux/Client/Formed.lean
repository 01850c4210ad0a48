import Mathlib
import Ckmux.Agreement.Snapshot
import Ckmux.Client.ReaderLaws
import Ckmux.Grid.Formed
import Ckmux.Proto.RoundTrip

/-!
# What a client draws

Whatever the server says, a client is to hold nothing it cannot draw. A snapshot is refused
whose size no grid may have and a delta that does not fit. But where a snapshot puts the
cursor is not looked at, and neither is the size of a terminal that is opened.
-/

namespace Ckmux

open Grammar (Bytes)
open Proto (Message GridOp TerminalState)
open Semantics (System)

/-- Where a snapshot puts a terminal's cursor. -/
def statedCursor (said : TerminalState) : GridCursor :=
  ⟨said.cursor.column, said.cursor.row, said.cursor.style, said.cursor.visible, said.cursor.blink⟩

/-- The size a snapshot states for a terminal. -/
def statedSize (said : TerminalState) : Size := ⟨said.columns.toNat, said.rows.toNat⟩

/-- What a snapshot says of a terminal last, if it may have the size it says. -/
def lastSaid (states : List TerminalState) (term : TerminalId) : Option TerminalState :=
  (states.filter fun said => said.term = term ∧ (statedSize said).Within).getLast?

/-- The last that was said of a terminal was said of it. -/
theorem lastSaid_mem {states : List TerminalState} {term : TerminalId} {said : TerminalState}
    (last : lastSaid states term = some said) : said ∈ states ∧ said.term = term := by
  have listed := List.mem_of_getLast? last
  simp only [List.mem_filter, decide_eq_true_eq] at listed
  exact ⟨listed.1, listed.2.1⟩

/-- Whatever was said last of a size that may be is what counts. -/
theorem lastSaid_append (states : List TerminalState) (said : TerminalState) (term : TerminalId) :
    lastSaid (states ++ [said]) term =
      if said.term = term ∧ (statedSize said).Within then some said else lastSaid states term := by
  unfold lastSaid
  rw [List.filter_append]
  split
  · rename_i counts
    simp [counts]
  · rename_i other
    simp [other]

/-! ### One mirror -/

/-- A grid that is taken has as many cells as its size says. -/
theorem decodeGrid_sized {runs : List Proto.CellRun} {cells : Size} {state drawn : GridState}
    (taken : decodeGrid runs cells state = some drawn) :
    drawn = { state with cells := cells, grid := drawn.grid } ∧ drawn.grid.length = cells.area := by
  unfold decodeGrid at taken
  split at taken
  · cases taken
  · rename_i within
    split at taken
    · cases taken
    · rename_i total
      cases taken
      refine ⟨rfl, ?_⟩
      have few : Proto.totalLength runs ≤ Proto.kMaxGridCells := by
        rw [not_not.mp total]
        exact Nat.mul_le_mul (by omega) (by omega)
      change (Proto.fromRuns runs).length = _
      rw [Proto.fromRuns, if_neg (by omega), Proto.length_expand]
      exact not_not.mp total

section

variable [CkVision]

/-- A terminal adopted has the size and the cursor it is said to have. -/
theorem adopt_within (mirror : TerminalMirror) {said : TerminalState}
    (within : (statedSize said).Within) :
    (mirror.adopt said).2.state.cells = statedSize said ∧
      (mirror.adopt said).2.state.grid.length = (statedSize said).area ∧
      (mirror.adopt said).2.state.cursor = statedCursor said ∧ (mirror.adopt said).2.state.Kept := by
  obtain ⟨columns_le, rows_le⟩ := within
  change said.columns.toNat ≤ _ at columns_le
  change said.rows.toNat ≤ _ at rows_le
  have blank : (blankState (statedSize said) mirror.state.maxScrollbackLines).Kept :=
    (kept_of_empty rfl rfl).1
  obtain ⟨drawn, is_drawn, cells, grid, kept⟩ : ∃ drawn,
      (decodeGrid said.grid (statedSize said)
        (blankState (statedSize said) mirror.state.maxScrollbackLines)).getD
          (blankState (statedSize said) mirror.state.maxScrollbackLines) = drawn ∧
        drawn.cells = statedSize said ∧ drawn.grid.length = (statedSize said).area ∧
          drawn.Kept := by
    refine ⟨_, rfl, ?_⟩
    cases taken : decodeGrid said.grid (statedSize said)
        (blankState (statedSize said) mirror.state.maxScrollbackLines) with
    | none => exact ⟨rfl, List.length_replicate .., blank⟩
    | some drawn =>
        obtain ⟨same, sized⟩ := decodeGrid_sized taken
        rw [Option.getD_some]
        refine ⟨by rw [same], sized, ?_⟩
        rw [same]
        exact And.left (blank.congr rfl rfl rfl rfl)
  have filled := foldl_adoptLine_view said.scrollback drawn
  have filled_kept : (said.scrollback.foldl adoptLine drawn).Kept := by
    refine List.foldlRecOn said.scrollback adoptLine kept fun state kept line _ => ?_
    unfold adoptLine
    split
    · exact kept
    · exact (pushScrollbackLine_kept kept _).1
  unfold TerminalMirror.adopt
  rw [if_neg (by omega)]
  dsimp only
  rw [statedSize] at is_drawn
  rw [is_drawn]
  refine ⟨(congrArg GridView.cells filled).trans cells,
    (congrArg (fun view => view.grid.length) filled).trans grid, rfl, ?_⟩
  exact And.left (filled_kept.congr rfl rfl rfl rfl)

/-- A terminal refused keeps its screen. -/
theorem adopt_refused (mirror : TerminalMirror) {said : TerminalState}
    (refused : ¬(statedSize said).Within) : (mirror.adopt said).2.state = mirror.state := by
  have large : said.columns.toNat > Proto.kMaxGridColumns ∨
      said.rows.toNat > Proto.kMaxGridRows := by
    by_contra small
    refine refused ⟨?_, ?_⟩
    · change said.columns.toNat ≤ _
      omega
    · change said.rows.toNat ≤ _
      omega
  unfold TerminalMirror.adopt
  rw [if_pos large]

/-- Adopting keeps what a history must be. -/
theorem adopt_kept (mirror : TerminalMirror) (kept : mirror.state.Kept) (said : TerminalState) :
    (mirror.adopt said).2.state.Kept := by
  by_cases within : (statedSize said).Within
  · exact (adopt_within mirror within).2.2.2
  · rw [adopt_refused mirror within]
    exact kept

/-- A grid that is adopted is as it must be exactly if the cursor that was stated is inside. -/
theorem adopt_framed_iff (mirror : TerminalMirror) {said : TerminalState}
    (within : (statedSize said).Within) :
    (mirror.adopt said).2.state.view.Framed ↔ (statedCursor said).Inside (statedSize said) := by
  obtain ⟨cells, grid, cursor, _⟩ := adopt_within mirror within
  constructor
  · intro framed
    have inside := framed.cursor
    change (mirror.adopt said).2.state.cursor.Inside (mirror.adopt said).2.state.cells at inside
    rwa [cursor, cells] at inside
  · intro inside
    refine ⟨?_, ?_, ?_⟩
    · change (mirror.adopt said).2.state.cells.Within
      rwa [cells]
    · change (mirror.adopt said).2.state.grid.length = (mirror.adopt said).2.state.cells.area
      rwa [cells]
    · change (mirror.adopt said).2.state.cursor.Inside (mirror.adopt said).2.state.cells
      rwa [cursor, cells]

/-- A terminal opened can be drawn if a grid may have its size. -/
theorem opened_framed_iff (mirror : TerminalMirror) (cells : Size) :
    (mirror.opened cells).state.view.Framed ↔ cells.Within := by
  constructor
  · exact fun framed => framed.within
  · intro within
    refine ⟨within, List.length_replicate .., ?_, Nat.zero_le _⟩
    change 0 < cells.height ∨ cells.height = 0 ∧ _
    rcases Nat.eq_zero_or_pos cells.height with none | some
    · exact .inr ⟨none, rfl⟩
    · exact .inl some

end

/-- What of its screen a mirror keeps whatever it is told, unless it is told a new one: it
is there from the start, is the same under another title, and outlasts a delta. -/
structure Lasting [CkVision] (kept : GridState → Prop) : Prop where
  fresh : ∀ limit, kept { maxScrollbackLines := limit }
  retitled : ∀ state title, kept state → kept { state with title := title }
  applied : ∀ ops state after, kept state → applyDelta ops state = some after → kept after

/-- A grid that is as it must be stays so under new titles and deltas. -/
theorem framed_lasting [CkVision] : Lasting fun state => state.view.Framed where
  fresh _ := ⟨⟨Nat.zero_le _, Nat.zero_le _⟩, rfl, .inr ⟨rfl, rfl⟩, Nat.zero_le _⟩
  retitled _ _ framed := ⟨framed.within, framed.sized, framed.cursor⟩
  applied _ _ _ framed taken := applyDelta_formed framed taken

/-- A history that is as it must be stays so under new titles and deltas. -/
theorem kept_lasting [CkVision] : Lasting GridState.Kept where
  fresh _ := (kept_of_empty rfl rfl).1
  retitled _ _ kept := And.left (kept.congr rfl rfl rfl rfl)
  applied _ _ _ kept taken := applyDelta_kept kept taken

namespace ServerSession

/-- Something holds of the screen of every mirror a client has. -/
def AllScreens (kept : GridState → Prop) (session : ServerSession) : Prop :=
  ∀ terminal ∈ session.terminals, kept terminal.mirror.state

variable {kept : GridState → Prop} {session : ServerSession}

/-- One terminal is changed and no other. -/
theorem mem_setTerminal {id : TerminalId} {change : RemoteTerminal → RemoteTerminal}
    {terminal : RemoteTerminal} : terminal ∈ (session.setTerminal id change).terminals ↔
      ∃ held ∈ session.terminals, (if held.id = id then change held else held) = terminal :=
  List.mem_map

/-- A terminal changed is the one that has to be looked at. -/
theorem AllScreens.setTerminal {id : TerminalId} {change : RemoteTerminal → RemoteTerminal}
    (all : session.AllScreens kept)
    (changed : ∀ held ∈ session.terminals, held.id = id → kept (change held).mirror.state) :
    (session.setTerminal id change).AllScreens kept := by
  intro terminal there
  obtain ⟨held, listed, rfl⟩ := mem_setTerminal.mp there
  split
  · exact changed held listed ‹_›
  · exact all held listed

/-- A client told something that leaves its screens alone. -/
theorem AllScreens.tellMirror {id : TerminalId} {told : TerminalMirror → TerminalMirror}
    (all : session.AllScreens kept)
    (same : ∀ mirror, kept mirror.state → kept (told mirror).state) :
    (session.tellMirror id told).AllScreens kept :=
  all.setTerminal fun held listed _ => same held.mirror (all held listed)

/-- A terminal that was not known is begun afresh. -/
theorem mem_ensureTerminal {id : TerminalId} {terminal : RemoteTerminal} :
    terminal ∈ (session.ensureTerminal id).terminals ↔
      terminal ∈ session.terminals ∨ session.terminal id = none ∧
        terminal = { id := id, mirror := .fresh session.historyLimit } := by
  unfold ensureTerminal
  cases known : session.terminal id with
  | none => simp
  | some _ => simp

/-- What holds of every screen holds when a fresh one comes. -/
theorem AllScreens.ensureTerminal {id : TerminalId} (all : session.AllScreens kept)
    (fresh : ∀ limit, kept { maxScrollbackLines := limit }) :
    (session.ensureTerminal id).AllScreens kept := by
  intro terminal there
  rcases mem_ensureTerminal.mp there with held | ⟨_, rfl⟩
  · exact all terminal held
  · exact fresh _

/-- There is a terminal where one was looked for. -/
theorem exists_ensured (session : ServerSession) (id : TerminalId) :
    ∃ terminal ∈ (session.ensureTerminal id).terminals, terminal.id = id := by
  unfold ServerSession.ensureTerminal
  cases known : session.terminal id with
  | none => exact ⟨_, List.mem_append_right _ List.mem_cons_self, rfl⟩
  | some held =>
      exact ⟨held, List.mem_of_find?_eq_some known, of_decide_eq_true
        (List.find?_some (p := fun terminal : RemoteTerminal => terminal.id = id) known)⟩

/-- Leaving a client's terminals as they are leaves their screens. -/
theorem AllScreens.congr {other : ServerSession} (all : session.AllScreens kept)
    (same : other.terminals = session.terminals) : other.AllScreens kept :=
  fun terminal there => all terminal (same ▸ there)

section

variable [CkVision]

/-! ### A whole session -/

/-- A session's terminals, taken one after another: each can be drawn if what is said of it
last can be. -/
theorem adoptTerminals_framed (states : List TerminalState)
    (framed : session.AllScreens fun state => state.view.Framed) :
    let after := states.foldl (fun session state => session.adoptTerminal state) session
    (∀ terminal ∈ after.terminals, terminal.mirror.state.view.Framed ↔
      ∀ said, lastSaid states terminal.id = some said →
        (statedCursor said).Inside (statedSize said)) ∧
      ∀ said ∈ states, ∃ terminal ∈ after.terminals, terminal.id = said.term := by
  intro after
  induction states using List.reverseRecOn with
  | nil =>
      refine ⟨fun terminal there => iff_of_true (framed terminal there) ?_, ?_⟩
      · intro said last
        cases (lastSaid_mem last).1
      · intro said listed
        cases listed
  | append_singleton states last ih =>
      obtain ⟨each, every⟩ := ih
      have leads : after = (states.foldl (fun session state => session.adoptTerminal state)
          session).adoptTerminal last := List.foldl_concat ..
      rw [leads]
      generalize states.foldl (fun session state => session.adoptTerminal state) session =
        earlier at each every
      constructor
      · intro terminal there
        obtain ⟨held, listed, rfl⟩ := mem_setTerminal.mp there
        by_cases named : held.id = last.term
        · rw [if_pos named]
          change ((held.mirror.adopt last).2.state.view.Framed ↔
            ∀ said, lastSaid (states ++ [last]) held.id = some said → _)
          by_cases within : (statedSize last).Within
          · rw [adopt_framed_iff _ within, lastSaid_append, if_pos ⟨named.symm, within⟩]
            exact ⟨fun inside said same => Option.some.inj same ▸ inside, fun all => all _ rfl⟩
          · rw [adopt_refused _ within, lastSaid_append, if_neg fun both => within both.2]
            rcases mem_ensureTerminal.mp listed with before | ⟨unknown, rfl⟩
            · exact each held before
            · -- Nobody has spoken of a terminal that was not there.
              refine iff_of_true (framed_lasting.fresh _) fun said spoken => ?_
              obtain ⟨listed, same⟩ := lastSaid_mem spoken
              obtain ⟨terminal, there, id⟩ := every said listed
              have found := List.find?_eq_none.mp unknown terminal there
              exact absurd (decide_eq_true (id.trans same)) found
        · rw [if_neg named, lastSaid_append, if_neg fun both => named both.1.symm]
          rcases mem_ensureTerminal.mp listed with before | ⟨_, rfl⟩
          · exact each held before
          · exact absurd rfl named
      · intro said listed
        rcases List.mem_append.mp listed with before | now
        · obtain ⟨terminal, there, id⟩ := every said before
          have still : terminal ∈ (earlier.ensureTerminal last.term).terminals :=
            mem_ensureTerminal.mpr (.inl there)
          refine ⟨_, mem_setTerminal.mpr ⟨terminal, still, rfl⟩, ?_⟩
          split <;> exact id
        · obtain rfl := List.mem_singleton.mp now
          obtain ⟨terminal, there, id⟩ := exists_ensured earlier said.term
          refine ⟨_, mem_setTerminal.mpr ⟨terminal, there, rfl⟩, ?_⟩
          split <;> exact id

/-- A session adopted can be drawn exactly if what it says last of each terminal can be. -/
theorem handleAttached_framed_iff (framed : session.AllScreens fun state => state.view.Framed)
    (attached : Proto.Attached) :
    ((session.handleAttached attached).AllScreens fun state => state.view.Framed) ↔
      ∀ term said, lastSaid attached.snapshot.terminals term = some said →
        (statedCursor said).Inside (statedSize said) := by
  obtain ⟨start, leads, same⟩ : ∃ start : ServerSession,
      (session.handleAttached attached).terminals =
        ((attached.snapshot.terminals.foldl (fun session state => session.adoptTerminal state)
          start).terminals.filter fun terminal =>
            attached.snapshot.terminals.any fun state => state.term = terminal.id) ∧
        start.terminals = session.terminals := by
    refine ⟨_, rfl, ?_⟩
    split <;> (unfold adoptSessionDesktop; split <;> rfl)
  have started : start.AllScreens fun state => state.view.Framed := framed.congr same
  obtain ⟨each, every⟩ := adoptTerminals_framed attached.snapshot.terminals started
  constructor
  · intro all term said last
    obtain ⟨listed, id⟩ := lastSaid_mem last
    obtain ⟨terminal, there, same⟩ := every said listed
    have stays : terminal ∈ (session.handleAttached attached).terminals := by
      rw [leads]
      refine List.mem_filter.mpr ⟨there, List.any_eq_true.mpr ⟨said, listed, ?_⟩⟩
      exact decide_eq_true same.symm
    exact (each terminal there).mp (all terminal stays) said (by rw [same, id, last])
  · intro inside terminal there
    rw [leads] at there
    have held := List.mem_of_mem_filter there
    exact (each terminal held).mpr fun said last => inside _ said last

/-- A snapshot keeps what every history must be. -/
theorem handleAttached_kept (kept : session.AllScreens GridState.Kept) (attached : Proto.Attached) :
    (session.handleAttached attached).AllScreens GridState.Kept := by
  have adopted : ∀ (states : List TerminalState) (start : ServerSession),
      start.AllScreens GridState.Kept →
        (states.foldl (fun session state => session.adoptTerminal state) start).AllScreens
          GridState.Kept := by
    intro states start all
    refine List.foldlRecOn states _ all fun session all state _ => ?_
    refine (all.ensureTerminal kept_lasting.fresh).setTerminal fun held listed _ => ?_
    exact adopt_kept held.mirror (all.ensureTerminal kept_lasting.fresh held listed) state
  intro terminal there
  refine adopted attached.snapshot.terminals _ (kept.congr ?_) terminal
    (List.mem_of_mem_filter there)
  split <;> (unfold adoptSessionDesktop; split <;> rfl)

/-! ### Whatever happens -/

/-- What lasts on a screen lasts whatever a client hears, but for what gives a terminal a
size. -/
theorem AllScreens.handle (lasting : Lasting kept) (all : session.AllScreens kept)
    {message : Message} (known : ∀ attached, message ≠ .attached attached)
    (opens : ∀ opened, message ≠ .termOpened opened) : (session.handle message).AllScreens kept := by
  cases message with
  | attached attached => exact absurd rfl (known attached)
  | termOpened opened => exact absurd rfl (opens opened)
  | gridDelta delta =>
      unfold ServerSession.handle
      dsimp only
      split
      · refine all.congr ?_
        unfold requestSnapshot
        split <;> rfl
      · refine all.tellMirror fun mirror holds => ?_
        unfold TerminalMirror.apply
        split
        · exact holds
        · split
          · exact holds
          · exact lasting.applied _ _ _ holds ‹_›
  | layoutDelta layout =>
      unfold ServerSession.handle
      dsimp only
      split
      · refine all.congr ?_
        unfold adoptSessionDesktop
        split <;> rfl
      · exact all
  | readerMode told =>
      unfold ServerSession.handle
      dsimp only
      split <;> exact all.congr rfl
  | detached gone =>
      refine all.congr ?_
      change (onDetached _).terminals = _
      unfold onDetached
      split <;> rfl
  | termClosed closed =>
      have told : (session.tellMirror closed.term fun mirror =>
          mirror.applyClosed closed).AllScreens kept := all.tellMirror fun _ holds => holds
      change (session.handleClosed closed).AllScreens kept
      unfold handleClosed
      dsimp only
      split
      · exact told
      · exact fun terminal there => told terminal (List.mem_of_mem_filter there)
  | termMeta said => exact all.tellMirror fun mirror holds => lasting.retitled _ _ holds
  | clipboardSet _ | printState _ | printJobAdded _ | termDiagnostic _ =>
      exact all.tellMirror fun _ holds => holds
  | imagePlace place =>
      exact (all.congr rfl).setTerminal fun held listed _ => all held listed
  | imageRemove remove =>
      exact (all.congr rfl).setTerminal fun held listed _ => all held listed
  | _ => exact all.congr rfl

/-- Nothing else that happens to a client changes its screens. -/
theorem AllScreens.own (all : session.AllScreens kept) {event : ReaderEvent}
    (own : ∀ message, event ≠ .hear message) : (session.step event).AllScreens kept := by
  cases event with
  | hear message => exact absurd rfl (own message)
  | lost => exact fun _ there => absurd there List.not_mem_nil
  | heal =>
      refine all.congr ?_
      change (session.healIfNeeded).terminals = _
      unfold healIfNeeded
      split
      · unfold requestSnapshot
        split <;> rfl
      · rfl
  | switchTo id mode desktop cellPixels =>
      refine all.congr ?_
      change (session.switchTo id mode desktop cellPixels).terminals = _
      unfold switchTo
      split <;> rfl
  | setReaderMode scope mode =>
      refine all.congr ?_
      change (session.setReaderMode scope mode).terminals = _
      unfold setReaderMode
      split
      · rfl
      · dsimp only [request]
        split <;> rfl
  | paste term bytes =>
      refine all.congr ?_
      change (session.paste term bytes).terminals = _
      unfold paste
      split <;> rfl
  | desktopResized desktop cellPixels =>
      refine all.congr ?_
      change (session.desktopResized desktop cellPixels).terminals = _
      unfold desktopResized
      dsimp only
      split
      · rfl
      · split
        · rfl
        · split <;> rfl
  | reportLayout entries =>
      refine all.congr ?_
      change (session.reportLayout entries).terminals = _
      unfold reportLayout
      split <;> rfl
  | watchStats on =>
      refine all.congr ?_
      change (session.setStatsWatched on).terminals = _
      unfold setStatsWatched
      split <;> rfl
  | capabilities _ | leave | say _ => exact all.congr rfl

/-- What holds of every screen holds when a terminal opens, if it holds of what opens. -/
theorem AllScreens.opened (all : session.AllScreens kept) (fresh : Lasting kept)
    {opened : Proto.TermOpened}
    (holds : ∀ mirror : TerminalMirror,
      kept (mirror.opened ⟨opened.columns.toNat, opened.rows.toNat⟩).state) :
    (session.handle (.termOpened opened)).AllScreens kept :=
  (all.ensureTerminal fresh.fresh).tellMirror fun mirror _ => holds mirror

end

end ServerSession

section

variable [CkVision]

/-- Every history a client keeps is in order. -/
theorem kept_step {reader : Reader} {event : ReaderEvent}
    (kept : reader.session.AllScreens GridState.Kept) :
    (reader.step event).session.AllScreens GridState.Kept := by
  change (reader.session.step event).AllScreens GridState.Kept
  by_cases heard : ∃ message, event = .hear message
  · obtain ⟨message, rfl⟩ := heard
    change (reader.session.handle message).AllScreens GridState.Kept
    by_cases known : ∃ attached, message = .attached attached
    · obtain ⟨attached, rfl⟩ := known
      exact ServerSession.handleAttached_kept kept attached
    · by_cases opens : ∃ opened, message = .termOpened opened
      · obtain ⟨opened, rfl⟩ := opens
        exact kept.opened kept_lasting fun _ => (kept_of_empty rfl rfl).1
      · exact kept.handle kept_lasting (not_exists.mp known) (not_exists.mp opens)
  · exact kept.own (not_exists.mp heard)

/-- What is said of a terminal can be drawn: a snapshot has its cursor on the screen, where
it speaks of the terminal last, and a terminal is opened at a size a grid may have. -/
def SaysDrawable (_ : Reader) : ReaderEvent → Prop
  | .hear (.attached attached) =>
      ∀ term said, lastSaid attached.snapshot.terminals term = some said →
        (statedCursor said).Inside (statedSize said)
  | .hear (.termOpened opened) => Size.Within ⟨opened.columns.toNat, opened.rows.toNat⟩
  | _ => True

/-- A step leaves every screen as it must be exactly if what it says can be drawn. -/
theorem framed_step_iff {reader : Reader} {event : ReaderEvent}
    (framed : reader.session.AllScreens fun state => state.view.Framed) :
    ((reader.step event).session.AllScreens fun state => state.view.Framed) ↔
      SaysDrawable reader event := by
  change ((reader.session.step event).AllScreens fun state => state.view.Framed) ↔ _
  by_cases heard : ∃ message, event = .hear message
  · obtain ⟨message, rfl⟩ := heard
    change ((reader.session.handle message).AllScreens fun state => state.view.Framed) ↔ _
    by_cases known : ∃ attached, message = .attached attached
    · obtain ⟨attached, rfl⟩ := known
      exact ServerSession.handleAttached_framed_iff framed attached
    · by_cases opens : ∃ opened, message = .termOpened opened
      · obtain ⟨opened, rfl⟩ := opens
        constructor
        · intro all
          obtain ⟨terminal, there, id⟩ :=
            ServerSession.exists_ensured reader.session opened.term
          have told := all _ (ServerSession.mem_setTerminal.mpr ⟨terminal, there, rfl⟩)
          rw [if_pos id] at told
          exact (opened_framed_iff terminal.mirror _).mp told
        · intro within
          exact framed.opened framed_lasting fun mirror =>
            (opened_framed_iff mirror _).mpr within
      · have still := framed.handle framed_lasting (not_exists.mp known) (not_exists.mp opens)
        refine iff_of_true still ?_
        cases message with
        | attached attached => exact absurd ⟨attached, rfl⟩ known
        | termOpened opened => exact absurd ⟨opened, rfl⟩ opens
        | _ => trivial
  · refine iff_of_true (framed.own (not_exists.mp heard)) ?_
    cases event with
    | hear message => exact absurd ⟨message, rfl⟩ heard
    | _ => trivial

/-- Every mirror a client holds can be drawn all along a run exactly if all along the run
what it is said can be. -/
theorem mirrors_formed_iff {reader : Reader} (none : reader.session.terminals = [])
    {events : List ReaderEvent} (allowed : readerSystem.AllowsAll reader events) :
    readerSystem.Throughout
        (fun reader event => (reader.step event).session.AllScreens GridState.Formed) reader events ↔
      readerSystem.Throughout SaysDrawable reader events := by
  have empty : ∀ kept, reader.session.AllScreens kept := by
    intro kept terminal there
    rw [none] at there
    cases there
  refine @System.throughout_kept_iff _ _ readerSystem
    (fun reader => reader.session.AllScreens GridState.Kept)
    (fun reader => reader.session.AllScreens GridState.Formed) _ (fun _ _ kept _ => kept_step kept)
    ?_ _ (empty _) (empty _) _ allowed
  intro reader event kept formed _
  rw [← framed_step_iff fun terminal there => (formed terminal there).framed]
  constructor
  · exact fun formed terminal there => (formed terminal there).framed
  · exact fun framed terminal there =>
      ⟨framed terminal there, (kept_step kept terminal there).few_lines⟩

/-- A message some frame holds. -/
def Received (message : Message) : Prop := ∃ bytes length, Proto.decode bytes = .ok (message, length)

end

/-! ### A terminal opened -/

/-- A terminal of one cell is opened, and then another no grid is as large as. -/
def hugeEvents : List ReaderEvent :=
  [.hear (.termOpened { term := 5, columns := 1, rows := 1 }),
    .hear (.termOpened { term := 6, columns := 65535, rows := 65535 })]

/-- Two terminals, of which one has scrolled a line away. -/
def drawnTerminals : List TerminalState :=
  let letter : Cell := ⟨[97], 1, {}⟩
  [{ term := 5, columns := 2, rows := 1, cursor := { column := 1 }, grid := [⟨2, letter⟩] },
    { term := 6, columns := 1, rows := 1, grid := [⟨1, letter⟩], scrollback := [[⟨1, letter⟩]] }]

/-- A terminal is opened, grows, writes a line, scrolls one away and puts its cursor at the edge. The
session is sent whole then, with another terminal in it, and that grows too. -/
def drawnEvents : List ReaderEvent :=
  let letter : Cell := ⟨[97], 1, {}⟩
  [.hear (.termOpened { term := 5, columns := 2, rows := 2 }),
    .hear (.gridDelta { term := 5, seq := 1, ops :=
      [.resize ⟨3, 2⟩, .cells ⟨1, 0, [⟨3, letter⟩]⟩, .scrollbackPush ⟨[[⟨3, letter⟩]]⟩,
        .cursor { column := 3, row := 1 }] }),
    .hear (.attached ⟨1, { terminals := drawnTerminals }⟩),
    .hear (.gridDelta { term := 6, seq := 1, ops := [.resize ⟨4, 1⟩, .cursor { column := 4 }] })]

/-- All of that can be drawn, and what is drawn last is the one terminal as it was sent and the other
as it has grown. -/
theorem mirrors_formed_drawn :
    (@readerSystem asciiVision).Throughout (fun reader event =>
      (@Reader.step asciiVision reader event).session.AllScreens GridState.Formed) {} drawnEvents ∧
    (((drawnEvents.take 2).foldl (@Reader.step asciiVision) {}).session.terminals.map fun terminal =>
      (terminal.id, terminal.mirror.state.cells)) = [(5, ⟨3, 2⟩)] ∧
    ((drawnEvents.foldl (@Reader.step asciiVision) {}).session.terminals.map fun terminal =>
      (terminal.id, terminal.mirror.state.cells)) = [(5, ⟨2, 1⟩), (6, ⟨4, 1⟩)] := by
  have sized : Size.Within ⟨2, 2⟩ := by decide
  have inside : ∀ said ∈ drawnTerminals, (statedCursor said).Inside (statedSize said) := by decide
  have allowed : (@readerSystem asciiVision).AllowsAll {} drawnEvents :=
    ⟨trivial, trivial, trivial, trivial, trivial⟩
  exact ⟨(@mirrors_formed_iff asciiVision {} rfl drawnEvents allowed).mpr
    ⟨sized, trivial, fun _ said last => inside said (lastSaid_mem last).1, trivial, trivial⟩,
    by decide +kernel⟩

/-- A peer can have a client hold a terminal no grid is as large as. -/
theorem mirrors_unbounded : ¬∀ reader events, reader.session.terminals = [] →
    (@readerSystem asciiVision).AllowsAll reader events →
      (∀ message, .hear message ∈ events → @Received asciiVision message) →
        (@readerSystem asciiVision).Throughout
          (fun reader event =>
            (@Reader.step asciiVision reader event).session.AllScreens GridState.Formed)
          reader events := by
  intro always
  have received : ∀ message, .hear message ∈ hugeEvents → @Received asciiVision message := by
    intro message heard
    have plain : message.runs = [] ∧ message.blob = none ∧ Proto.encode message ≠ [] := by
      simp only [hugeEvents, List.mem_cons, ReaderEvent.hear.injEq, List.not_mem_nil, or_false]
        at heard
      rcases heard with rfl | rfl
      · exact ⟨rfl, rfl, by decide⟩
      · exact ⟨rfl, rfl, by decide⟩
    obtain ⟨runs, blob, framed⟩ := plain
    refine ⟨_, _, @Proto.decode_encode_append asciiVision asciiVision_lawful message ?_ ?_ framed []⟩
    · intro run there
      rw [runs] at there
      cases there
    · intro field there
      rw [blob] at there
      cases there
  obtain ⟨_, huge, _⟩ := always {} hugeEvents rfl ⟨trivial, trivial, trivial⟩ received
  obtain ⟨terminal, there, wide⟩ : ∃ terminal ∈ (hugeEvents.foldl (@Reader.step asciiVision)
      {}).session.terminals, ¬terminal.mirror.state.cells.Within := by
    refine ⟨_, List.mem_of_getElem? (i := 1) rfl, ?_⟩
    decide
  exact wide (huge terminal there).framed.within

end Ckmux
