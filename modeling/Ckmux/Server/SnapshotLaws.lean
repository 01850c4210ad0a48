import Mathlib
import Ckmux.Agreement.History
import Ckmux.Proto.RoundTrip
import Ckmux.Proto.Sayable
import Ckmux.Server.StateLaws

/-!
# What fits in a snapshot

A history takes the newest lines its share has room for, and costs exactly what is
counted. Terminal by terminal what remains covers what is still to be given, so a
snapshot whose screens are within the budget is within it whole.
-/

namespace Ckmux

open Grammar (Bytes Occupies)
open Data (rows)
open Proto (CellRun Message TerminalState encodedRuns encodedLines kSnapshotPayloadBudget toRuns)

/-! ### One history -/

/-- The lines a budget takes are the first there are, and cost what is counted. -/
theorem linesWithin_spec {budget spent : Nat} (within : spent ≤ budget)
    (lines : List (List CellRun)) :
    (linesWithin budget spent lines).1 <+: lines ∧
      (linesWithin budget spent lines).2 =
        spent + ((linesWithin budget spent lines).1.map encodedRuns).sum ∧
      (linesWithin budget spent lines).2 ≤ budget := by
  induction lines generalizing spent with
  | nil => exact ⟨List.prefix_rfl, rfl, within⟩
  | cons runs older ih =>
      rw [linesWithin]
      by_cases full : spent + encodedRuns runs > budget
      · rw [if_pos full]
        exact ⟨List.nil_prefix, rfl, within⟩
      · rw [if_neg full]
        obtain ⟨front, cost, below⟩ := ih (Nat.le_of_not_lt full)
        refine ⟨(List.prefix_cons_inj runs).mpr front, ?_, below⟩
        dsimp only
        rw [cost, List.map_cons, List.sum_cons, Nat.add_assoc]

/-- A terminal's own history, oldest first, in lines as wide as it is said to be. -/
def TerminalSubsession.history (source : TerminalSubsession) (columns : UInt16) :
    List (List CellRun) :=
  (rows (max 1 columns.toNat) source.scrollback).map toRuns

/-- A history filled in is the newest of the terminal's own and costs what is said. -/
theorem fillHistory_spec {state : TerminalState} (none_yet : state.scrollback = [])
    (source : TerminalSubsession) (budget : Nat) :
    (fillHistory state source budget).1 =
        { state with scrollback := (fillHistory state source budget).1.scrollback } ∧
      (fillHistory state source budget).1.scrollback <:+ source.history state.columns ∧
      (fillHistory state source budget).1.encodedSize =
        state.encodedSize + (fillHistory state source budget).2 ∧
      (fillHistory state source budget).2 ≤ budget := by
  have newest : (List.range (source.scrollback.length / max 1 state.columns.toNat)).reverse.map
      (fun index => toRuns (Data.row (max 1 state.columns.toNat) source.scrollback index)) =
        (source.history state.columns).reverse := by
    rw [TerminalSubsession.history, rows, List.map_map, ← List.map_reverse]
    rfl
  rw [fillHistory]
  dsimp only
  rw [newest]
  obtain ⟨front, cost, below⟩ :=
    linesWithin_spec (Nat.zero_le budget) (source.history state.columns).reverse
  generalize linesWithin budget 0 (source.history state.columns).reverse = kept at front cost below
  refine ⟨rfl, ?_, ?_, below⟩
  · rw [← List.reverse_prefix, List.reverse_reverse]
    exact front
  · simp only [TerminalState.encodedSize, encodedLines, none_yet, List.map_nil, List.sum_nil,
      List.map_reverse, List.sum_reverse]
    omega

/-! ### All of them -/

/-- A terminal whose history was filled in: nothing else of it changed, it is the newest
of the terminal's own, and costs what was taken of its share. -/
structure Filled (terminal : TerminalId → Option Terminal) (state : TerminalState)
    (filled : TerminalState × Share) : Prop where
  rest : filled.1 = { state with scrollback := filled.1.scrollback }
  newest : ∀ held, terminal state.term = some held →
    filled.1.scrollback <:+ held.session.history state.columns
  measured : filled.1.encodedSize = state.encodedSize + filled.2.cost
  cost_le : filled.2.cost ≤ filled.2.share
  share_le : filled.2.share ≤ filled.2.remaining
  left_pos : 1 ≤ filled.2.left

/-- Each terminal's history is given no more than what then remains, and all of them
together no more than there was. -/
theorem shareHistories_filled (terminal : TerminalId → Option Terminal)
    {states : List TerminalState} (none_yet : ∀ state ∈ states, state.scrollback = [])
    (remaining : Nat) :
    List.Forall₂ (Filled terminal) states
        (shareHistories terminal remaining states.length states) ∧
      ((shareHistories terminal remaining states.length states).map
        fun filled => filled.2.cost).sum ≤ remaining := by
  induction states generalizing remaining with
  | nil => exact ⟨.nil, Nat.zero_le _⟩
  | cons state states ih =>
      have share_le : remaining / max 1 (states.length + 1) ≤ remaining := Nat.div_le_self ..
      have first_none := none_yet state List.mem_cons_self
      rw [List.length_cons, shareHistories]
      cases found : terminal state.term with
      | none =>
          obtain ⟨others, total⟩ := ih (fun other listed =>
            none_yet other (List.mem_cons_of_mem _ listed)) (remaining - 0)
          refine ⟨.cons ⟨rfl, ?_, rfl, Nat.zero_le _, share_le, ?_⟩ others, ?_⟩
          · intro held same
            cases found.symm.trans same
          · exact Nat.le_add_left ..
          · simpa using total
      | some held =>
          obtain ⟨rest, newest, measured, within⟩ := fillHistory_spec first_none held.session
            (remaining / max 1 (states.length + 1))
          obtain ⟨others, total⟩ := ih (fun other listed =>
            none_yet other (List.mem_cons_of_mem _ listed))
            (remaining - (fillHistory state held.session
              (remaining / max 1 (states.length + 1))).2)
          refine ⟨.cons ⟨rest, ?_, measured, within, share_le, Nat.le_add_left ..⟩ others, ?_⟩
          · intro other same
            cases found.symm.trans same
            exact newest
          · rw [List.map_cons, List.sum_cons]
            dsimp only
            rw [Nat.add_sub_cancel] at *
            omega

/-- Sizes add up terminal by terminal. -/
theorem Filled.total {terminal : TerminalId → Option Terminal} {states : List TerminalState}
    {filled : List (TerminalState × Share)} (every : List.Forall₂ (Filled terminal) states filled) :
    ((filled.map Prod.fst).map TerminalState.encodedSize).sum =
      (states.map TerminalState.encodedSize).sum + (filled.map fun entry => entry.2.cost).sum := by
  induction every with
  | nil => rfl
  | cons first others ih =>
      simp only [List.map_cons, List.sum_cons, ih, first.measured]
      omega

/-- A terminal is announced under its own id. -/
theorem Terminal.announced_id (terminal : Terminal) : terminal.announced.id = terminal.id := rfl

/-- Listing a session's terminals leaves each terminal's emulator as it is. -/
theorem snapshotTerminals_session (server : Server) (held : List TerminalId) (index : UInt16)
    (id : TerminalId) :
    ((server.snapshotTerminals held index).2.terminal id).map Terminal.session =
      (server.terminal id).map Terminal.session := by
  induction held generalizing server index with
  | nil => rfl
  | cons first ids ih =>
      rw [Server.snapshotTerminals]
      cases server.terminal first with
      | none => exact ih server index
      | some terminal =>
          rw [ih, Server.terminal_setTerminal Terminal.announced_id]
          split
          · rw [Option.map_map]
            rfl
          · rfl

/-- What is listed is of a terminal there is. -/
theorem snapshotTerminals_held (server : Server) (held : List TerminalId) (index : UInt16) :
    ∀ state ∈ (server.snapshotTerminals held index).1,
      ∃ terminal, server.terminal state.term = some terminal := by
  induction held generalizing server index with
  | nil => simp [Server.snapshotTerminals]
  | cons id ids ih =>
      rw [Server.snapshotTerminals]
      cases found : server.terminal id with
      | none => exact ih server index
      | some terminal =>
          intro state listed
          rcases List.mem_cons.mp listed with rfl | later
          · exact ⟨terminal, found⟩
          · obtain ⟨other, still⟩ := ih _ _ state later
            rw [Server.terminal_setTerminal Terminal.announced_id] at still
            split at still
            · obtain ⟨former, before, _⟩ := Option.map_eq_some_iff.mp still
              exact ⟨former, before⟩
            · exact ⟨other, still⟩

/-- What is listed of a session's terminals has no history yet. -/
theorem snapshotTerminals_scrollback (server : Server) (held : List TerminalId) (index : UInt16) :
    ∀ state ∈ (server.snapshotTerminals held index).1, state.scrollback = [] := by
  induction held generalizing server index with
  | nil => simp [Server.snapshotTerminals]
  | cons id ids ih =>
      rw [Server.snapshotTerminals]
      cases server.terminal id with
      | none => exact ih server index
      | some terminal =>
          intro state listed
          rcases List.mem_cons.mp listed with rfl | later
          · rfl
          · exact ih _ _ state later

/-! ### The payload -/

/-- The answer to an attachment occupies what its snapshot spends. -/
theorem attached_occupies (session : SessionId) (snapshot : Proto.Snapshot) :
    Occupies (Message.write (.attached ⟨session, snapshot⟩)) (Server.spent snapshot) :=
  Proto.attached_occupies session snapshot

/-- Histories given no more than what the screens leave keep a snapshot within the budget. -/
theorem spent_fillHistories_le {server : Server} {bare : Proto.Snapshot}
    (none_yet : ∀ state ∈ bare.terminals, state.scrollback = [])
    (within : Server.spent bare ≤ kSnapshotPayloadBudget) :
    Server.spent (server.fillHistories bare).1 ≤ kSnapshotPayloadBudget := by
  obtain ⟨every, total⟩ := shareHistories_filled server.terminal none_yet
    (kSnapshotPayloadBudget - Server.spent bare)
  have sizes := Filled.total every
  have bare_spent : Server.spent bare =
      8 + (16 + (bare.terminals.map TerminalState.encodedSize).sum) := rfl
  have filled_spent : Server.spent (server.fillHistories bare).1 =
      8 + (16 + (((shareHistories server.terminal (kSnapshotPayloadBudget - Server.spent bare)
        bare.terminals.length bare.terminals).map Prod.fst).map TerminalState.encodedSize).sum) :=
    rfl
  omega

/-- A snapshot whose screens are within the budget is within it with its histories. No
history costs more than its share or a share more than remains, and each history is
the newest of the terminal's own. -/
theorem fillHistories_within_budget (server : Server) (client : Client) (held : List TerminalId)
    (within : Server.spent
      (server.snapshotFrame client (server.snapshotTerminals held 0).1) ≤ kSnapshotPayloadBudget) :
    let listed := server.snapshotTerminals held 0
    let bare := server.snapshotFrame client listed.1
    let filled := listed.2.fillHistories bare
    let message : Message := .attached ⟨client.session, filled.1⟩
    (∀ payload, Message.write message = some payload →
      payload.length ≤ kSnapshotPayloadBudget ∧
        Proto.encode message = Proto.header payload.length .attached ++ payload) ∧
      filled.1 = { bare with terminals := filled.1.terminals } ∧
      List.Forall₂ (Filled listed.2.terminal) bare.terminals
        (filled.1.terminals.zip filled.2) ∧
      ∀ state ∈ bare.terminals, ∃ terminal still, server.terminal state.term = some terminal ∧
        listed.2.terminal state.term = some still ∧ still.session = terminal.session := by
  intro listed bare filled message
  obtain ⟨every, total⟩ := shareHistories_filled listed.2.terminal
    (snapshotTerminals_scrollback server held 0) (kSnapshotPayloadBudget - Server.spent bare)
  have zipped : filled.1.terminals.zip filled.2 = shareHistories listed.2.terminal
      (kSnapshotPayloadBudget - Server.spent bare) listed.1.length listed.1 :=
    (List.zip_of_prod rfl rfl).symm
  refine ⟨?_, rfl, ?_, ?_⟩
  · have spent_le : Server.spent filled.1 ≤ kSnapshotPayloadBudget :=
      spent_fillHistories_le (snapshotTerminals_scrollback server held 0) within
    intro payload written
    have sized := attached_occupies client.session filled.1 payload written
    have cap : kSnapshotPayloadBudget ≤ Proto.payloadCap .attached := by decide
    refine ⟨sized.le.trans spent_le, Proto.encode_of_write written ?_⟩
    exact sized.le.trans (spent_le.trans cap)
  · rw [zipped]
    exact every
  · intro state state_listed
    obtain ⟨terminal, found⟩ := snapshotTerminals_held server held 0 state state_listed
    have same := snapshotTerminals_session server held 0 state.term
    rw [found, Option.map_some] at same
    obtain ⟨still, kept, session⟩ := Option.map_eq_some_iff.mp same
    exact ⟨terminal, still, found, kept, session⟩

end Ckmux
