import Mathlib
import Ckmux.Server.PasteOrder

/-!
# Every chunk accounted for

A chunk from a client that stays is acknowledged once, about to be, or waits in the
slot of a terminal that is there and whose owner is connected. Only a session that
ends with a slot in use upsets this: its terminals are closed and the slot stays.
-/

namespace Ckmux

open Proto (PasteChunk)
open Semantics (System)
open PasteServer (sentTo)

/-- What is at the third place may as well be at the first. -/
theorem perm_third_first {α : Type} (first second third rest : List α) :
    (first ++ (second ++ (third ++ rest))).Perm (third ++ (first ++ (second ++ rest))) :=
  ((List.perm_append_comm_assoc second third rest).append_left first).trans
    (List.perm_append_comm_assoc first third _)

namespace PasteServer

variable (server : PasteServer) (pending : PendingPaste) (client : ClientId) (term : TerminalId)

/-- One more to acknowledge. -/
theorem account_owes {later : PasteServer} (acked : later.acked = server.acked)
    (owed : owedBy later.tasks = pending :: owedBy server.tasks)
    (line : later.waitingAt term = server.waitingAt term) :
    (later.account client term).Perm
      (sentTo client term [pending] ++ server.account client term) := by
  have split : sentTo client term (pending :: owedBy server.tasks) =
      sentTo client term [pending] ++ sentTo client term (owedBy server.tasks) :=
    sentTo_append client term [pending] _
  rw [account, account, acked, owed, line, split, List.append_assoc]
  exact List.perm_append_comm_assoc ..

/-- A chunk written is one more to acknowledge. -/
theorem account_writePasteChunk :
    ((server.writePasteChunk pending).account client term).Perm
      (sentTo client term [pending] ++ server.account client term) := by
  refine account_owes server pending client term rfl ?_ (waitingAt_writePasteChunk ..)
  rw [writePasteChunk]
  cases pending.finished <;> simp

/-- A chunk at the end of a line is one more that waits. -/
theorem account_waits {slot : PasteSlot} (found : server.slots pending.chunk.term = some slot) :
    ((server.putSlot pending.chunk.term
      { slot with waiting := slot.waiting ++ [pending] }).account client term).Perm
        (sentTo client term [pending] ++ server.account client term) := by
  have line : sentTo client term ((server.putSlot pending.chunk.term
      { slot with waiting := slot.waiting ++ [pending] }).waitingAt term) =
        sentTo client term (server.waitingAt term) ++ sentTo client term [pending] := by
    by_cases same : term = pending.chunk.term
    · rw [same, waitingAt_putSlot_self, sentTo_append, waitingAt, found]
      rfl
    · have elsewhere : sentTo client term [pending] = [] :=
        sentTo_other (fun own => same own.2.symm) []
      rw [waitingAt_putSlot_of_ne _ same, elsewhere, List.append_nil]
  rw [account, account, line]
  exact ((List.perm_append_comm.append_left _).append_left _).trans (perm_third_first ..)

/-- The first in line taken out of it is one less that waits. -/
theorem account_popped {slot : PasteSlot} {waiting : List PendingPaste} {tasks : List PasteTask}
    (next_task : server.tasks = .drain pending.chunk.term :: tasks)
    (found : server.slots pending.chunk.term = some slot) (line : slot.waiting = pending :: waiting) :
    (server.account client term).Perm (sentTo client term [pending] ++
      (PasteServer.putSlot { server with tasks := tasks } pending.chunk.term
        { slot with waiting := waiting }).account client term) := by
  have before : sentTo client term (server.waitingAt term) =
      sentTo client term [pending] ++ sentTo client term ((PasteServer.putSlot
        { server with tasks := tasks } pending.chunk.term
          { slot with waiting := waiting }).waitingAt term) := by
    by_cases same : term = pending.chunk.term
    · rw [same, waitingAt_putSlot_self, waitingAt, found, Option.map_some, Option.getD_some, line]
      exact sentTo_append client _ [pending] waiting
    · have elsewhere : sentTo client term [pending] = [] :=
        sentTo_other (fun own => same own.2.symm) []
      rw [waitingAt_putSlot_of_ne _ same, elsewhere]
      rfl
  rw [account, account, before, next_task, owedBy_drain]
  exact perm_third_first ..

end PasteServer

/-- Every chunk a client has sent that stays is answered, owed an answer, or waiting. -/
structure Accounted (server : PasteServer) : Prop where
  housed : server.Housed
  counted : ∀ client term, server.Stays client →
    (sentTo client term server.arrived).Perm (server.account client term)

/-- A session ends when none of its terminals has a slot. -/
def unused (server : PasteServer) : PasteEvent → Prop
  | .kill term => server.slots term = none
  | _ => True

namespace Accounted

variable {server later : PasteServer}

/-- The account holds through any step that settles it. -/
theorem settles (accounted : Accounted server) (arrived : later.arrived = server.arrived)
    (settles : Settles server later) : Accounted later where
  housed := settles.housed
  counted client term stays := by
    rw [arrived]
    exact (accounted.counted client term (settles.stays client stays)).trans
      (settles.account client term stays).symm

/-- A client that was not there before has sent nothing. -/
theorem born (accounted : Accounted server) (tidy : Tidy server) {clients : ClientId → Life}
    {terminals : TerminalId → Life}
    (known_client : ∀ client, server.clients client ≠ .unborn → clients client = server.clients client)
    (known_terminal : ∀ term, server.terminals term ≠ .unborn →
      terminals term = server.terminals term) :
    Accounted { server with clients := clients, terminals := terminals } := by
  constructor
  · intro term slot found
    have live := accounted.housed term slot found
    exact (known_terminal term (live.trans_ne (by decide))).trans live
  · intro client term stays
    by_cases unborn : server.clients client = .unborn
    · have nothing : ∀ log : List PendingPaste, (∀ pending ∈ log, server.Traced pending) →
          sentTo client term log = [] := by
        intro log traced
        apply List.filter_eq_nil_iff.mpr
        intro pending listed own
        apply tidy.known pending (traced pending listed)
        rw [(of_decide_eq_true own).1, unborn]
      have owed : ∀ pending ∈ owedBy server.tasks, server.Traced pending := by
        intro pending listed
        obtain ⟨task, called, owed⟩ := List.mem_filterMap.mp listed
        cases task with
        | ack other =>
            cases owed
            exact .inr (.inr (.inl called))
        | drain | close | remove => cases owed
      have waited : ∀ pending ∈ server.waitingAt term, server.Traced pending := fun pending listed =>
        .inr (.inr (.inr ⟨term, PasteServer.mem_waitingAt listed⟩))
      rw [PasteServer.account, nothing _ fun _ listed => .inl listed,
        nothing _ fun _ listed => .inr (.inl listed), nothing _ owed]
      exact (nothing _ waited).symm ▸ .refl _
    · exact accounted.counted client term ⟨(known_client client unborn).symm.trans stays.1, stays.2⟩

/-- The account holds through one event, where a terminal killed has no slot. -/
theorem moves (accounted : Accounted server) (tidy : Tidy server) {event : PasteEvent}
    (spared : unused server event) (moves : Moves server event later) : Accounted later := by
  cases moves with
  | yields yields settles =>
      refine accounted.settles yields.arrived (settles accounted.housed ?_)
      rintro term rfl
      exact spared
  | born clients terminals _ known_client known_terminal =>
      exact accounted.born tidy known_client known_terminal
  | @answered client chunk _ _ quiet _ yields settles =>
      have heard : Accounted { server with
          arrived := server.arrived ++ [server.pendingPaste client chunk]
          tasks := [.ack (server.pendingPaste client chunk)] } := by
        refine ⟨accounted.housed, fun other term stays => ?_⟩
        have before := accounted.counted other term ⟨stays.1, by simp [quiet]⟩
        rw [PasteServer.account, quiet] at before
        rw [PasteServer.account, sentTo_append]
        refine (before.append_right _).trans ?_
        rw [List.append_assoc]
        exact List.perm_append_comm.append_left _
      exact heard.settles yields.arrived (settles accounted.housed)
  | @waits client chunk slot quiet _ found =>
      have waits := @PasteServer.account_waits
        { server with arrived := server.arrived ++ [server.pendingPaste client chunk] }
        (server.pendingPaste client chunk)
      constructor
      · intro term later kept
        by_cases same : term = chunk.term
        · subst same
          exact accounted.housed _ slot found
        · exact accounted.housed term later ((Function.update_of_ne same ..).symm.trans kept)
      · intro other term stays
        refine .trans ?_ (waits other term found).symm
        have before := accounted.counted other term stays
        exact sentTo_append other term .. ▸ (before.append_right _).trans List.perm_append_comm
  | @writes client chunk quiet writes mine =>
      constructor
      · intro term slot kept
        by_cases same : term = chunk.term
        · subst same
          exact writes.terminal_live
        · exact accounted.housed term slot ((Function.update_of_ne same ..).symm.trans kept)
      · intro other term stays
        refine .trans ?_ (PasteServer.account_writePasteChunk _ _ other term).symm
        have before := accounted.counted other term ⟨stays.1, by simp [quiet]⟩
        exact sentTo_append other term .. ▸ (before.append_right _).trans List.perm_append_comm
  | @drained _ slot next waiting tasks next_task found idle line writes =>
      constructor
      · intro term later kept
        by_cases same : term = next.chunk.term
        · subst same
          exact writes.terminal_live
        · refine accounted.housed term later ?_
          have popped := (Function.update_of_ne same ..).symm.trans kept
          exact (Function.update_of_ne same ..).symm.trans popped
      · intro client term stays
        have staying : server.Stays client := by
          refine ⟨stays.1, fun listed => stays.2 ?_⟩
          rw [PasteServer.close_writePasteChunk]
          rw [next_task] at listed
          exact (List.mem_cons.mp listed).resolve_left (by simp)
        exact (accounted.counted client term staying).trans
          ((server.account_popped next client term next_task found line).trans
            (PasteServer.account_writePasteChunk _ next client term).symm)

/-- The account holds wherever the server gets to. -/
theorem reachable {server : PasteServer} (reached : (pasteSystem.guarded unused).Reachable server) :
    Accounted server := by
  have both : (Tidy server ∧ Drains server none) ∧ Accounted server := by
    apply System.Reachable.invariant ?_ ?_ reached
    · intro state initial
      refine ⟨tidy_of_reachable (.start initial), ?_⟩
      obtain ⟨clients, _, slots, _⟩ := initial
      refine ⟨fun term slot found => ?_, fun client _ stays => ?_⟩
      · rw [slots] at found
        cases found
      · have live := stays.1
        rw [clients] at live
        cases live
    · rintro state event ⟨⟨tidy, drains⟩, accounted⟩ ⟨allowed, spared⟩
      obtain ⟨moves, drained⟩ := step_moves tidy drains allowed
      exact ⟨⟨tidy.moves moves, drained⟩, accounted.moves tidy spared moves⟩
  exact both.2

end Accounted

/-- As long as no session ends while one of its terminals has a slot, every chunk of a
client that stays is acknowledged once or about to be, or waits; and every slot is of a
terminal that is there and is held by somebody connected, or is about to be drained. -/
theorem pastes_accounted {server : PasteServer}
    (reached : (pasteSystem.guarded unused).Reachable server) :
    (∀ client, server.Stays client → ∀ term, (sentTo client term server.arrived).Perm
      (sentTo client term server.acked ++ (sentTo client term (owedBy server.tasks) ++
        sentTo client term (server.waitingAt term)))) ∧
      (∀ term slot, server.slots term = some slot → server.terminals term = .live ∧
        (server.clients slot.owner = .live ∨ .drain term ∈ server.tasks)) ∧
      (server.tasks = [] → owedBy server.tasks = [] ∧
        ∀ term slot, server.slots term = some slot → server.clients slot.owner = .live) := by
  obtain ⟨tidy, drains⟩ := tidy_of_reachable reached.unguarded
  have accounted := Accounted.reachable reached
  have held : ∀ term slot, server.slots term = some slot →
      server.clients slot.owner = .live ∨ .drain term ∈ server.tasks := by
    intro term slot found
    by_cases idle : slot.owner = 0
    · exact .inr (drains term slot found idle (Option.some_ne_none term).symm)
    · exact .inl (tidy.connected term slot found idle)
  refine ⟨fun client stays term => accounted.counted client term stays,
    fun term slot found => ⟨accounted.housed term slot found, held term slot found⟩, ?_⟩
  intro quiet
  refine ⟨by rw [quiet, owedBy_nil], fun term slot found => ?_⟩
  refine (held term slot found).resolve_right ?_
  rw [quiet]
  exact List.not_mem_nil

/-- One client is in the middle of a paste and another's first chunk waits. -/
def heldSlot : PasteServer :=
  desk (some ⟨1, [deskChunk 2 1 0]⟩) [] [deskChunk 1 1 0, deskChunk 2 1 0] [deskChunk 1 1 0]
    [deskChunk 1 1 0]

/-- Such a server is reached. -/
theorem heldSlot_reached : (pasteSystem.guarded unused).Reachable heldSlot := by
  have begun : (pasteSystem.guarded unused).Reachable
      ⟨fun _ => .unborn, fun _ => .unborn, fun _ => none, [], [], [], []⟩ :=
    System.Reachable.start ⟨rfl, rfl, rfl, rfl, rfl, rfl, rfl⟩
  have one := begun.take (.connect 1) ⟨⟨rfl, by decide, rfl⟩, trivial⟩ rfl
  have two := one.take (.connect 2) ⟨⟨rfl, by decide, rfl⟩, trivial⟩ rfl
  have seated : (pasteSystem.guarded unused).Reachable (desk none [] [] [] []) :=
    two.take (.spawn 7) ⟨⟨rfl, rfl⟩, trivial⟩ (by simp [PasteServer.step, desk])
  have taken : (pasteSystem.guarded unused).Reachable
      (desk (some ⟨1, []⟩) [.ack (deskChunk 1 1 0)] [deskChunk 1 1 0] [deskChunk 1 1 0] []) :=
    seated.take (.arrive 1 (deskChunk 1 1 0).chunk false) ⟨⟨rfl, rfl⟩, trivial⟩
      (by simp [PasteServer.step, PasteServer.handlePasteChunk, PasteServer.putSlot,
        PasteServer.writePasteChunk, PasteServer.pendingPaste, sentTo, desk, deskChunk,
        PendingPaste.finished])
  have acked : (pasteSystem.guarded unused).Reachable
      (desk (some ⟨1, []⟩) [] [deskChunk 1 1 0] [deskChunk 1 1 0] [deskChunk 1 1 0]) :=
    taken.take (.work 0 [7]) ⟨⟨List.cons_ne_nil _ _, desk_lists _ _ _ _ _⟩, trivial⟩
      (desk_acks (deskChunk 1 1 0) (.inl rfl))
  exact acked.take (.arrive 2 (deskChunk 2 1 0).chunk false) ⟨⟨rfl, rfl⟩, trivial⟩
    (by simp [PasteServer.step, PasteServer.handlePasteChunk, PasteServer.putSlot,
      PasteServer.pendingPaste, sentTo, heldSlot, desk, deskChunk])

/-- The second client's chunk is accounted for as one that waits. -/
theorem pastes_accounted_held :
    heldSlot.Stays 2 ∧ sentTo 2 7 (heldSlot.waitingAt 7) = [deskChunk 2 1 0] ∧
      (sentTo 2 7 heldSlot.arrived).Perm (sentTo 2 7 heldSlot.acked ++
        (sentTo 2 7 (owedBy heldSlot.tasks) ++ sentTo 2 7 (heldSlot.waitingAt 7))) :=
  ⟨⟨rfl, List.not_mem_nil⟩, rfl,
    (pastes_accounted heldSlot_reached).1 2 ⟨rfl, List.not_mem_nil⟩ 7⟩

/-- The session ends, and the slot is still there with what waits in it. -/
theorem paste_outlives : ∃ server, pasteSystem.Reachable server ∧ server.tasks = [] ∧
    server.terminals 7 ≠ .live ∧ server.slots 7 = some ⟨1, [deskChunk 2 1 0]⟩ ∧
      server.clients 2 = .live ∧ sentTo 2 7 server.acked = [] := by
  have killed := heldSlot_reached.unguarded.take (.kill 7) ⟨rfl, rfl⟩ rfl
  exact ⟨_, killed, rfl, by decide, rfl, rfl, rfl⟩

end Ckmux
