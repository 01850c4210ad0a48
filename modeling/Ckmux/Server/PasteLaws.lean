import Mathlib
import Ckmux.Server.Paste

/-!
# What each paste operation does

A slot written to, put back or forgotten, and the logs read for one client and one
terminal.
-/

namespace Ckmux

open PasteServer (sentTo)

namespace PasteServer

/-- What waits at a terminal; nothing where it has no slot. -/
def waitingAt (server : PasteServer) (term : TerminalId) : List PendingPaste :=
  ((server.slots term).map fun slot => slot.waiting).getD []

/-- A slot forgotten is gone, and what waited there is acknowledged. -/
theorem forgetPasteSlot_eq (server : PasteServer) (term : TerminalId) :
    ∃ acks : List PasteTask, (∀ task ∈ acks, ∃ pending, task = .ack pending) ∧
      (∀ pending, .ack pending ∈ acks →
        ∃ slot, server.slots term = some slot ∧ pending ∈ slot.waiting) ∧
      server.forgetPasteSlot term =
        { server with
          slots := Function.update server.slots term none
          tasks := acks ++ server.tasks } := by
  cases found : server.slots term with
  | none =>
      refine ⟨[], by simp, by simp, ?_⟩
      have gone : Function.update server.slots term none = server.slots :=
        Function.update_eq_self_iff.mpr found.symm
      rw [PasteServer.forgetPasteSlot, found, gone]
      rfl
  | some slot =>
      refine ⟨slot.waiting.map .ack, ?_, ?_, ?_⟩
      · intro task listed
        obtain ⟨pending, _, rfl⟩ := List.mem_map.mp listed
        exact ⟨_, rfl⟩
      · intro pending listed
        obtain ⟨other, waiting, same⟩ := List.mem_map.mp listed
        exact ⟨slot, rfl, PasteTask.ack.inj same ▸ waiting⟩
      · rw [PasteServer.forgetPasteSlot, found]

variable (server : PasteServer) (pending : PendingPaste)

/-- What waits at a terminal is what its new slot says. -/
theorem waitingAt_putSlot_self (term : TerminalId) (slot : PasteSlot) :
    (server.putSlot term slot).waitingAt term = slot.waiting := by
  rw [waitingAt, putSlot]
  simp only [Function.update_self, Option.map_some, Option.getD_some]

/-- Another terminal's line is as it was. -/
theorem waitingAt_putSlot_of_ne {term other : TerminalId} (another : other ≠ term)
    (slot : PasteSlot) : (server.putSlot term slot).waitingAt other = server.waitingAt other := by
  rw [waitingAt, waitingAt, putSlot]
  simp only [Function.update_of_ne another]

/-- A chunk typed leaves the turn with its client, or with nobody if it was the last. -/
theorem writePasteChunk_slots_self :
    (server.writePasteChunk pending).slots pending.chunk.term =
      some { (server.slots pending.chunk.term).getD {} with
        owner := if pending.finished then 0 else pending.client } :=
  Function.update_self ..

/-- Typing a chunk leaves another terminal's slot alone. -/
theorem writePasteChunk_slots_of_ne {term : TerminalId} (other : term ≠ pending.chunk.term) :
    (server.writePasteChunk pending).slots term = server.slots term :=
  Function.update_of_ne other ..

/-- A slot taken first is found again. -/
theorem writePasteChunk_putSlot :
    (server.putSlot pending.chunk.term
      ((server.slots pending.chunk.term).getD {})).writePasteChunk pending =
        server.writePasteChunk pending := by
  rw [writePasteChunk, writePasteChunk, putSlot]
  simp only [Function.update_self, Option.getD_some, Function.update_idem]

/-- A chunk typed is the latest in its terminal's log. -/
theorem writtenTo_own :
    (server.writePasteChunk pending).writtenTo pending.chunk.term =
      server.writtenTo pending.chunk.term ++ [pending] := by
  rw [writtenTo, writePasteChunk, List.filter_append, List.filter_singleton, decide_eq_true rfl]
  rfl

/-- A chunk typed is not in another terminal's log. -/
theorem writtenTo_other {term : TerminalId} (other : term ≠ pending.chunk.term) :
    (server.writePasteChunk pending).writtenTo term = server.writtenTo term := by
  rw [writtenTo, writePasteChunk, List.filter_append, List.filter_singleton,
    decide_eq_false other.symm]
  exact List.append_nil _

/-- A chunk written takes nothing from what waits. -/
theorem waitingAt_writePasteChunk (term : TerminalId) :
    (server.writePasteChunk pending).waitingAt term = server.waitingAt term := by
  rw [waitingAt, waitingAt]
  by_cases same : term = pending.chunk.term
  · rw [same, writePasteChunk_slots_self]
    cases server.slots pending.chunk.term <;> rfl
  · rw [writePasteChunk_slots_of_ne server pending same]

/-- Typing a chunk makes no client close. -/
theorem close_writePasteChunk (client : ClientId) :
    .close client ∈ (server.writePasteChunk pending).tasks ↔ .close client ∈ server.tasks := by
  rw [writePasteChunk]
  cases pending.finished <;> simp

/-- Typing a chunk takes no terminal away. -/
theorem remove_writePasteChunk (term : TerminalId) :
    .remove term ∈ (server.writePasteChunk pending).tasks ↔ .remove term ∈ server.tasks := by
  rw [writePasteChunk]
  cases pending.finished <;> simp

/-- Whose the slot is once a chunk was written, and what waits there. -/
theorem slot_writePasteChunk (slot : PasteSlot)
    (found : (server.writePasteChunk pending).slots pending.chunk.term = some slot) :
    slot.owner = (if pending.finished then 0 else pending.client) ∧
      slot.waiting = server.waitingAt pending.chunk.term := by
  rw [writePasteChunk_slots_self] at found
  cases found
  refine ⟨rfl, ?_⟩
  rw [waitingAt]
  cases server.slots pending.chunk.term <;> rfl

/-- What waits at a terminal waits in its slot. -/
theorem mem_waitingAt {server : PasteServer} {term : TerminalId} {pending : PendingPaste}
    (listed : pending ∈ server.waitingAt term) :
    ∃ slot, server.slots term = some slot ∧ pending ∈ slot.waiting := by
  rw [waitingAt] at listed
  cases found : server.slots term with
  | none =>
      rw [found] at listed
      cases listed
  | some slot =>
      rw [found] at listed
      exact ⟨slot, rfl, listed⟩

/-- What holds of everything in a terminal's slot holds of what waits there. -/
theorem forall_waitingAt {server : PasteServer} {term : TerminalId} {p : PendingPaste → Prop}
    (every : ∀ slot, server.slots term = some slot → ∀ other ∈ slot.waiting, p other) :
    ∀ other ∈ server.waitingAt term, p other := by
  intro other listed
  obtain ⟨slot, found, waiting⟩ := mem_waitingAt listed
  exact every slot found other waiting

end PasteServer

/-! ### Logs -/

/-- The chunks a client sent to a terminal are those in the log of that client and that terminal. -/
theorem mem_sentTo {client : ClientId} {term : TerminalId} {log : List PendingPaste}
    {pending : PendingPaste} :
    pending ∈ sentTo client term log ↔
      pending ∈ log ∧ pending.client = client ∧ pending.chunk.term = term := by
  rw [sentTo, List.mem_filter, decide_eq_true_iff]

/-- What was sent in two logs, one after the other. -/
theorem sentTo_append (client : ClientId) (term : TerminalId) (front back : List PendingPaste) :
    sentTo client term (front ++ back) = sentTo client term front ++ sentTo client term back :=
  List.filter_append ..

/-- A chunk of this client for this terminal stands at the head. -/
theorem sentTo_own (pending : PendingPaste) (log : List PendingPaste) :
    sentTo pending.client pending.chunk.term (pending :: log) =
      pending :: sentTo pending.client pending.chunk.term log := by
  rw [sentTo, List.filter_cons_of_pos]
  · rfl
  · rw [decide_eq_true_iff]
    exact ⟨rfl, rfl⟩

/-- A chunk of another client, or for another terminal, counts for nothing here. -/
theorem sentTo_other {client : ClientId} {term : TerminalId} {pending : PendingPaste}
    (other : ¬(pending.client = client ∧ pending.chunk.term = term)) (log : List PendingPaste) :
    sentTo client term (pending :: log) = sentTo client term log := by
  rw [sentTo, List.filter_cons_of_neg]
  · rfl
  · rwa [decide_eq_true_iff]

/-- What one client has had written to a terminal is part of all that was. -/
theorem sentTo_writtenTo (server : PasteServer) (client : ClientId) (term : TerminalId) :
    sentTo client term server.written =
      (server.writtenTo term).filter fun pending => pending.client = client := by
  rw [sentTo, PasteServer.writtenTo, List.filter_filter]
  congr 1
  funext pending
  rw [← Bool.decide_and]

end Ckmux
