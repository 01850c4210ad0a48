import Mathlib
import Ckmux.Server.PasteLaws

/-!
# What every paste operation keeps

A slot holds only chunks for its own terminal, its owner is connected, and a client
being dropped or a terminal being removed has nothing left in any slot. A slot that
nobody holds has a drain to come. Steps that only take away are proved about
together, as `Yields`.
-/

namespace Ckmux

open Proto (PasteChunk)
open Semantics (System)
open PasteServer (sentTo)

namespace PasteServer

/-- Nothing keeps a client from having a chunk written to a terminal. -/
structure Writes (server : PasteServer) (client : ClientId) (term : TerminalId) : Prop where
  client_live : server.clients client = .live
  staying : .close client ∉ server.tasks
  terminal_live : server.terminals term = .live
  kept : .remove term ∉ server.tasks

/-- A chunk that has left its mark: it arrived, is acknowledged or about to be, or
waits. -/
def Traced (server : PasteServer) (pending : PendingPaste) : Prop :=
  pending ∈ server.arrived ∨ pending ∈ server.acked ∨ .ack pending ∈ server.tasks ∨
    ∃ term slot, server.slots term = some slot ∧ pending ∈ slot.waiting

/-- Nothing is acknowledged that was not about to be. -/
theorem traced_of_acked {server : PasteServer} {tasks : List PasteTask}
    (fewer : ∀ pending, .ack pending ∈ tasks → .ack pending ∈ server.tasks)
    (pending : PendingPaste) (told : pending ∈ server.acked ∨ .ack pending ∈ tasks) :
    server.Traced pending := by
  rcases told with acked | owed
  · exact .inr (.inl acked)
  · exact .inr (.inr (.inl (fewer pending owed)))

end PasteServer

/-- What every reached server keeps: a chunk is from a client there has been and waits at the
terminal it is for, and nothing is kept of a client that is to be closed. -/
structure Tidy (server : PasteServer) : Prop where
  nobody : server.clients 0 = .unborn
  known : ∀ pending, server.Traced pending → server.clients pending.client ≠ .unborn
  addressed : ∀ term slot, server.slots term = some slot →
    ∀ pending ∈ slot.waiting, pending.chunk.term = term
  connected : ∀ term slot, server.slots term = some slot → slot.owner ≠ 0 →
    server.clients slot.owner = .live
  released : ∀ client, .close client ∈ server.tasks → client ≠ 0 ∧
    ∀ term slot, server.slots term = some slot →
      slot.owner ≠ client ∧ ∀ pending ∈ slot.waiting, pending.client ≠ client
  forgotten : ∀ term, .remove term ∈ server.tasks → server.slots term = none

/-- A live client has a number other than nought. -/
theorem Tidy.somebody {server : PasteServer} (tidy : Tidy server) {client : ClientId}
    (live : server.clients client = .live) : client ≠ 0 := by
  rintro rfl
  rw [tidy.nobody] at live
  cases live

/-- A slot that nobody holds is to be drained, but for one. -/
def Drains (server : PasteServer) (except : Option TerminalId) : Prop :=
  ∀ term slot, server.slots term = some slot → slot.owner = 0 → except ≠ some term →
    .drain term ∈ server.tasks

/-! ### What a step takes away -/

/-- The later server has nothing that the earlier one had not: slots are released,
emptied and forgotten, and a slot is kept by a client that can still write. -/
structure Yields (earlier later : PasteServer) : Prop where
  written : later.written = earlier.written
  arrived : later.arrived = earlier.arrived
  nobody : later.clients 0 = earlier.clients 0
  clients : ∀ client, later.clients client = .unborn → earlier.clients client = .unborn
  terminals : ∀ term, later.terminals term = .unborn → earlier.terminals term = .unborn
  writes : ∀ client term, later.Writes client term → earlier.Writes client term
  slots : ∀ term slot, later.slots term = some slot → ∃ former, earlier.slots term = some former ∧
    (slot.owner = former.owner ∨ slot.owner = 0) ∧ slot.waiting.Sublist former.waiting
  held : ∀ client term former, later.Writes client term → earlier.slots term = some former →
    former.owner = client → client ≠ 0 → ∃ slot, later.slots term = some slot ∧ slot.owner = client
  connected : ∀ term slot, later.slots term = some slot → slot.owner ≠ 0 →
    earlier.clients slot.owner = .live → later.clients slot.owner = .live
  closing : ∀ client, .close client ∈ later.tasks → .close client ∈ earlier.tasks ∨
    client ≠ 0 ∧ ∀ term slot, later.slots term = some slot →
      slot.owner ≠ client ∧ ∀ pending ∈ slot.waiting, pending.client ≠ client
  removing : ∀ term, .remove term ∈ later.tasks →
    .remove term ∈ earlier.tasks ∨ later.slots term = none
  traced : ∀ pending, later.Traced pending → earlier.Traced pending

namespace Yields

variable {earlier later : PasteServer}

/-- Giving way only takes chunks out of a line. -/
theorem waitingAt (yields : Yields earlier later) (term : TerminalId) :
    (later.waitingAt term).Sublist (earlier.waitingAt term) := by
  rw [PasteServer.waitingAt, PasteServer.waitingAt]
  cases found : later.slots term with
  | none => exact List.nil_sublist _
  | some slot =>
      obtain ⟨former, kept, _, waiting⟩ := yields.slots term slot found
      rw [kept]
      exact waiting

/-- Giving way and giving way again. -/
theorem trans {first second third : PasteServer} (start : Yields first second)
    (rest : Yields second third) : Yields first third := by
  constructor
  · exact rest.written.trans start.written
  · exact rest.arrived.trans start.arrived
  · exact rest.nobody.trans start.nobody
  · exact fun client unborn => start.clients client (rest.clients client unborn)
  · exact fun term unborn => start.terminals term (rest.terminals term unborn)
  · exact fun client term writes => start.writes client term (rest.writes client term writes)
  · intro term slot found
    obtain ⟨middle, kept, owner, waiting⟩ := rest.slots term slot found
    obtain ⟨former, before, held, line⟩ := start.slots term middle kept
    refine ⟨former, before, ?_, waiting.trans line⟩
    rcases owner with owner | owner
    · rwa [owner]
    · exact .inr owner
  · intro client term former writes found owner somebody
    obtain ⟨middle, kept, held⟩ :=
      start.held client term former (rest.writes client term writes) found owner somebody
    exact rest.held client term middle writes kept held somebody
  · intro term slot found somebody live
    obtain ⟨middle, kept, owner | nobody, _⟩ := rest.slots term slot found
    · refine rest.connected term slot found somebody ?_
      rw [owner] at somebody live ⊢
      exact start.connected term middle kept somebody live
    · exact absurd nobody somebody
  · intro client listed
    rcases rest.closing client listed with before | swept
    · rcases start.closing client before with first_listed | ⟨somebody, swept⟩
      · exact .inl first_listed
      · refine .inr ⟨somebody, fun term slot found => ?_⟩
        obtain ⟨middle, kept, owner, waiting⟩ := rest.slots term slot found
        obtain ⟨other, none_waiting⟩ := swept term middle kept
        refine ⟨?_, fun pending listed => none_waiting pending (waiting.subset listed)⟩
        rcases owner with owner | owner
        · rwa [owner]
        · rw [owner]
          exact somebody.symm
    · exact .inr swept
  · intro term listed
    rcases rest.removing term listed with before | gone
    · rcases start.removing term before with first_listed | gone
      · exact .inl first_listed
      · right
        cases found : third.slots term with
        | none => rfl
        | some slot =>
            obtain ⟨middle, kept, _⟩ := rest.slots term slot found
            cases gone.symm.trans kept
    · exact .inr gone
  · exact fun pending traced => start.traced pending (rest.traced pending traced)

/-- Slots with no more waiting in them trace no more. -/
theorem traced_of {earlier later : PasteServer} (arrived : later.arrived = earlier.arrived)
    (slots : ∀ term slot, later.slots term = some slot → ∃ former, earlier.slots term = some former ∧
      slot.waiting.Sublist former.waiting)
    (acks : ∀ pending, pending ∈ later.acked ∨ .ack pending ∈ later.tasks → earlier.Traced pending)
    (pending : PendingPaste) (traced : later.Traced pending) : earlier.Traced pending := by
  rcases traced with listed | acked | owed | ⟨term, slot, found, waiting⟩
  · exact .inl (arrived ▸ listed)
  · exact acks pending (.inl acked)
  · exact acks pending (.inr owed)
  · obtain ⟨former, kept, line⟩ := slots term slot found
    exact .inr (.inr (.inr ⟨term, former, kept, line.subset waiting⟩))

/-- Calls that return, and what they acknowledge. -/
theorem tasks (server : PasteServer) {tasks : List PasteTask} (acked : List PendingPaste)
    (closes : ∀ client, .close client ∈ tasks ↔ .close client ∈ server.tasks)
    (removes : ∀ term, .remove term ∈ tasks ↔ .remove term ∈ server.tasks)
    (acks : ∀ pending, pending ∈ acked ∨ .ack pending ∈ tasks → server.Traced pending) :
    Yields server { server with tasks := tasks, acked := acked } where
  written := rfl
  arrived := rfl
  nobody := rfl
  clients _ unborn := unborn
  terminals _ unborn := unborn
  writes client term writes := ⟨writes.client_live,
    fun listed => writes.staying ((closes client).mpr listed), writes.terminal_live,
    fun listed => writes.kept ((removes term).mpr listed)⟩
  slots _ slot found := ⟨slot, found, .inl rfl, .refl _⟩
  held _ _ former _ found owner _ := ⟨former, found, owner⟩
  connected _ _ _ _ live := live
  closing client listed := .inl ((closes client).mp listed)
  removing term listed := .inl ((removes term).mp listed)
  traced := traced_of rfl (fun _ slot found => ⟨slot, found, .refl _⟩) acks

/-- A slot given up where nobody who can still write has it. -/
theorem emptied {server : PasteServer} {term : TerminalId} (tasks : List PasteTask)
    (closes : ∀ client, .close client ∈ tasks ↔ .close client ∈ server.tasks)
    (kept : ∀ other, .remove other ∈ server.tasks → .remove other ∈ tasks)
    (removes : ∀ other, .remove other ∈ tasks → .remove other ∈ server.tasks ∨ other = term)
    (idle : ∀ client former, PasteServer.Writes { server with tasks := tasks } client term →
      server.slots term = some former → former.owner = client → client = 0)
    (acks : ∀ pending, .ack pending ∈ tasks → server.Traced pending) :
    Yields server { server with
      slots := Function.update server.slots term none
      tasks := tasks } := by
  constructor
  · rfl
  · rfl
  · rfl
  · exact fun _ unborn => unborn
  · exact fun _ unborn => unborn
  · intro client other writes
    exact ⟨writes.client_live, fun listed => writes.staying ((closes client).mpr listed),
      writes.terminal_live, fun listed => writes.kept (kept other listed)⟩
  · intro other slot found
    simp only at found
    by_cases same : other = term
    · rw [same, Function.update_self] at found
      cases found
    · rw [Function.update_of_ne same] at found
      exact ⟨slot, found, .inl rfl, .refl _⟩
  · intro client other former writes found owner somebody
    by_cases same : other = term
    · rw [same] at found writes
      exact absurd (idle client former
        ⟨writes.client_live, writes.staying, writes.terminal_live, writes.kept⟩ found owner) somebody
    · refine ⟨former, ?_, owner⟩
      simp only [Function.update_of_ne same, found]
  · exact fun _ _ _ _ live => live
  · exact fun client listed => .inl ((closes client).mp listed)
  · intro other listed
    rcases removes other listed with before | rfl
    · exact .inl before
    · right
      exact Function.update_self ..
  · refine traced_of (by rfl) ?_ ?_
    · intro other slot found
      by_cases same : other = term
      · subst same
        cases (Function.update_self ..).symm.trans found
      · exact ⟨slot, (Function.update_of_ne same ..).symm.trans found, .refl _⟩
    · rintro pending (acked | owed)
      · exact .inr (.inl acked)
      · exact acks pending owed

/-- A terminal's slot forgotten once nobody writes there any more. -/
theorem forget {server : PasteServer} {term : TerminalId} (tasks : List PasteTask)
    (closes : ∀ client, .close client ∈ tasks ↔ .close client ∈ server.tasks)
    (kept : ∀ other, .remove other ∈ server.tasks → .remove other ∈ tasks)
    (removes : ∀ other, .remove other ∈ tasks → .remove other ∈ server.tasks ∨ other = term)
    (lost : ∀ client, ¬PasteServer.Writes { server with tasks := tasks } client term)
    (traced : ∀ pending, .ack pending ∈ tasks → server.Traced pending) :
    Yields server (PasteServer.forgetPasteSlot { server with tasks := tasks } term) := by
  obtain ⟨acks, only, waited, forgot⟩ :=
    PasteServer.forgetPasteSlot_eq { server with tasks := tasks } term
  have others : ∀ task, (∀ pending, task ≠ .ack pending) →
      (task ∈ acks ++ tasks ↔ task ∈ tasks) := by
    intro task other
    rw [List.mem_append, or_iff_right]
    intro listed
    obtain ⟨pending, ack⟩ := only task listed
    exact other pending ack
  have closing : ∀ client, PasteTask.close client ∈ acks ++ tasks ↔ .close client ∈ tasks :=
    fun client => others _ nofun
  have removing : ∀ other, PasteTask.remove other ∈ acks ++ tasks ↔ .remove other ∈ tasks :=
    fun other => others _ nofun
  rw [forgot]
  apply @Yields.emptied server term (acks ++ tasks)
  · exact fun client => (closing client).trans (closes client)
  · exact fun other listed => (removing other).mpr (kept other listed)
  · exact fun other listed => removes other ((removing other).mp listed)
  · intro client former writes
    exact absurd ⟨writes.client_live, fun listed => writes.staying ((closing client).mpr listed),
      writes.terminal_live, fun listed => writes.kept ((removing term).mpr listed)⟩ (lost client)
  · intro pending listed
    rcases List.mem_append.mp listed with here | before
    · obtain ⟨slot, found, waiting⟩ := waited pending here
      exact .inr (.inr (.inr ⟨term, slot, found, waiting⟩))
    · exact traced pending before

/-- The first in line taken out of it. -/
theorem popped {server : PasteServer} {term : TerminalId} {slot : PasteSlot}
    (found : server.slots term = some slot) (idle : slot.owner = 0) (waiting : List PendingPaste)
    (fewer : waiting.Sublist slot.waiting) :
    Yields server (server.putSlot term { slot with waiting := waiting }) := by
  constructor
  · rfl
  · rfl
  · rfl
  · exact fun _ unborn => unborn
  · exact fun _ unborn => unborn
  · exact fun _ _ writes => ⟨writes.client_live, writes.staying, writes.terminal_live, writes.kept⟩
  · intro other later kept
    simp only [PasteServer.putSlot] at kept
    by_cases same : other = term
    · rw [same, Function.update_self] at kept
      cases kept
      rw [same]
      exact ⟨slot, found, .inl rfl, fewer⟩
    · rw [Function.update_of_ne same] at kept
      exact ⟨later, kept, .inl rfl, .refl _⟩
  · intro client other former _ kept owner somebody
    have elsewhere : other ≠ term := by
      rintro rfl
      rw [found] at kept
      cases kept
      exact somebody (owner.symm.trans idle)
    exact ⟨former, (Function.update_of_ne elsewhere ..).trans kept, owner⟩
  · exact fun _ _ _ _ live => live
  · exact fun _ listed => .inl listed
  · exact fun _ listed => .inl listed
  · refine traced_of (by rfl) ?_ ?_
    · intro other later kept
      by_cases same : other = term
      · subst same
        cases (Function.update_self ..).symm.trans kept
        exact ⟨slot, found, fewer⟩
      · exact ⟨later, (Function.update_of_ne same ..).symm.trans kept, .refl _⟩
    · exact @PasteServer.traced_of_acked server _ fun _ owed => owed

/-- A drain that takes the first in line. -/
theorem popped_task {server : PasteServer} {term : TerminalId} {tasks : List PasteTask}
    {slot : PasteSlot} {next : PendingPaste} {waiting : List PendingPaste}
    (next_task : server.tasks = .drain term :: tasks) (found : server.slots term = some slot)
    (idle : slot.owner = 0) (line : slot.waiting = next :: waiting) :
    Yields server
      (PasteServer.putSlot { server with tasks := tasks } term { slot with waiting := waiting }) := by
  have returned : Yields server { server with tasks := tasks } := by
    apply Yields.tasks server server.acked
    · simp [next_task]
    · simp [next_task]
    · exact PasteServer.traced_of_acked fun _ owed => next_task ▸ List.mem_cons_of_mem _ owed
  have popped := @popped { server with tasks := tasks } term slot found idle waiting
    (line ▸ List.sublist_cons_self ..)
  exact returned.trans popped

/-- A terminal that is gone is nobody's to write to. -/
theorem ended {server : PasteServer} (term : TerminalId) (tasks : List PasteTask)
    (closes : ∀ client, .close client ∈ tasks ↔ .close client ∈ server.tasks)
    (removes : ∀ other, .remove other ∈ tasks → .remove other ∈ server.tasks)
    (kept : ∀ other, .remove other ∈ server.tasks → .remove other ∈ tasks ∨ other = term)
    (acks : ∀ pending, .ack pending ∈ tasks → .ack pending ∈ server.tasks) :
    Yields server { server with
      tasks := tasks
      terminals := Function.update server.terminals term .gone } := by
  constructor
  · rfl
  · rfl
  · rfl
  · exact fun _ unborn => unborn
  · intro other unborn
    by_cases same : other = term
    · rw [same] at unborn
      exact absurd ((Function.update_self ..).symm.trans unborn) nofun
    · exact (Function.update_of_ne same ..).symm.trans unborn
  · intro client other writes
    have another : other ≠ term := by
      rintro rfl
      exact absurd ((Function.update_self ..).symm.trans writes.terminal_live) nofun
    exact ⟨writes.client_live, fun listed => writes.staying ((closes client).mpr listed),
      (Function.update_of_ne another ..).symm.trans writes.terminal_live,
      fun listed => writes.kept ((kept other listed).resolve_right another)⟩
  · exact fun _ slot found => ⟨slot, found, .inl rfl, .refl _⟩
  · exact fun _ _ former _ found owner _ => ⟨former, found, owner⟩
  · exact fun _ _ _ _ live => live
  · exact fun client listed => .inl ((closes client).mp listed)
  · exact fun other listed => .inl (removes other listed)
  · exact traced_of (by rfl) (fun _ slot found => ⟨slot, found, .refl _⟩)
      (PasteServer.traced_of_acked acks)

/-- What a client held is released before the client is closed. -/
theorem dropped (server : PasteServer) {client : ClientId} (somebody : client ≠ 0)
    (order : List TerminalId) : Yields server (server.drop client order) := by
  have staying : ∀ other, PasteTask.close other ∈ (server.drop client order).tasks ↔
      other = client ∨ .close other ∈ server.tasks := by
    simp [PasteServer.drop, PasteServer.releasePasteSlots]
  have removing : ∀ other, PasteTask.remove other ∈ (server.drop client order).tasks ↔
      .remove other ∈ server.tasks := by
    simp [PasteServer.drop, PasteServer.releasePasteSlots]
  have swept : ∀ term, (server.drop client order).slots term =
      (server.slots term).map fun slot => slot.without client := fun _ => rfl
  constructor
  · rfl
  · rfl
  · rfl
  · exact fun _ unborn => unborn
  · exact fun _ unborn => unborn
  · intro other term writes
    exact ⟨writes.client_live, fun listed => writes.staying ((staying other).mpr (.inr listed)),
      writes.terminal_live, fun listed => writes.kept ((removing term).mpr listed)⟩
  · intro term slot found
    rw [swept, Option.map_eq_some_iff] at found
    obtain ⟨former, found, rfl⟩ := found
    refine ⟨former, found, ?_, List.filter_sublist⟩
    by_cases own : former.owner = client
    · exact .inr (if_pos own)
    · exact .inl (if_neg own)
  · intro other term former writes found owner _
    have another : former.owner ≠ client := by
      rintro rfl
      exact writes.staying ((staying other).mpr (.inl owner.symm))
    refine ⟨former.without client, ?_, (if_neg another).trans owner⟩
    rw [swept, found, Option.map_some]
  · exact fun _ _ _ _ live => live
  · intro other listed
    rcases (staying other).mp listed with rfl | before
    · right
      refine ⟨somebody, fun term slot found => ?_⟩
      rw [swept, Option.map_eq_some_iff] at found
      obtain ⟨former, _, rfl⟩ := found
      refine ⟨?_, fun pending listed => ?_⟩
      · by_cases own : former.owner = other
        · exact (if_pos own).trans_ne somebody.symm
        · exact (if_neg own).trans_ne own
      · exact of_decide_eq_true (List.mem_filter.mp listed).2
    · exact .inl before
  · exact fun term listed => .inl ((removing term).mp listed)
  · refine traced_of (by rfl) ?_ ?_
    · intro term slot found
      rw [swept, Option.map_eq_some_iff] at found
      obtain ⟨former, found, rfl⟩ := found
      exact ⟨former, found, List.filter_sublist⟩
    · apply @PasteServer.traced_of_acked server (server.drop client order).tasks
      simp [PasteServer.drop, PasteServer.releasePasteSlots]

/-- A stream closed at the end of a drop. -/
theorem closed {server : PasteServer} {client : ClientId} {tasks : List PasteTask}
    (next : server.tasks = .close client :: tasks) (somebody : client ≠ 0)
    (released : ∀ term slot, server.slots term = some slot → slot.owner ≠ client) :
    Yields server { server with
      tasks := tasks
      clients := Function.update server.clients client .gone } := by
  have listed : ∀ task, task ∈ server.tasks ↔ task = .close client ∨ task ∈ tasks := by
    intro task
    rw [next, List.mem_cons]
  constructor
  · rfl
  · rfl
  · exact Function.update_of_ne somebody.symm ..
  · intro other unborn
    by_cases same : other = client
    · rw [same] at unborn
      exact absurd ((Function.update_self ..).symm.trans unborn) nofun
    · exact (Function.update_of_ne same ..).symm.trans unborn
  · exact fun _ unborn => unborn
  · intro other term writes
    have another : other ≠ client := by
      rintro rfl
      exact absurd ((Function.update_self ..).symm.trans writes.client_live) nofun
    refine ⟨(Function.update_of_ne another ..).symm.trans writes.client_live, ?_,
      writes.terminal_live, fun kept => ?_⟩
    · intro closing
      rcases (listed _).mp closing with same | later
      · exact another (PasteTask.close.inj same)
      · exact writes.staying later
    · rcases (listed _).mp kept with other_task | later
      · cases other_task
      · exact writes.kept later
  · exact fun _ slot found => ⟨slot, found, .inl rfl, .refl _⟩
  · exact fun _ _ former _ found owner _ => ⟨former, found, owner⟩
  · intro term slot found _ live
    exact (Function.update_of_ne (released term slot found) ..).trans live
  · exact fun other closing => .inl ((listed _).mpr (.inr closing))
  · exact fun term removing => .inl ((listed _).mpr (.inr removing))
  · exact traced_of (by rfl) (fun _ slot found => ⟨slot, found, .refl _⟩)
      (PasteServer.traced_of_acked fun _ owed => (listed _).mpr (.inr owed))

end Yields

/-- What is only taken away leaves things tidy. -/
theorem Tidy.yields {earlier later : PasteServer} (tidy : Tidy earlier)
    (yields : Yields earlier later) : Tidy later where
  nobody := yields.nobody.trans tidy.nobody
  known := fun pending traced unborn =>
    tidy.known pending (yields.traced pending traced) (yields.clients _ unborn)
  addressed := by
    intro term slot found pending listed
    obtain ⟨former, kept, _, waiting⟩ := yields.slots term slot found
    exact tidy.addressed term former kept pending (waiting.subset listed)
  connected := by
    intro term slot found somebody
    obtain ⟨former, kept, owner | nobody, _⟩ := yields.slots term slot found
    · apply yields.connected term slot found somebody
      rw [owner] at somebody ⊢
      exact tidy.connected term former kept somebody
    · exact absurd nobody somebody
  released := by
    intro client listed
    rcases yields.closing client listed with before | swept
    · obtain ⟨somebody, nothing⟩ := tidy.released client before
      refine ⟨somebody, fun term slot found => ?_⟩
      obtain ⟨former, kept, owner, waiting⟩ := yields.slots term slot found
      obtain ⟨other, none_waiting⟩ := nothing term former kept
      refine ⟨?_, fun pending listed => none_waiting pending (waiting.subset listed)⟩
      rcases owner with owner | owner
      · rwa [owner]
      · rw [owner]
        exact somebody.symm
    · exact swept
  forgotten := by
    intro term listed
    rcases yields.removing term listed with before | gone
    · cases found : later.slots term with
      | none => rfl
      | some slot =>
          obtain ⟨former, kept, _⟩ := yields.slots term slot found
          rw [tidy.forgotten term before] at kept
          cases kept
    · exact gone

namespace Drains

variable {server later : PasteServer}

/-- A slot to be drained stays so until it is. -/
theorem same_slots {except : Option TerminalId} (drains : Drains server except)
    (slots : later.slots = server.slots)
    (kept : ∀ term, except ≠ some term → .drain term ∈ server.tasks → .drain term ∈ later.tasks) :
    Drains later except := by
  intro term slot found idle other
  rw [slots] at found
  exact kept term other (drains term slot found idle other)

/-- Whatever one slot changes to, its drain is to come or somebody holds it. -/
theorem update {term : TerminalId} {slot : Option PasteSlot} (drains : Drains server (some term))
    (changed : later.slots = Function.update server.slots term slot)
    (kept : ∀ other, .drain other ∈ server.tasks → .drain other ∈ later.tasks)
    (settled : ∀ held, slot = some held → held.owner = 0 → .drain term ∈ later.tasks) :
    Drains later none := by
  intro other held found idle _
  rw [changed] at found
  by_cases same : other = term
  · subst same
    rw [Function.update_self] at found
    exact settled held found idle
  · rw [Function.update_of_ne same] at found
    refine kept other (drains other held found idle ?_)
    rintro ⟨⟩
    exact same rfl

/-- A server with nothing to drain has one slot at most to drain. -/
theorem weaken (term : TerminalId) (drains : Drains server none) : Drains server (some term) :=
  fun other slot found idle _ => drains other slot found idle nofun

/-- A paste that goes on holds its slot, and one that is over has it drained. -/
theorem write {pending : PendingPaste} (drains : Drains server (some pending.chunk.term))
    (somebody : pending.client ≠ 0) : Drains (server.writePasteChunk pending) none := by
  apply drains.update rfl
  · intro other listed
    exact List.mem_cons_of_mem _ (List.mem_append_right _ listed)
  · intro held kept idle
    cases kept
    by_cases finished : pending.finished = true
    · rw [PasteServer.writePasteChunk]
      simp only [if_pos finished]
      exact List.mem_cons_of_mem _ List.mem_cons_self
    · exact absurd ((if_neg finished).symm.trans idle) somebody

/-- Forgetting the one slot that was left to drain leaves none. -/
theorem forget {term : TerminalId} (drains : Drains server (some term)) :
    Drains (server.forgetPasteSlot term) none := by
  obtain ⟨acks, _, _, forgot⟩ := server.forgetPasteSlot_eq term
  rw [forgot]
  exact drains.update rfl (fun other listed => List.mem_append_right _ listed) nofun

/-- Every slot a client held is drained. -/
theorem dropped (drains : Drains server none) (client : ClientId) {order : List TerminalId}
    (lists : Lists server order) : Drains (server.drop client order) none := by
  intro term slot found idle _
  obtain ⟨former, before, rfl⟩ := Option.map_eq_some_iff.mp found
  rw [PasteServer.drop, PasteServer.releasePasteSlots]
  by_cases own : former.owner = client
  · apply List.mem_append_left
    refine List.mem_map_of_mem (List.mem_filter.mpr ⟨lists term ?_, ?_⟩)
    · exact Option.ne_none_iff_exists'.mpr ⟨former, before⟩
    · exact decide_eq_true (congrArg (Option.map PasteSlot.owner) before |>.trans (congrArg some own))
  · apply List.mem_append_right
    exact List.mem_cons_of_mem _
      (drains term former before ((if_neg own).symm.trans idle) (Option.some_ne_none term).symm)

end Drains

namespace Tidy

variable {server : PasteServer}

/-- A chunk typed by the client whose turn it is leaves the server tidy. -/
theorem write (tidy : Tidy server) {pending : PendingPaste}
    (writes : server.Writes pending.client pending.chunk.term) :
    Tidy (server.writePasteChunk pending) := by
  have closes := server.close_writePasteChunk pending
  have removes := server.remove_writePasteChunk pending
  have waits := server.slot_writePasteChunk pending
  have elsewhere : ∀ term, term ≠ pending.chunk.term →
      (server.writePasteChunk pending).slots term = server.slots term :=
    fun _ => server.writePasteChunk_slots_of_ne pending
  have waiting_at : ∀ {p : PendingPaste → Prop}, (∀ slot, server.slots pending.chunk.term =
      some slot → ∀ other ∈ slot.waiting, p other) →
      ∀ other ∈ server.waitingAt pending.chunk.term, p other :=
    fun every => PasteServer.forall_waitingAt every
  constructor
  case nobody => exact tidy.nobody
  case known =>
    rintro other (listed | acked | owed | ⟨term, slot, found, waiting⟩)
    · exact tidy.known other (.inl listed)
    · exact tidy.known other (.inr (.inl acked))
    · rcases List.mem_cons.mp owed with now | later
      · rw [PasteTask.ack.inj now]
        exact writes.client_live.trans_ne (by decide)
      · have before : PasteTask.ack other ∈ server.tasks := by
          cases finished : pending.finished <;> simpa [finished] using later
        exact tidy.known other (.inr (.inr (.inl before)))
    · by_cases same : term = pending.chunk.term
      · subst same
        rw [(waits slot found).2] at waiting
        refine tidy.known other (.inr (.inr (.inr ?_)))
        exact ⟨_, PasteServer.mem_waitingAt waiting⟩
      · rw [elsewhere term same] at found
        exact tidy.known other (.inr (.inr (.inr ⟨term, slot, found, waiting⟩)))
  case addressed =>
    intro term slot found
    by_cases same : term = pending.chunk.term
    · subst same
      rw [(waits slot found).2]
      exact waiting_at (tidy.addressed _)
    · rw [elsewhere term same] at found
      exact tidy.addressed term slot found
  case connected =>
    intro term slot found somebody
    by_cases same : term = pending.chunk.term
    · subst same
      obtain ⟨owner, _⟩ := waits slot found
      by_cases finished : pending.finished = true
      · exact absurd (owner.trans (if_pos finished)) somebody
      · rw [owner, if_neg finished]
        exact writes.client_live
    · rw [elsewhere term same] at found
      exact tidy.connected term slot found somebody
  case released =>
    intro client listed
    have before := (closes client).mp listed
    obtain ⟨known, nothing⟩ := tidy.released client before
    refine ⟨known, fun term slot found => ?_⟩
    by_cases same : term = pending.chunk.term
    · subst same
      obtain ⟨owner, waiting⟩ := waits slot found
      rw [owner, waiting]
      refine ⟨?_, waiting_at fun slot found => (nothing _ slot found).2⟩
      have another : pending.client ≠ client := by
        rintro rfl
        exact writes.staying before
      by_cases finished : pending.finished = true
      · rw [if_pos finished]
        exact known.symm
      · rwa [if_neg finished]
    · rw [elsewhere term same] at found
      exact nothing term slot found
  case forgotten =>
    intro term listed
    have before := (removes term).mp listed
    have other : term ≠ pending.chunk.term := by
      rintro rfl
      exact writes.kept before
    exact (elsewhere term other).trans (tidy.forgotten term before)

/-- A chunk put at the end of the line of a slot that somebody holds. -/
theorem waits (tidy : Tidy server) (quiet : server.tasks = []) {client : ClientId}
    (live : server.clients client = .live) {chunk : PasteChunk} {slot : PasteSlot} (found : server.slots chunk.term = some slot) :
    Tidy (PasteServer.putSlot
      { server with arrived := server.arrived ++ [server.pendingPaste client chunk] } chunk.term
      { slot with waiting := slot.waiting ++ [server.pendingPaste client chunk] }) := by
  constructor
  case nobody => exact tidy.nobody
  case known =>
    have new : ∀ other ∈ [server.pendingPaste client chunk], server.clients other.client ≠ .unborn := by
      intro other listed
      rw [List.mem_singleton.mp listed]
      exact live.trans_ne (by decide)
    rintro other (listed | acked | owed | ⟨term, later, kept, waiting⟩)
    · exact (List.mem_append.mp listed).elim (fun before => tidy.known other (.inl before)) (new other)
    · exact tidy.known other (.inr (.inl acked))
    · exact tidy.known other (.inr (.inr (.inl owed)))
    · by_cases same : term = chunk.term
      · subst same
        cases (Function.update_self ..).symm.trans kept
        rcases List.mem_append.mp waiting with before | now
        · exact tidy.known other (.inr (.inr (.inr ⟨chunk.term, slot, found, before⟩)))
        · exact new other now
      · exact tidy.known other (.inr (.inr (.inr
          ⟨term, later, (Function.update_of_ne same ..).symm.trans kept, waiting⟩)))
  case addressed =>
    intro term later kept pending listed
    by_cases same : term = chunk.term
    · subst same
      cases (Function.update_self ..).symm.trans kept
      rcases List.mem_append.mp listed with before | now
      · exact tidy.addressed chunk.term slot found pending before
      · rw [List.mem_singleton.mp now]
        rfl
    · exact tidy.addressed term later ((Function.update_of_ne same ..).symm.trans kept) pending listed
  case connected =>
    intro term later kept somebody
    by_cases same : term = chunk.term
    · subst same
      cases (Function.update_self ..).symm.trans kept
      exact tidy.connected chunk.term slot found somebody
    · exact tidy.connected term later ((Function.update_of_ne same ..).symm.trans kept) somebody
  case released =>
    intro other listed
    have none_listed : PasteTask.close other ∈ server.tasks := listed
    rw [quiet] at none_listed
    cases none_listed
  case forgotten =>
    intro term listed
    have none_listed : PasteTask.remove term ∈ server.tasks := listed
    rw [quiet] at none_listed
    cases none_listed

/-- A chunk come from a live client leaves the server tidy. -/
theorem told (tidy : Tidy server) {client : ClientId} (live : server.clients client = .live)
    (chunk : PasteChunk) :
    Tidy { server with arrived := server.arrived ++ [server.pendingPaste client chunk] } :=
  { tidy with
    known := by
      rintro other (listed | rest)
      · rcases List.mem_append.mp listed with before | now
        · exact tidy.known other (.inl before)
        · rw [List.mem_singleton.mp now]
          exact live.trans_ne (by decide)
      · exact tidy.known other (.inr rest) }

/-- A client or a terminal that was not there before has no slot. -/
theorem born (tidy : Tidy server) {clients : ClientId → Life} {terminals : TerminalId → Life}
    (nobody : clients 0 = .unborn)
    (known_client : ∀ client, server.clients client ≠ .unborn → clients client = server.clients client) :
    Tidy { server with clients := clients, terminals := terminals } :=
  { tidy with
    nobody := nobody
    known := by
      intro pending traced
      have known := tidy.known pending traced
      exact (known_client _ known).trans_ne known
    connected := by
      intro term slot found somebody
      have live := tidy.connected term slot found somebody
      exact (known_client slot.owner (live.trans_ne (by decide))).trans live }

end Tidy

end Ckmux
