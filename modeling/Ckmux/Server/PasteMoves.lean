import Mathlib
import Ckmux.Server.PasteTidy

/-!
# What a step of the paste server does

`Moves` lists it: something is only taken away, somebody new comes, a chunk arrives
and is answered, waits or is written, or the first in line is written. What every
reachable state keeps is proved from it, one case at a time. Beside each case stands
where the acknowledgements are that are still to be sent.
-/

namespace Ckmux

open Proto (PasteChunk)
open Semantics (System)
open PasteServer (sentTo)

/-- The chunk that a task is the answer to. -/
def PasteTask.owed : PasteTask → Option PendingPaste
  | .ack pending => some pending
  | _ => none

/-- The acknowledgements still to be sent. -/
def owedBy (tasks : List PasteTask) : List PendingPaste := tasks.filterMap PasteTask.owed

/-- No task owes nothing. -/
@[simp] theorem owedBy_nil : owedBy [] = [] := rfl

/-- An answer to be sent owes its chunk. -/
@[simp] theorem owedBy_ack (pending : PendingPaste) (tasks : List PasteTask) :
    owedBy (.ack pending :: tasks) = pending :: owedBy tasks := rfl

/-- A slot to be drained owes nothing. -/
@[simp] theorem owedBy_drain (term : TerminalId) (tasks : List PasteTask) :
    owedBy (.drain term :: tasks) = owedBy tasks := rfl

/-- A client to be closed owes nothing. -/
@[simp] theorem owedBy_close (client : ClientId) (tasks : List PasteTask) :
    owedBy (.close client :: tasks) = owedBy tasks := rfl

/-- A terminal to be removed owes nothing. -/
@[simp] theorem owedBy_remove (term : TerminalId) (tasks : List PasteTask) :
    owedBy (.remove term :: tasks) = owedBy tasks := rfl

/-- What two lists of tasks owe, one after the other. -/
@[simp] theorem owedBy_append (front back : List PasteTask) :
    owedBy (front ++ back) = owedBy front ++ owedBy back := List.filterMap_append

/-- A line of answers owes exactly its chunks. -/
@[simp] theorem owedBy_acks (waiting : List PendingPaste) : owedBy (waiting.map .ack) = waiting := by
  induction waiting with
  | nil => rfl
  | cons pending waiting ih => rw [List.map_cons, owedBy_ack, ih]

/-- Any number of slots to be drained owe nothing. -/
@[simp] theorem owedBy_drains (terms : List TerminalId) : owedBy (terms.map .drain) = [] := by
  induction terms with
  | nil => rfl
  | cons term terms ih => rw [List.map_cons, owedBy_drain, ih]

namespace PasteServer

/-- A client that is connected and not being dropped. -/
def Stays (server : PasteServer) (client : ClientId) : Prop :=
  server.clients client = .live ∧ .close client ∉ server.tasks

/-- Where a client's chunks to a terminal are: acknowledged, about to be, or waiting. -/
def account (server : PasteServer) (client : ClientId) (term : TerminalId) : List PendingPaste :=
  sentTo client term server.acked ++
    (sentTo client term (owedBy server.tasks) ++ sentTo client term (server.waitingAt term))

/-- Every slot is of a terminal that is there. -/
def Housed (server : PasteServer) : Prop :=
  ∀ term slot, server.slots term = some slot → server.terminals term = .live

variable {server : PasteServer}

/-- A slot forgotten owes everything that waited in it. -/
theorem account_forgetPasteSlot {term : TerminalId}
    (addressed : ∀ slot, server.slots term = some slot →
      ∀ pending ∈ slot.waiting, pending.chunk.term = term) (client : ClientId) (other : TerminalId) :
    ((server.forgetPasteSlot term).account client other).Perm (server.account client other) := by
  cases found : server.slots term with
  | none => rw [forgetPasteSlot, found]
  | some slot =>
      rw [forgetPasteSlot, found, account, account, owedBy_append, owedBy_acks, sentTo_append]
      apply List.Perm.append_left
      by_cases same : other = term
      · subst same
        have emptied : waitingAt { server with
            slots := Function.update server.slots other none
            tasks := slot.waiting.map .ack ++ server.tasks } other = [] := by
          rw [waitingAt]
          simp only [Function.update_self, Option.map_none, Option.getD_none]
        have waited : server.waitingAt other = slot.waiting := by
          rw [waitingAt, found]
          rfl
        rw [emptied, waited]
        exact (List.append_nil _).symm ▸ List.perm_append_comm
      · have untouched : waitingAt { server with
            slots := Function.update server.slots term none
            tasks := slot.waiting.map .ack ++ server.tasks } other = server.waitingAt other := by
          rw [waitingAt, waitingAt]
          simp only [Function.update_of_ne same]
        have elsewhere : sentTo client other slot.waiting = [] := by
          apply List.filter_eq_nil_iff.mpr
          intro pending listed own
          exact same ((of_decide_eq_true own).2.symm.trans (addressed slot found pending listed))
        rw [untouched, elsewhere]
        exact .refl _

/-- An acknowledgement sent is no longer about to be. -/
theorem account_sent {pending : PendingPaste} {tasks : List PasteTask}
    (next : server.tasks = .ack pending :: tasks) (client : ClientId) (term : TerminalId) :
    account { server with tasks := tasks, acked := server.acked ++ [pending] } client term =
      server.account client term := by
  have first : sentTo client term (pending :: owedBy tasks) =
      sentTo client term [pending] ++ sentTo client term (owedBy tasks) :=
    sentTo_append client term [pending] _
  rw [account, account, next, owedBy_ack, first, List.append_assoc,
    ← List.append_assoc (sentTo client term server.acked),
    ← sentTo_append client term server.acked [pending]]
  rfl

end PasteServer

/-- A step that moves what is owed about, and loses none of it for a client that stays. -/
structure Settles (earlier later : PasteServer) : Prop where
  housed : later.Housed
  stays : ∀ client, later.Stays client → earlier.Stays client
  account : ∀ client term, later.Stays client →
    (later.account client term).Perm (earlier.account client term)

/-- What one event can make of the server. -/
inductive Moves (server : PasteServer) : PasteEvent → PasteServer → Prop where
  | yields {event : PasteEvent} {later : PasteServer} (yields : Yields server later)
      (settles : server.Housed → (∀ term, event = .kill term → server.slots term = none) →
        Settles server later) :
      Moves server event later
  | born {event : PasteEvent} (clients : ClientId → Life) (terminals : TerminalId → Life)
      (nobody : clients 0 = .unborn)
      (known_client : ∀ client, server.clients client ≠ .unborn →
        clients client = server.clients client)
      (known_terminal : ∀ term, server.terminals term ≠ .unborn →
        terminals term = server.terminals term) :
      Moves server event { server with clients := clients, terminals := terminals }
  | answered {client : ClientId} {chunk : PasteChunk} {watching : Bool} {later : PasteServer}
      (quiet : server.tasks = []) (live : server.clients client = .live)
      (yields : Yields
        { server with arrived := server.arrived ++ [server.pendingPaste client chunk] } later)
      (settles : server.Housed → Settles { server with
        arrived := server.arrived ++ [server.pendingPaste client chunk]
        tasks := [.ack (server.pendingPaste client chunk)] } later) :
      Moves server (.arrive client chunk watching) later
  | waits {client : ClientId} {chunk : PasteChunk} {slot : PasteSlot} (quiet : server.tasks = [])
      (live : server.clients client = .live) (found : server.slots chunk.term = some slot) :
      Moves server (.arrive client chunk false) (PasteServer.putSlot
        { server with arrived := server.arrived ++ [server.pendingPaste client chunk] } chunk.term
        { slot with waiting := slot.waiting ++ [server.pendingPaste client chunk] })
  | writes {client : ClientId} {chunk : PasteChunk} (quiet : server.tasks = [])
      (writes : server.Writes client chunk.term)
      (mine : ∀ slot, server.slots chunk.term = some slot → slot.owner = client) :
      Moves server (.arrive client chunk false) (PasteServer.writePasteChunk
        { server with arrived := server.arrived ++ [server.pendingPaste client chunk] }
        (server.pendingPaste client chunk))
  | drained {event : PasteEvent} {slot : PasteSlot} {next : PendingPaste}
      {waiting : List PendingPaste} {tasks : List PasteTask}
      (next_task : server.tasks = .drain next.chunk.term :: tasks)
      (found : server.slots next.chunk.term = some slot) (idle : slot.owner = 0)
      (line : slot.waiting = next :: waiting) (writes : server.Writes next.client next.chunk.term) :
      Moves server event (PasteServer.writePasteChunk
        (PasteServer.putSlot { server with tasks := tasks } next.chunk.term
          { slot with waiting := waiting }) next)

/-! ### What each step settles -/

namespace Settles

variable {server : PasteServer}

/-- A housed server settles into itself. -/
theorem refl (housed : server.Housed) : Settles server server :=
  ⟨housed, fun _ stays => stays, fun _ _ _ => .refl _⟩

/-- Settling and settling again. -/
theorem trans {first second third : PasteServer} (start : Settles first second)
    (rest : Settles second third) : Settles first third where
  housed := rest.housed
  stays client stays := start.stays client (rest.stays client stays)
  account client term stays :=
    (rest.account client term stays).trans (start.account client term (rest.stays client stays))

/-- Calls that return, with no acknowledgement of a client that stays among them. -/
theorem lost (housed : server.Housed) {tasks : List PasteTask}
    (closes : ∀ client, .close client ∈ server.tasks → .close client ∈ tasks)
    (owed : ∀ client term, server.clients client = .live → .close client ∉ tasks →
      sentTo client term (owedBy tasks) = sentTo client term (owedBy server.tasks)) :
    Settles server { server with tasks := tasks } where
  housed := housed
  stays client stays := ⟨stays.1, fun listed => stays.2 (closes client listed)⟩
  account client term stays := by
    rw [PasteServer.account, PasteServer.account, ← owed client term stays.1 stays.2]
    exact .refl _

/-- Other tasks settle as well, if they close the same clients and owe the same chunks. -/
theorem tasks (housed : server.Housed) {tasks : List PasteTask}
    (closes : ∀ client, .close client ∈ server.tasks → .close client ∈ tasks)
    (owed : owedBy tasks = owedBy server.tasks) :
    Settles server { server with tasks := tasks } :=
  .lost housed closes fun client term _ _ => congrArg (sentTo client term) owed

/-- An acknowledgement sent. -/
theorem sent (housed : server.Housed) {pending : PendingPaste} {tasks : List PasteTask}
    (next : server.tasks = .ack pending :: tasks) :
    Settles server { server with tasks := tasks, acked := server.acked ++ [pending] } where
  housed := housed
  stays client stays := ⟨stays.1, by
    rw [next]
    simpa using stays.2⟩
  account client term _ := by rw [PasteServer.account_sent next]

/-- A slot forgotten is of no terminal any more. -/
theorem forget {term : TerminalId} (addressed : ∀ slot, server.slots term = some slot →
      ∀ pending ∈ slot.waiting, pending.chunk.term = term)
    (housed : ∀ other slot, other ≠ term → server.slots other = some slot →
      server.terminals other = .live) :
    Settles server (server.forgetPasteSlot term) where
  housed := by
    cases found : server.slots term with
    | none =>
        rw [PasteServer.forgetPasteSlot, found]
        intro other slot kept
        refine housed other slot ?_ kept
        rintro rfl
        rw [found] at kept
        cases kept
    | some slot =>
        rw [PasteServer.forgetPasteSlot, found]
        intro other later kept
        by_cases same : other = term
        · subst same
          cases (Function.update_self ..).symm.trans kept
        · exact housed other later same ((Function.update_of_ne same ..).symm.trans kept)
  stays client stays := by
    cases found : server.slots term with
    | none =>
        rw [PasteServer.forgetPasteSlot, found] at stays
        exact stays
    | some slot =>
        rw [PasteServer.forgetPasteSlot, found] at stays
        exact ⟨stays.1, fun listed => stays.2 (List.mem_append_right _ listed)⟩
  account client other _ := PasteServer.account_forgetPasteSlot addressed client other

/-- A slot with nobody in line given up. -/
theorem emptied (housed : server.Housed) {term : TerminalId} {slot : PasteSlot}
    (found : server.slots term = some slot) (nobody_waits : slot.waiting = []) :
    Settles server { server with slots := Function.update server.slots term none } := by
  constructor
  · intro other later kept
    by_cases same : other = term
    · subst same
      cases (Function.update_self ..).symm.trans kept
    · exact housed other later ((Function.update_of_ne same ..).symm.trans kept)
  · exact fun _ stays => stays
  · intro client other _
    have same_line : PasteServer.waitingAt
        { server with slots := Function.update server.slots term none } other =
          server.waitingAt other := by
      rw [PasteServer.waitingAt, PasteServer.waitingAt]
      by_cases same : other = term
      · subst same
        simp only [Function.update_self, found, Option.map_none, Option.map_some, nobody_waits,
          Option.getD_none, Option.getD_some]
      · simp only [Function.update_of_ne same]
    rw [PasteServer.account, PasteServer.account, same_line]

/-- The first in line passed over because its client is gone. -/
theorem skipped (housed : server.Housed) {term : TerminalId} {slot : PasteSlot}
    {next : PendingPaste} {waiting : List PendingPaste} (found : server.slots term = some slot)
    (line : slot.waiting = next :: waiting) (left_already : server.clients next.client ≠ .live) :
    Settles server (server.putSlot term { slot with waiting := waiting }) := by
  constructor
  · intro other later kept
    by_cases same : other = term
    · subst same
      exact housed other slot found
    · exact housed other later ((Function.update_of_ne same ..).symm.trans kept)
  · exact fun _ stays => stays
  · intro client other stays
    have same_line : sentTo client other
        ((server.putSlot term { slot with waiting := waiting }).waitingAt other) =
          sentTo client other (server.waitingAt other) := by
      by_cases same : other = term
      · subst same
        have gone : ¬(next.client = client ∧ next.chunk.term = other) := by
          rintro ⟨rfl, _⟩
          exact left_already stays.1
        rw [PasteServer.waitingAt_putSlot_self, PasteServer.waitingAt, found, Option.map_some,
          Option.getD_some, line, sentTo_other gone]
      · rw [PasteServer.waitingAt_putSlot_of_ne _ same]
    rw [PasteServer.account, PasteServer.account, same_line]
    exact .refl _

/-- A client dropped takes nothing of the others'. -/
theorem dropped (housed : server.Housed) (client : ClientId) (order : List TerminalId) :
    Settles server (server.drop client order) := by
  have swept : ∀ term, (server.drop client order).slots term =
      (server.slots term).map fun slot => slot.without client := fun _ => rfl
  constructor
  · intro term slot found
    rw [swept, Option.map_eq_some_iff] at found
    obtain ⟨former, found, _⟩ := found
    exact housed term former found
  · intro other stays
    refine ⟨stays.1, fun listed => stays.2 ?_⟩
    simp [PasteServer.drop, PasteServer.releasePasteSlots, listed]
  · intro other term stays
    have another : other ≠ client := by
      rintro rfl
      apply stays.2
      simp [PasteServer.drop, PasteServer.releasePasteSlots]
    have same_line : sentTo other term ((server.drop client order).waitingAt term) =
        sentTo other term (server.waitingAt term) := by
      rw [PasteServer.waitingAt, PasteServer.waitingAt, swept]
      cases server.slots term with
      | none => rfl
      | some slot =>
          simp only [Option.map_some, Option.getD_some, PasteSlot.without, sentTo,
            List.filter_filter]
          congr 1
          funext pending
          by_cases own : pending.client = other <;> simp [own, another]
    have same_owed : owedBy (server.drop client order).tasks = owedBy server.tasks := by
      simp [PasteServer.drop, PasteServer.releasePasteSlots]
    rw [PasteServer.account, PasteServer.account, same_line, same_owed]
    exact .refl _

/-- A stream closed at the end of a drop. -/
theorem closed (housed : server.Housed) {client : ClientId} {tasks : List PasteTask}
    (next : server.tasks = .close client :: tasks) :
    Settles server { server with
      tasks := tasks
      clients := Function.update server.clients client .gone } := by
  constructor
  · exact housed
  · intro other stays
    have another : other ≠ client := by
      rintro rfl
      exact absurd ((Function.update_self ..).symm.trans stays.1) nofun
    refine ⟨(Function.update_of_ne another ..).symm.trans stays.1, fun listed => ?_⟩
    rw [next] at listed
    rcases List.mem_cons.mp listed with same | later
    · exact another (PasteTask.close.inj same)
    · exact stays.2 later
  · intro other term _
    rw [PasteServer.account, PasteServer.account, next, owedBy_close]
    exact .refl _

/-- A terminal gone that had no slot. -/
theorem killed (housed : server.Housed) {term : TerminalId} (forgotten : server.slots term = none) :
    Settles server { server with terminals := Function.update server.terminals term .gone } := by
  refine ⟨?_, fun _ stays => stays, fun _ _ _ => .refl _⟩
  intro other slot found
  have another : other ≠ term := by
    rintro rfl
    exact absurd (forgotten.symm.trans found) (Option.some_ne_none slot).symm
  exact (Function.update_of_ne another ..).trans (housed other slot found)

end Settles

/-! ### Every step is one of them -/

section

variable {server : PasteServer}

/-- One pass of a drain: the slot is held again, to be drained again, or gone. -/
theorem drain_moves (tidy : Tidy server) (drains : Drains server none) {term : TerminalId}
    {tasks : List PasteTask} (next_task : server.tasks = .drain term :: tasks)
    (event : PasteEvent) :
    Moves server event (PasteServer.drainPasteSlot { server with tasks := tasks } term) ∧
      Drains (PasteServer.drainPasteSlot { server with tasks := tasks } term) none := by
  have closes : ∀ client, PasteTask.close client ∈ tasks ↔ .close client ∈ server.tasks := by
    simp [next_task]
  have removes : ∀ other, PasteTask.remove other ∈ tasks ↔ .remove other ∈ server.tasks := by
    simp [next_task]
  have acks : ∀ pending, PasteTask.ack pending ∈ tasks → .ack pending ∈ server.tasks := by
    simp [next_task]
  have popped_task : Yields server { server with tasks := tasks } :=
    Yields.tasks server server.acked closes removes (PasteServer.traced_of_acked acks)
  have undone : server.Housed → Settles server { server with tasks := tasks } := fun housed =>
    .tasks housed (fun client listed => (closes client).mpr listed) (by rw [next_task, owedBy_drain])
  have undrained : Drains { server with tasks := tasks } (some term) := by
    refine (drains.weaken term).same_slots rfl ?_
    intro other another listed
    rw [next_task] at listed
    rcases List.mem_cons.mp listed with same | later
    · exact absurd (congrArg some (PasteTask.drain.inj same).symm) another
    · exact later
  rw [PasteServer.drainPasteSlot]
  split
  case h_1 free =>
    refine ⟨.yields popped_task fun housed _ => undone housed, ?_⟩
    intro other slot found idle _
    refine undrained other slot found idle ?_
    rintro ⟨⟩
    cases free.symm.trans found
  case h_2 slot found =>
    split
    case isTrue held =>
      refine ⟨.yields popped_task fun housed _ => undone housed, ?_⟩
      intro other later kept idle _
      refine undrained other later kept idle ?_
      rintro ⟨⟩
      cases found.symm.trans kept
      exact held idle
    case isFalse held =>
      have idle : slot.owner = 0 := not_not.mp held
      split
      case h_1 nobody_waits =>
        refine ⟨.yields (popped_task.trans (Yields.emptied tasks (fun _ => Iff.rfl)
          (fun _ listed => listed) (fun _ listed => .inl listed) ?_
          fun _ owed => .inr (.inr (.inl owed)))) fun housed _ =>
            (undone housed).trans (.emptied (undone housed).housed found nobody_waits), ?_⟩
        · intro client former _ kept owner
          cases found.symm.trans kept
          exact owner.symm.trans idle
        · exact undrained.update rfl (fun _ listed => listed) nofun
      case h_2 next waiting line =>
        have here : next.chunk.term = term :=
          tidy.addressed term slot found next (line ▸ List.mem_cons_self)
        have popped := Yields.popped_task next_task found idle line
        have unfilled : Drains (PasteServer.putSlot { server with tasks := tasks } term
            { slot with waiting := waiting }) (some term) := by
          intro other later kept free elsewhere
          have another : other ≠ term := by
            rintro rfl
            exact elsewhere rfl
          exact undrained other later ((Function.update_of_ne another ..).symm.trans kept) free elsewhere
        split
        case isTrue gone =>
          refine ⟨.yields (popped.trans (Yields.forget tasks (fun _ => Iff.rfl)
            (fun _ listed => listed) (fun _ listed => .inl listed) ?_
            fun _ owed => .inr (.inr (.inl owed)))) ?_, unfilled.forget⟩
          · exact fun client writes => gone writes.terminal_live
          · exact fun housed _ => absurd (housed term slot found) gone
        case isFalse present =>
          split
          case isTrue left_already =>
            refine ⟨.yields (popped.trans (Yields.tasks _ server.acked ?_ ?_ ?_)) ?_, ?_⟩
            · intro client
              simp [PasteServer.putSlot]
            · intro other
              simp [PasteServer.putSlot]
            · rintro pending (acked | owed)
              · exact .inr (.inl acked)
              · exact .inr (.inr (.inl ((List.mem_cons.mp owed).resolve_left (by simp))))
            · intro housed _
              have passed := (undone housed).trans
                (.skipped (undone housed).housed found line left_already)
              refine passed.trans (.tasks passed.housed ?_ ?_)
              · exact fun client listed => List.mem_cons_of_mem _ listed
              · rfl
            · exact unfilled.update (Function.update_eq_self ..).symm
                (fun other listed => List.mem_cons_of_mem _ listed)
                (fun _ _ _ => List.mem_cons_self)
          case isFalse connected =>
            have live : server.clients next.client = .live := not_not.mp connected
            have staying : .close next.client ∉ server.tasks := by
              intro listed
              exact (tidy.released _ listed).2 term slot found |>.2 next
                (line ▸ List.mem_cons_self) rfl
            have kept : .remove term ∉ server.tasks := by
              intro listed
              cases found.symm.trans (tidy.forgotten term listed)
            subst here
            exact ⟨.drained next_task found idle line ⟨live, staying, not_not.mp present, kept⟩,
              unfilled.write (tidy.somebody live)⟩

/-- An acknowledgement sent, or its client dropped. -/
theorem ack_moves (tidy : Tidy server) (drains : Drains server none) {pending : PendingPaste}
    {tasks : List PasteTask} (next_task : server.tasks = .ack pending :: tasks) (bytes : Nat)
    {order : List TerminalId} (lists : Lists server order) (event : PasteEvent) :
    Moves server event
        (PasteServer.sendAck { server with tasks := tasks } pending bytes order) ∧
      Drains (PasteServer.sendAck { server with tasks := tasks } pending bytes order) none := by
  have closes : ∀ client, PasteTask.close client ∈ tasks ↔ .close client ∈ server.tasks := by
    simp [next_task]
  have removes : ∀ other, PasteTask.remove other ∈ tasks ↔ .remove other ∈ server.tasks := by
    simp [next_task]
  have acks : ∀ other, PasteTask.ack other ∈ tasks → .ack other ∈ server.tasks := by
    simp +contextual [next_task]
  have returned : Yields server { server with tasks := tasks } :=
    Yields.tasks server server.acked closes removes (PasteServer.traced_of_acked acks)
  have drained : Drains { server with tasks := tasks } none := by
    refine drains.same_slots rfl ?_
    intro other _ listed
    rw [next_task] at listed
    exact (List.mem_cons.mp listed).resolve_left nofun
  rw [PasteServer.sendAck]
  split
  case isTrue left_already =>
    refine ⟨.yields returned fun housed _ => .lost housed ?_ ?_, drained⟩
    · exact fun client listed => (closes client).mpr listed
    · intro client term live _
      have other : ¬(pending.client = client ∧ pending.chunk.term = term) := by
        rintro ⟨rfl, _⟩
        exact left_already live
      rw [next_task, owedBy_ack, sentTo_other other]
  case isFalse connected =>
    have live : server.clients pending.client = .live := not_not.mp connected
    split
    case isTrue =>
      refine ⟨.yields (returned.trans (.dropped _ (tidy.somebody live) order)) fun housed _ => ?_,
        drained.dropped pending.client lists⟩
      have dropped := Settles.dropped housed pending.client order
      refine dropped.trans (.lost dropped.housed ?_ ?_)
      · intro client listed
        simpa [PasteServer.drop, PasteServer.releasePasteSlots, next_task] using listed
      · intro client term _ staying
        have other : ¬(pending.client = client ∧ pending.chunk.term = term) := by
          rintro ⟨rfl, _⟩
          exact staying (List.mem_append_right _ List.mem_cons_self)
        simp [PasteServer.drop, PasteServer.releasePasteSlots, next_task, sentTo_other other]
    case isFalse =>
      refine ⟨.yields (Yields.tasks server _ closes removes ?_) fun housed _ =>
        .sent housed next_task, drained.same_slots rfl (fun _ _ listed => listed)⟩
      rintro other (acked | owed)
      · rcases List.mem_append.mp acked with before | now
        · exact .inr (.inl before)
        · rw [List.mem_singleton.mp now]
          exact .inr (.inr (.inl (next_task ▸ List.mem_cons_self)))
      · exact .inr (.inr (.inl (acks other owed)))

/-- Whichever call is next to return. -/
theorem work_moves (tidy : Tidy server) (drains : Drains server none) (bytes : Nat)
    {order : List TerminalId} (lists : Lists server order) :
    Moves server (.work bytes order) (server.work bytes order) ∧
      Drains (server.work bytes order) none := by
  rw [PasteServer.work]
  split
  case h_1 quiet =>
    refine ⟨.yields (Yields.tasks server server.acked (fun _ => Iff.rfl) (fun _ => Iff.rfl)
      (PasteServer.traced_of_acked fun _ owed => owed))
      fun housed _ => .tasks housed (fun _ listed => listed) rfl, drains⟩
  case h_2 term tasks next => exact drain_moves tidy drains next (.work bytes order)
  case h_3 pending tasks next => exact ack_moves tidy drains next bytes lists (.work bytes order)
  case h_4 client tasks next =>
    obtain ⟨somebody, released⟩ := tidy.released client (next ▸ List.mem_cons_self)
    refine ⟨.yields (Yields.closed next somebody fun term slot found => (released term slot found).1)
      fun housed _ => .closed housed next, drains.same_slots rfl ?_⟩
    intro other _ listed
    rw [next] at listed
    exact (List.mem_cons.mp listed).resolve_left nofun
  case h_5 term tasks next =>
    refine ⟨.yields (Yields.ended term tasks ?_ ?_ ?_ ?_) fun housed _ => ?_, drains.same_slots rfl ?_⟩
    · simp [next]
    · exact fun other listed => next ▸ List.mem_cons_of_mem _ listed
    · intro other listed
      rw [next] at listed
      exact (List.mem_cons.mp listed).symm.imp_right PasteTask.remove.inj
    · exact fun pending listed => next ▸ List.mem_cons_of_mem _ listed
    · have returned : Settles server { server with tasks := tasks } :=
        .tasks housed (by simp [next]) (by rw [next, owedBy_remove])
      exact returned.trans (.killed returned.housed (tidy.forgotten term (next ▸ List.mem_cons_self)))
    · intro other _ listed
      rw [next] at listed
      exact (List.mem_cons.mp listed).resolve_left nofun

/-- A chunk that is answered, waits, or is written at once. -/
theorem arrive_moves (tidy : Tidy server) (drains : Drains server none)
    (quiet : server.tasks = []) {client : ClientId} (live : server.clients client = .live)
    (chunk : PasteChunk) (watching : Bool) :
    Moves server (.arrive client chunk watching) (server.handlePasteChunk client chunk watching) ∧
      Drains (server.handlePasteChunk client chunk watching) none := by
  have drains_heard : Drains
      { server with arrived := server.arrived ++ [server.pendingPaste client chunk] } none :=
    drains.same_slots rfl (fun _ _ listed => listed)
  have answer : ∀ other, PasteTask.ack other ∈ .ack (server.pendingPaste client chunk) :: server.tasks →
      PasteServer.Traced
        { server with arrived := server.arrived ++ [server.pendingPaste client chunk] } other := by
    intro other owed
    rcases List.mem_cons.mp owed with now | before
    · rw [PasteTask.ack.inj now]
      exact .inl (List.mem_append_right _ List.mem_cons_self)
    · exact .inr (.inr (.inl before))
  rw [PasteServer.handlePasteChunk]
  split
  case isTrue =>
    refine ⟨.answered quiet live (Yields.tasks _ server.acked ?_ ?_ ?_) fun housed => ?_,
      drains.same_slots rfl ?_⟩
    · simp
    · simp
    · exact fun other told => told.elim (fun acked => .inr (.inl acked)) (answer other)
    · rw [quiet]
      exact .refl housed
    · exact fun _ _ listed => List.mem_cons_of_mem _ listed
  case isFalse acting =>
    rw [Bool.eq_false_iff.mpr acting]
    split
    case isTrue gone =>
      refine ⟨.answered quiet live (Yields.forget (.ack (server.pendingPaste client chunk) :: server.tasks)
        ?_ ?_ ?_ ?_ answer) fun housed => ?_, Drains.forget ?_⟩
      · simp
      · simp
      · exact fun _ listed => .inl (by simpa using listed)
      · exact fun _ writes => gone writes.terminal_live
      · rw [quiet]
        exact .forget (fun slot found => absurd (housed _ slot found) gone)
          fun other slot _ found => housed other slot found
      · exact (drains.weaken chunk.term).same_slots rfl
          (fun _ _ listed => List.mem_cons_of_mem _ listed)
    case isFalse present =>
      have writes : server.Writes client chunk.term := by
        refine ⟨live, ?_, not_not.mp present, ?_⟩
        · exact fun listed => absurd (quiet ▸ listed) List.not_mem_nil
        · exact fun listed => absurd (quiet ▸ listed) List.not_mem_nil
      dsimp only
      split
      case isTrue taken =>
        cases found : server.slots chunk.term with
        | none => exact absurd (found ▸ rfl) taken.1
        | some slot =>
            have held : slot.owner ≠ 0 := by
              rw [found] at taken
              exact taken.1
            refine ⟨.waits quiet live found, ?_⟩
            exact (drains_heard.weaken chunk.term).update rfl (fun _ listed => listed)
              (fun later same idle => absurd (by cases same; exact idle) held)
      case isFalse free =>
        have mine : ∀ slot, server.slots chunk.term = some slot → slot.owner = client := by
          intro slot found
          rw [found, Option.getD_some, not_and_or, not_not, not_not] at free
          refine free.resolve_left fun idle => ?_
          have listed := drains chunk.term slot found idle nofun
          rw [quiet] at listed
          cases listed
        have put_back := PasteServer.writePasteChunk_putSlot
          { server with arrived := server.arrived ++ [server.pendingPaste client chunk] }
          (server.pendingPaste client chunk)
        dsimp only [PasteServer.pendingPaste] at put_back ⊢
        rw [put_back]
        exact ⟨.writes quiet writes mine, @Drains.write _ (server.pendingPaste client chunk)
          (drains_heard.weaken chunk.term) (tidy.somebody live)⟩

/-- Every event moves the server one of these ways, and leaves no slot that should have been
drained. -/
theorem step_moves (tidy : Tidy server) (drains : Drains server none) {event : PasteEvent}
    (allowed : pasteSystem.allows server event) :
    Moves server event (server.step event) ∧ Drains (server.step event) none := by
  cases event with
  | connect client =>
      obtain ⟨_, somebody, unborn⟩ := allowed
      refine ⟨.born _ server.terminals ?_ ?_ (fun _ _ => rfl),
        drains.same_slots rfl (fun _ _ listed => listed)⟩
      · exact (Function.update_of_ne somebody.symm ..).trans tidy.nobody
      · intro other known
        apply Function.update_of_ne
        rintro rfl
        exact known unborn
  | spawn term =>
      obtain ⟨_, unborn⟩ := allowed
      refine ⟨.born server.clients _ tidy.nobody (fun _ _ => rfl) ?_,
        drains.same_slots rfl (fun _ _ listed => listed)⟩
      intro other known
      apply Function.update_of_ne
      rintro rfl
      exact known unborn
  | arrive client chunk watching =>
      obtain ⟨quiet, live⟩ := allowed
      exact arrive_moves tidy drains quiet live chunk watching
  | drop client order =>
      obtain ⟨_, live, lists⟩ := allowed
      exact ⟨.yields (Yields.dropped server (tidy.somebody live) order)
        fun housed _ => .dropped housed client order, drains.dropped client lists⟩
  | remove term =>
      refine ⟨.yields (Yields.forget (.remove term :: server.tasks) ?_ ?_ ?_ ?_ ?_) fun housed _ => ?_,
        Drains.forget ?_⟩
      · simp
      · exact fun _ listed => List.mem_cons_of_mem _ listed
      · intro other listed
        rcases List.mem_cons.mp listed with same | before
        · exact .inr (PasteTask.remove.inj same)
        · exact .inl before
      · exact fun _ writes => writes.kept List.mem_cons_self
      · exact fun _ owed => .inr (.inr (.inl (List.mem_of_ne_of_mem (by simp) owed)))
      · have listed_first : Settles server { server with tasks := .remove term :: server.tasks } :=
          .tasks housed (fun _ listed => List.mem_cons_of_mem _ listed) rfl
        exact listed_first.trans (.forget (fun slot found => tidy.addressed term slot found)
          fun other slot _ found => housed other slot found)
      · exact (drains.weaken term).same_slots rfl (fun _ _ listed => List.mem_cons_of_mem _ listed)
  | kill term =>
      refine ⟨.yields (Yields.ended term server.tasks (fun _ => Iff.rfl) (fun _ listed => listed)
        (fun _ listed => .inl listed) fun _ owed => owed) fun housed unused =>
          .killed housed (unused term rfl), ?_⟩
      exact drains.same_slots rfl fun _ _ listed => listed
  | work bytes order => exact work_moves tidy drains bytes allowed.2

/-- Whatever a step does leaves things tidy. -/
theorem Tidy.moves (tidy : Tidy server) {event : PasteEvent} {later : PasteServer}
    (moves : Moves server event later) : Tidy later := by
  cases moves with
  | yields yields => exact tidy.yields yields
  | born clients terminals nobody known_client => exact tidy.born nobody known_client
  | answered _ live yields => exact (tidy.told live _).yields yields
  | waits quiet live found => exact tidy.waits quiet live found
  | writes quiet writes =>
      exact (tidy.told writes.client_live _).write
        ⟨writes.client_live, writes.staying, writes.terminal_live, writes.kept⟩
  | drained next_task found idle line writes =>
      refine (tidy.yields (Yields.popped_task next_task found idle line)).write ?_
      exact ⟨writes.client_live,
        fun listed => writes.staying (next_task ▸ List.mem_cons_of_mem _ listed),
        writes.terminal_live, fun listed => writes.kept (next_task ▸ List.mem_cons_of_mem _ listed)⟩

end

/-- Every reachable state is tidy. -/
theorem tidy_of_reachable {server : PasteServer} (reached : pasteSystem.Reachable server) :
    Tidy server ∧ Drains server none := by
  apply System.Reachable.invariant ?_ ?_ reached
  · rintro state ⟨clients, _, slots, tasks, arrived, _, acked_none⟩
    have no_slot : ∀ term slot, state.slots term ≠ some slot := by
      intro term slot
      rw [slots]
      nofun
    refine ⟨?_, fun term slot found => absurd found (no_slot term slot)⟩
    constructor
    · rw [clients]
    · rintro pending (listed | acked | owed | ⟨term, slot, found, _⟩)
      · exact absurd (arrived ▸ listed) List.not_mem_nil
      · exact absurd (acked_none ▸ acked) List.not_mem_nil
      · exact absurd (tasks ▸ owed) List.not_mem_nil
      · exact absurd found (no_slot term slot)
    · exact fun term slot found => absurd found (no_slot term slot)
    · exact fun term slot found => absurd found (no_slot term slot)
    · simp [tasks]
    · simp [tasks]
  · intro state event kept allowed
    obtain ⟨moves, drains⟩ := step_moves kept.1 kept.2 allowed
    exact ⟨kept.1.moves moves, drains⟩

end Ckmux
