import Mathlib
import Ckmux.Server.PasteAccounts

/-!
# No chunk answered twice

Whatever becomes of its client and its terminal, a chunk is acknowledged, about to be,
or waits at most as often as it arrived. A step that hears nothing adds nothing to that
account, and a chunk that arrives adds itself.
-/

namespace Ckmux

open Proto (PasteChunk)
open Semantics (System)
open PasteServer (sentTo)

namespace PasteServer

/-- Nothing is acknowledged, owed or waits that did not before. -/
def Fewer (earlier later : PasteServer) : Prop :=
  ∀ client term, (later.account client term).Subperm (earlier.account client term)

/-- The chunks of a client that have arrived. -/
def heardFrom (server : PasteServer) (client : ClientId) : List PendingPaste :=
  server.arrived.filter fun pending => pending.client = client

/-- The chunks of a client that are acknowledged. -/
def ackedTo (server : PasteServer) (client : ClientId) : List PendingPaste :=
  server.acked.filter fun pending => pending.client = client

namespace Fewer

variable {server earlier later : PasteServer}

/-- Nothing is owed more often than before when nothing happens. -/
theorem refl : Fewer server server := fun _ _ => .refl _

/-- Owed less often twice over. -/
theorem trans {first second third : PasteServer} (start : Fewer first second)
    (rest : Fewer second third) : Fewer first third :=
  fun client term => (rest client term).trans (start client term)

/-- Lines that are shorter and calls that acknowledge less. -/
theorem of_sublist (acked : later.acked = earlier.acked)
    (owed : (owedBy later.tasks).Sublist (owedBy earlier.tasks))
    (lines : ∀ term, (later.waitingAt term).Sublist (earlier.waitingAt term)) :
    Fewer earlier later := by
  intro client term
  have fewer_owed : (sentTo client term (owedBy later.tasks)).Sublist
      (sentTo client term (owedBy earlier.tasks)) := owed.filter _
  have fewer_waiting : (sentTo client term (later.waitingAt term)).Sublist
      (sentTo client term (earlier.waitingAt term)) := (lines term).filter _
  rw [account, account, acked]
  exact ((fewer_owed.append fewer_waiting).append_left _).subperm

/-- Calls that return, or are still to come, with no acknowledgement among them. -/
theorem tasks {tasks : List PasteTask} (owed : owedBy tasks = owedBy server.tasks) :
    Fewer server { server with tasks := tasks } :=
  .of_sublist rfl (owed ▸ .refl _) fun _ => .refl _

/-- A line that got shorter. -/
theorem putSlot {term : TerminalId} {slot : PasteSlot} (found : server.slots term = some slot)
    {waiting : List PendingPaste} (fewer : waiting.Sublist slot.waiting) :
    Fewer server (server.putSlot term { slot with waiting := waiting }) := by
  refine .of_sublist rfl (.refl _) fun other => ?_
  by_cases same : other = term
  · rw [same, waitingAt_putSlot_self, waitingAt, found]
    exact fewer
  · rw [waitingAt_putSlot_of_ne _ same]

/-- A slot given up with whoever waits in it. -/
theorem emptied (term : TerminalId) :
    Fewer server { server with slots := Function.update server.slots term none } := by
  refine .of_sublist rfl (.refl _) fun other => ?_
  rw [waitingAt, waitingAt]
  by_cases same : other = term
  · subst same
    simp only [Function.update_self, Option.map_none, Option.getD_none]
    exact List.nil_sublist _
  · simp only [Function.update_of_ne same]
    exact .refl _

/-- Forgetting a slot owes its waiting chunks in place of holding them. -/
theorem forget {term : TerminalId} (addressed : ∀ slot, server.slots term = some slot →
      ∀ pending ∈ slot.waiting, pending.chunk.term = term) :
    Fewer server (server.forgetPasteSlot term) :=
  fun client other => (account_forgetPasteSlot addressed client other).subperm

/-- What a client that is dropped had waiting is owed to nobody. -/
theorem dropped (client : ClientId) (order : List TerminalId) :
    Fewer server (server.drop client order) := by
  refine .of_sublist rfl ?_ fun term => ?_
  · simp [PasteServer.drop, PasteServer.releasePasteSlots]
  · rw [waitingAt, waitingAt]
    change (((server.slots term).map fun slot => slot.without client).map _).getD [] |>.Sublist _
    cases server.slots term with
    | none => exact .refl _
    | some slot => exact List.filter_sublist

end Fewer

/-! ### One step -/

section

variable {server : PasteServer}

/-- One pass of a drain moves the first in line from what waits to what is owed. -/
theorem drain_fewer (tidy : Tidy server) {term : TerminalId} {tasks : List PasteTask}
    (next_task : server.tasks = .drain term :: tasks) :
    Fewer server (drainPasteSlot { server with tasks := tasks } term) := by
  have returned : Fewer server { server with tasks := tasks } :=
    .tasks (by rw [next_task, owedBy_drain])
  rw [drainPasteSlot]
  split
  case h_1 => exact returned
  case h_2 slot found =>
    split
    case isTrue => exact returned
    case isFalse =>
      split
      case h_1 => exact returned.trans (.emptied term)
      case h_2 next waiting line =>
        have shorter : waiting.Sublist slot.waiting := line ▸ List.sublist_cons_self next waiting
        have popped := returned.trans (.putSlot found shorter)
        have here : next.chunk.term = term :=
          tidy.addressed term slot found next (line ▸ List.mem_cons_self)
        split
        case isTrue =>
          refine popped.trans (.forget fun later kept pending listed => ?_)
          cases (Function.update_self ..).symm.trans kept
          exact tidy.addressed term slot found pending (shorter.subset listed)
        case isFalse =>
          split
          case isTrue => exact popped.trans (.tasks (owedBy_drain term _))
          case isFalse =>
            subst here
            intro client other
            exact ((account_writePasteChunk _ next client other).trans
              (server.account_popped next client other next_task found line).symm).subperm

/-- An acknowledgement sent was owed; one that is not sent is lost. -/
theorem ack_fewer {pending : PendingPaste} {tasks : List PasteTask}
    (next_task : server.tasks = .ack pending :: tasks) (bytes : Nat) (order : List TerminalId) :
    Fewer server (sendAck { server with tasks := tasks } pending bytes order) := by
  have lost : Fewer server { server with tasks := tasks } := by
    refine .of_sublist rfl ?_ fun _ => .refl _
    rw [next_task, owedBy_ack]
    exact List.sublist_cons_self ..
  rw [sendAck]
  split
  case isTrue => exact lost
  case isFalse =>
    split
    case isTrue => exact lost.trans (.dropped pending.client order)
    case isFalse => exact fun client term => account_sent next_task client term ▸ .refl _

/-- Whichever call returns. -/
theorem work_fewer (tidy : Tidy server) (bytes : Nat) (order : List TerminalId) :
    Fewer server (server.work bytes order) := by
  rw [work]
  split
  case h_1 => exact .refl
  case h_2 term tasks next => exact drain_fewer tidy next
  case h_3 pending tasks next => exact ack_fewer next bytes order
  case h_4 client tasks next =>
    exact .of_sublist rfl (by rw [next, owedBy_close]) fun _ => .refl _
  case h_5 term tasks next =>
    exact .of_sublist rfl (by rw [next, owedBy_remove]) fun _ => .refl _

/-- A chunk that arrives is owed, waits or is written: it adds itself. -/
theorem arrive_account (tidy : Tidy server) (client : ClientId) (chunk : PasteChunk)
    (watching : Bool) (other : ClientId) (term : TerminalId) :
    ((server.handlePasteChunk client chunk watching).account other term).Perm
      (sentTo other term [server.pendingPaste client chunk] ++ server.account other term) := by
  have answered := @account_owes server (server.pendingPaste client chunk) other term
    { server with
      arrived := server.arrived ++ [server.pendingPaste client chunk]
      tasks := .ack (server.pendingPaste client chunk) :: server.tasks } rfl rfl rfl
  rw [handlePasteChunk]
  split
  case isTrue => exact answered
  case isFalse =>
    split
    case isTrue =>
      refine .trans (account_forgetPasteSlot (fun slot found => ?_) other term) answered
      exact tidy.addressed chunk.term slot found
    case isFalse =>
      dsimp only
      split
      case isTrue taken =>
        cases found : server.slots chunk.term with
        | none => exact absurd (found ▸ rfl) taken.1
        | some slot =>
            exact @account_waits
              { server with arrived := server.arrived ++ [server.pendingPaste client chunk] }
              (server.pendingPaste client chunk) other term slot found
      case isFalse =>
        have put_back := writePasteChunk_putSlot
          { server with arrived := server.arrived ++ [server.pendingPaste client chunk] }
          (server.pendingPaste client chunk)
        dsimp only [pendingPaste] at put_back ⊢
        rw [put_back]
        exact account_writePasteChunk _ _ other term

/-! ### What is heard and answered -/

/-- A step hears nothing, hears a chunk that arrives, or answers one. -/
inductive Hears (before after : PasteServer) : PasteEvent → Prop where
  | silent {event : PasteEvent} (arrived : after.arrived = before.arrived)
      (acked : after.acked = before.acked) : Hears before after event
  | heard {client : ClientId} {chunk : PasteChunk} {watching : Bool}
      (arrived : after.arrived = before.arrived ++ [before.pendingPaste client chunk])
      (acked : after.acked = before.acked) : Hears before after (.arrive client chunk watching)
  | answered {event : PasteEvent} (pending : PendingPaste) (arrived : after.arrived = before.arrived)
      (acked : after.acked = before.acked ++ [pending]) : Hears before after event

/-- Forgetting a slot hears nothing and answers nothing. -/
theorem forgetPasteSlot_logs (server : PasteServer) (term : TerminalId) :
    (server.forgetPasteSlot term).arrived = server.arrived ∧
      (server.forgetPasteSlot term).acked = server.acked := by
  rw [forgetPasteSlot]
  split <;> exact ⟨rfl, rfl⟩

/-- Draining a slot hears nothing and answers nothing. -/
theorem drainPasteSlot_logs (server : PasteServer) (term : TerminalId) :
    (server.drainPasteSlot term).arrived = server.arrived ∧
      (server.drainPasteSlot term).acked = server.acked := by
  rw [drainPasteSlot]
  split
  case h_1 => exact ⟨rfl, rfl⟩
  case h_2 slot _ =>
    split
    case isTrue => exact ⟨rfl, rfl⟩
    case isFalse =>
      split
      case h_1 => exact ⟨rfl, rfl⟩
      case h_2 next waiting _ =>
        split
        case isTrue => exact forgetPasteSlot_logs (server.putSlot term { slot with waiting := waiting }) term
        case isFalse => split <;> exact ⟨rfl, rfl⟩

/-- A chunk handled is one chunk heard and none answered yet. -/
theorem handlePasteChunk_logs (server : PasteServer) (client : ClientId) (chunk : PasteChunk)
    (watching : Bool) :
    (server.handlePasteChunk client chunk watching).arrived =
        server.arrived ++ [server.pendingPaste client chunk] ∧
      (server.handlePasteChunk client chunk watching).acked = server.acked := by
  rw [handlePasteChunk]
  split
  case isTrue => exact ⟨rfl, rfl⟩
  case isFalse =>
    split
    case isTrue => exact forgetPasteSlot_logs _ chunk.term
    case isFalse =>
      dsimp only
      split <;> exact ⟨rfl, rfl⟩

/-- The work of the tasks hears nothing. -/
theorem work_hears (server : PasteServer) (bytes : Nat) (order : List TerminalId)
    (event : PasteEvent) : Hears server (server.work bytes order) event := by
  rw [work]
  split
  case h_1 => exact .silent rfl rfl
  case h_2 term tasks _ =>
    obtain ⟨arrived, acked⟩ := drainPasteSlot_logs { server with tasks := tasks } term
    exact .silent arrived acked
  case h_3 pending tasks _ =>
    rw [sendAck]
    split
    case isTrue => exact .silent rfl rfl
    case isFalse =>
      split
      case isTrue => exact .silent rfl rfl
      case isFalse => exact .answered pending rfl rfl
  case h_4 => exact .silent rfl rfl
  case h_5 => exact .silent rfl rfl

/-- Each event hears its own chunk and no other. -/
theorem step_hears (server : PasteServer) (event : PasteEvent) :
    Hears server (server.step event) event := by
  cases event with
  | arrive client chunk watching =>
      obtain ⟨arrived, acked⟩ := handlePasteChunk_logs server client chunk watching
      exact .heard arrived acked
  | remove term =>
      obtain ⟨arrived, acked⟩ := forgetPasteSlot_logs { server with tasks := .remove term :: server.tasks } term
      exact .silent arrived acked
  | work bytes order => exact work_hears server bytes order _
  | connect | spawn | drop | kill => exact .silent rfl rfl

/-! ### Every run -/

/-- A step that hears nothing adds nothing to the account. -/
theorem step_fewer (tidy : Tidy server) {event : PasteEvent}
    (silent : (server.step event).arrived = server.arrived) : Fewer server (server.step event) := by
  cases event with
  | arrive client chunk watching =>
      have more := (handlePasteChunk_logs server client chunk watching).1
      exact absurd (List.append_right_eq_self.mp (more.symm.trans silent)) (List.cons_ne_nil _ _)
  | remove term =>
      have listed : Fewer server { server with tasks := .remove term :: server.tasks } :=
        .tasks (owedBy_remove term _)
      exact listed.trans (.forget fun slot found => tidy.addressed term slot found)
  | drop client order => exact .dropped client order
  | work bytes order => exact work_fewer tidy bytes order
  | connect | spawn | kill => exact .refl

/-- No chunk is acknowledged, owed or waits more often than it arrived. -/
def AtMostOnce (server : PasteServer) : Prop :=
  ∀ client term, (server.account client term).Subperm (sentTo client term server.arrived)

/-- One event answers no chunk more often than it has come. -/
theorem AtMostOnce.step (once : server.AtMostOnce) (tidy : Tidy server) (event : PasteEvent) :
    (server.step event).AtMostOnce := by
  intro client term
  have quiet (silent : (server.step event).arrived = server.arrived) :
      ((server.step event).account client term).Subperm
        (sentTo client term (server.step event).arrived) := by
    rw [silent]
    exact (step_fewer tidy silent client term).trans (once client term)
  cases step_hears server event with
  | silent arrived => exact quiet arrived
  | answered pending arrived => exact quiet arrived
  | @heard sender chunk watching arrived =>
      have added := arrive_account tidy sender chunk watching client term
      rw [arrived, sentTo_append]
      refine added.subperm.trans (.trans ?_ List.perm_append_comm.subperm)
      exact (List.subperm_append_left _).mpr (once client term)

/-- In every run a chunk is answered at most as often as it has come. -/
theorem AtMostOnce.of_reachable (reached : pasteSystem.Reachable server) : server.AtMostOnce := by
  have both : (Tidy server ∧ Drains server none) ∧ server.AtMostOnce := by
    apply System.Reachable.invariant ?_ ?_ reached
    · intro state initial
      refine ⟨tidy_of_reachable (.start initial), fun client term => ?_⟩
      obtain ⟨_, _, slots, tasks, _, _, acked⟩ := initial
      rw [account, waitingAt, slots, tasks, acked]
      exact List.nil_subperm
    · rintro state event ⟨⟨tidy, drains⟩, once⟩ allowed
      obtain ⟨moves, drained⟩ := step_moves tidy drains allowed
      exact ⟨⟨tidy.moves moves, drained⟩, once.step tidy event⟩
  exact both.2

/-- Of each client's chunks no more are acknowledged than arrived, whoever is dropped and whatever
terminal goes in between. -/
theorem answered_once (reached : pasteSystem.Reachable server) (client : ClientId) :
    (server.ackedTo client).Subperm (server.heardFrom client) := by
  classical
  refine List.subperm_ext_iff.mpr fun pending listed => ?_
  have own : pending.client = client := of_decide_eq_true (List.mem_filter.mp listed).2
  have here : (sentTo client pending.chunk.term server.acked).Subperm
      (sentTo client pending.chunk.term server.arrived) :=
    (List.sublist_append_left ..).subperm.trans
      (AtMostOnce.of_reachable reached client pending.chunk.term)
  have counts (log : List PendingPaste) : (sentTo client pending.chunk.term log).count pending =
      (log.filter fun other => other.client = client).count pending := by
    rw [sentTo, List.count_filter, List.count_filter] <;> simpa using own
  have counted := here.count_le pending
  rwa [counts, counts] at counted

end

end PasteServer

end Ckmux
