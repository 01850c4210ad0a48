import Mathlib
import Ckmux.Data.Grouped
import Ckmux.Server.PasteMoves

/-!
# The order of pastes

What a client has had written to a terminal, and behind it what it has waiting
there, is in the order it was sent. That is what `Orderly` carries through every
step that lets no chunk go past one of its own client's, with what makes it so: a
paste that is not finished holds its slot for as long as its client and the terminal
are there. A run that lets one past writes it before its turn.
-/

namespace Ckmux

open Data (Grouped)
open Proto (PasteChunk)
open Semantics (System)
open PasteServer (sentTo)

/-- Of two chunks of one client to one terminal, which paste each is part of. -/
def Follows (earlier later : PendingPaste) : Prop :=
  earlier.paste ≤ later.paste ∧ (earlier.finished = true → earlier.paste < later.paste)

/-- The paste a chunk is part of. -/
def pasteOf (pending : PendingPaste) : ClientId × Nat := (pending.client, pending.paste)

/-- What a server keeps on which nobody writes out of turn: what a client has sent to a terminal is
typed and waits in the order it was sent. -/
structure Orderly (server : PasteServer) : Prop where
  known : ∀ pending ∈ server.written,
    server.clients pending.client ≠ .unborn ∧ server.terminals pending.chunk.term ≠ .unborn
  queued : ∀ client term,
    (sentTo client term server.written ++ sentTo client term (server.waitingAt term)).Sublist
      (sentTo client term server.arrived)
  counted : ∀ client term, ∀ pending ∈ sentTo client term server.arrived,
    pending.paste + (if pending.finished then 1 else 0) ≤
      ((sentTo client term server.arrived).filter PendingPaste.finished).length
  ascending : ∀ client term, (sentTo client term server.arrived).Pairwise Follows
  owned : ∀ term slot, server.slots term = some slot → slot.owner ≠ 0 →
    ∃ front last, server.writtenTo term = front ++ [last] ∧ last.client = slot.owner
  unfinished : ∀ client term, server.Writes client term →
    ∀ front last, sentTo client term server.written = front ++ [last] → last.finished = false →
      ∃ slot, server.slots term = some slot ∧ slot.owner = client
  grouped : ∀ term, Grouped pasteOf (server.writtenTo term)

namespace Orderly

variable {server : PasteServer}

/-- A chunk that is the next of its client's: behind its own paste, or the first of
one. -/
theorem groups (orderly : Orderly server) (tidy : Tidy server) {pending : PendingPaste}
    (writes : server.Writes pending.client pending.chunk.term)
    (next : (sentTo pending.client pending.chunk.term server.written ++
      pending :: sentTo pending.client pending.chunk.term
        (server.waitingAt pending.chunk.term)).Sublist
      (sentTo pending.client pending.chunk.term server.arrived)) :
    Grouped pasteOf (server.writtenTo pending.chunk.term ++ [pending]) := by
  have ascending := (orderly.ascending pending.client pending.chunk.term).sublist next
  apply (orderly.grouped pending.chunk.term).append
  have own : ∀ other ∈ server.writtenTo pending.chunk.term, pasteOf other = pasteOf pending →
      other ∈ sentTo pending.client pending.chunk.term server.written ∧
        other.paste = pending.paste := by
    intro other listed same
    obtain ⟨client, paste⟩ := Prod.mk.inj same
    rw [sentTo_writtenTo, List.mem_filter, decide_eq_true_iff]
    exact ⟨⟨listed, client⟩, paste⟩
  rcases List.eq_nil_or_concat (sentTo pending.client pending.chunk.term server.written) with
    none_yet | ⟨front, last, some_written⟩
  · right
    intro other listed same
    have mine := (own other listed same).1
    rw [none_yet] at mine
    cases mine
  rw [List.concat_eq_append] at some_written
  rw [some_written, List.append_assoc] at ascending
  have last_follows : Follows last pending :=
    (List.pairwise_append.mp ascending).2.1 |> List.rel_of_pairwise_cons <| List.mem_cons_self
  by_cases going_on : last.finished = false ∧ last.paste = pending.paste
  · -- The paste holds the slot, so the last chunk written is its own.
    left
    obtain ⟨slot, found, owner⟩ :=
      orderly.unfinished pending.client pending.chunk.term writes front last some_written going_on.1
    have somebody : slot.owner ≠ 0 := owner.trans_ne (tidy.somebody writes.client_live)
    obtain ⟨before, newest, ends, client⟩ := orderly.owned _ _ found somebody
    have same : newest = last := by
      have filtered := sentTo_writtenTo server pending.client pending.chunk.term
      rw [some_written, ends, List.filter_append, List.filter_singleton,
        decide_eq_true (client.trans owner)] at filtered
      exact (List.append_inj' filtered rfl).2 |> List.head_eq_of_cons_eq |> Eq.symm
    exact ⟨before, newest, ends, by rw [pasteOf, pasteOf, client, owner, same, going_on.2]⟩
  · right
    intro other listed same
    obtain ⟨mine, paste⟩ := own other listed same
    rw [some_written, List.mem_append, List.mem_singleton] at mine
    rcases mine with earlier | rfl
    · have follows : Follows other last :=
        (List.pairwise_append.mp ascending).2.2 other earlier last List.mem_cons_self
      have reached : last.paste = pending.paste :=
        le_antisymm last_follows.1 (paste ▸ follows.1)
      rcases Bool.eq_false_or_eq_true last.finished with finished | unfinished
      · exact absurd (last_follows.2 finished) (by omega)
      · exact going_on ⟨unfinished, reached⟩
    · rcases Bool.eq_false_or_eq_true other.finished with finished | unfinished
      · exact absurd (last_follows.2 finished) (by omega)
      · exact going_on ⟨unfinished, paste⟩


/-- Order survives whatever is only taken away. -/
theorem yields (orderly : Orderly server) (tidy : Tidy server) {later : PasteServer}
    (yields : Yields server later) : Orderly later where
  known := by
    intro pending listed
    rw [yields.written] at listed
    obtain ⟨client, term⟩ := orderly.known pending listed
    exact ⟨fun unborn => client (yields.clients _ unborn),
      fun unborn => term (yields.terminals _ unborn)⟩
  queued := by
    intro client term
    rw [yields.written, yields.arrived]
    have fewer := (yields.waitingAt term).filter
      fun pending => pending.client = client ∧ pending.chunk.term = term
    exact (fewer.append_left _).trans (orderly.queued client term)
  counted := by
    rw [yields.arrived]
    exact orderly.counted
  ascending := by
    rw [yields.arrived]
    exact orderly.ascending
  owned := by
    intro term slot found somebody
    obtain ⟨former, kept, owner | nobody, _⟩ := yields.slots term slot found
    · rw [owner] at somebody ⊢
      rw [PasteServer.writtenTo, yields.written]
      exact orderly.owned term former kept somebody
    · exact absurd nobody somebody
  unfinished := by
    intro client term writes front last ends unfinished
    rw [yields.written] at ends
    have wrote := yields.writes client term writes
    obtain ⟨former, found, owner⟩ := orderly.unfinished client term wrote front last ends unfinished
    exact yields.held client term former writes found owner (tidy.somebody wrote.client_live)
  grouped := by
    intro term
    rw [PasteServer.writtenTo, yields.written]
    exact orderly.grouped term


/-- The chunk whose turn it is, written. -/
theorem write (orderly : Orderly server) (tidy : Tidy server) {pending : PendingPaste}
    (writes : server.Writes pending.client pending.chunk.term)
    (next : (sentTo pending.client pending.chunk.term server.written ++
      pending :: sentTo pending.client pending.chunk.term
        (server.waitingAt pending.chunk.term)).Sublist
      (sentTo pending.client pending.chunk.term server.arrived))
    (free : ∀ slot, server.slots pending.chunk.term = some slot →
      slot.owner = 0 ∨ slot.owner = pending.client) :
    Orderly (server.writePasteChunk pending) := by
  have closes := server.close_writePasteChunk pending
  have removes := server.remove_writePasteChunk pending
  have waits := server.slot_writePasteChunk pending
  have elsewhere : ∀ term, term ≠ pending.chunk.term →
      (server.writePasteChunk pending).slots term = server.slots term :=
    fun _ => server.writePasteChunk_slots_of_ne pending
  have log : ∀ client term, sentTo client term (server.writePasteChunk pending).written =
      sentTo client term server.written ++ sentTo client term [pending] :=
    fun client term => sentTo_append client term _ _
  constructor
  case known =>
    intro other listed
    rcases List.mem_append.mp listed with before | now
    · exact orderly.known other before
    · rw [List.mem_singleton.mp now]
      exact ⟨writes.client_live.trans_ne (by decide), writes.terminal_live.trans_ne (by decide)⟩
  case queued =>
    intro client term
    rw [log, PasteServer.waitingAt_writePasteChunk]
    by_cases mine : pending.client = client ∧ pending.chunk.term = term
    · obtain ⟨rfl, rfl⟩ := mine
      rw [sentTo_own, List.append_assoc]
      exact next
    · rw [sentTo_other mine]
      exact (List.append_nil (sentTo client term server.written)).symm ▸ orderly.queued client term
  case counted => exact orderly.counted
  case ascending => exact orderly.ascending
  case owned =>
    intro term slot found holds
    by_cases same : term = pending.chunk.term
    · subst same
      rw [(waits slot found).1] at holds ⊢
      have unfinished : pending.finished ≠ true := by
        intro finished
        exact holds (if_pos finished)
      exact ⟨server.writtenTo pending.chunk.term, pending, server.writtenTo_own pending,
        (if_neg unfinished).symm⟩
    · rw [elsewhere term same] at found
      rw [server.writtenTo_other pending same]
      exact orderly.owned term slot found holds
  case unfinished =>
    intro client term still front last ends unfinished
    have before : server.Writes client term := ⟨still.client_live,
      fun listed => still.staying ((closes client).mpr listed), still.terminal_live,
      fun listed => still.kept ((removes term).mpr listed)⟩
    rw [log] at ends
    by_cases mine : pending.client = client ∧ pending.chunk.term = term
    · obtain ⟨rfl, rfl⟩ := mine
      rw [sentTo_own] at ends
      obtain ⟨_, newest⟩ := List.append_inj' ends rfl
      cases newest
      exact ⟨_, server.writePasteChunk_slots_self _, if_neg (Bool.eq_false_iff.mp unfinished)⟩
    · rw [sentTo_other mine] at ends
      obtain ⟨slot, found, owner⟩ := orderly.unfinished client term before front last
        ((List.append_nil _).symm.trans ends) unfinished
      have other : term ≠ pending.chunk.term := by
        rintro rfl
        rcases free slot found with nobody | own
        · exact tidy.somebody before.client_live (owner.symm.trans nobody)
        · exact mine ⟨own.symm.trans owner, rfl⟩
      exact ⟨slot, (elsewhere term other).trans found, owner⟩
  case grouped =>
    intro term
    by_cases same : term = pending.chunk.term
    · subst same
      rw [server.writtenTo_own]
      exact orderly.groups tidy writes next
    · rw [server.writtenTo_other pending same]
      exact orderly.grouped term

/-- A chunk that arrives is part of the paste its client has not finished. -/
theorem told (orderly : Orderly server) (client : ClientId) (chunk : PasteChunk) :
    Orderly { server with arrived := server.arrived ++ [server.pendingPaste client chunk] } := by
  have log : ∀ other term,
      sentTo other term (server.arrived ++ [server.pendingPaste client chunk]) =
        sentTo other term server.arrived ++
          sentTo other term [server.pendingPaste client chunk] :=
    fun other term => sentTo_append other term _ _
  constructor
  case known => exact orderly.known
  case queued =>
    intro other term
    rw [log]
    exact (orderly.queued other term).trans (List.sublist_append_left ..)
  case counted =>
    intro other term pending listed
    rw [log, List.mem_append] at listed
    rw [log, List.filter_append, List.length_append]
    rcases listed with before | now
    · exact (orderly.counted other term pending before).trans (Nat.le_add_right ..)
    · obtain ⟨only, rfl, rfl⟩ := mem_sentTo.mp now
      rw [List.mem_singleton.mp only]
      apply Nat.add_le_add
      · exact le_refl _
      · have mine := sentTo_own (server.pendingPaste client chunk) []
        rw [mine]
        by_cases finished : (server.pendingPaste client chunk).finished = true
        · rw [if_pos finished, List.filter_cons_of_pos finished, List.length_cons]
          exact Nat.le_add_left ..
        · rw [if_neg finished]
          exact Nat.zero_le _
  case ascending =>
    intro other term
    rw [log]
    apply List.pairwise_append.mpr
    by_cases mine : client = other ∧ chunk.term = term
    · obtain ⟨rfl, rfl⟩ := mine
      have only : sentTo client chunk.term [server.pendingPaste client chunk] =
          [server.pendingPaste client chunk] := sentTo_own (server.pendingPaste client chunk) []
      rw [only]
      refine ⟨orderly.ascending client chunk.term, List.pairwise_singleton .., ?_⟩
      intro earlier before later now
      have bound := orderly.counted client chunk.term earlier before
      rw [List.mem_singleton.mp now]
      refine ⟨(Nat.le_add_right ..).trans bound, fun finished => ?_⟩
      rw [if_pos finished] at bound
      exact bound
    · have none_new : sentTo other term [server.pendingPaste client chunk] = [] :=
        @sentTo_other other term (server.pendingPaste client chunk) mine []
      rw [none_new]
      exact ⟨orderly.ascending other term, .nil, fun _ _ _ now => absurd now List.not_mem_nil⟩
  case owned => exact orderly.owned
  case unfinished =>
    exact fun other term writes => orderly.unfinished other term
      ⟨writes.client_live, writes.staying, writes.terminal_live, writes.kept⟩
  case grouped => exact orderly.grouped

/-- A chunk put at the end of the line of a slot that somebody holds. -/
theorem waits (orderly : Orderly server) {client : ClientId}
    {chunk : PasteChunk} {slot : PasteSlot} (found : server.slots chunk.term = some slot) :
    Orderly (PasteServer.putSlot
      { server with arrived := server.arrived ++ [server.pendingPaste client chunk] } chunk.term
      { slot with waiting := slot.waiting ++ [server.pendingPaste client chunk] }) := by
  have heard := orderly.told client chunk
  generalize joined : ({ slot with
    waiting := slot.waiting ++ [server.pendingPaste client chunk] } : PasteSlot) = longer
  have owner : longer.owner = slot.owner := by rw [← joined]
  have line : longer.waiting = slot.waiting ++ [server.pendingPaste client chunk] := by rw [← joined]
  have held : ∀ term later, Function.update server.slots chunk.term (some longer) term = some later →
      ∃ former, server.slots term = some former ∧ later.owner = former.owner ∧
        (later = former ∨ term = chunk.term ∧ later = longer) := by
    intro term later kept
    by_cases same : term = chunk.term
    · subst same
      rw [Function.update_self] at kept
      cases kept
      exact ⟨slot, found, owner, .inr ⟨rfl, rfl⟩⟩
    · rw [Function.update_of_ne same] at kept
      exact ⟨later, kept, rfl, .inl rfl⟩
  constructor
  case known => exact heard.known
  case queued =>
    intro other term
    by_cases same : term = chunk.term
    · subst same
      have waiting := orderly.queued other chunk.term
      rw [PasteServer.waitingAt, found] at waiting
      rw [PasteServer.waitingAt_putSlot_self, line, PasteServer.putSlot]
      simp only [sentTo_append, ← List.append_assoc]
      exact waiting.append_right _
    · rw [PasteServer.waitingAt_putSlot_of_ne _ same]
      exact heard.queued other term
  case counted => exact heard.counted
  case ascending => exact heard.ascending
  case owned =>
    intro term later kept somebody
    obtain ⟨former, before, owner, _⟩ := held term later kept
    rw [owner] at somebody ⊢
    exact orderly.owned term former before somebody
  case unfinished =>
    intro other term writes front last ends unfinished
    obtain ⟨former, before, owned⟩ := heard.unfinished other term
      ⟨writes.client_live, writes.staying, writes.terminal_live, writes.kept⟩ front last ends unfinished
    by_cases same : term = chunk.term
    · subst same
      cases found.symm.trans before
      exact ⟨longer, Function.update_self .., owner.trans owned⟩
    · exact ⟨former, (Function.update_of_ne same ..).trans before, owned⟩
  case grouped => exact heard.grouped

/-- Nothing of a client or to a terminal that was not there before is written. -/
theorem born (orderly : Orderly server) {clients : ClientId → Life} {terminals : TerminalId → Life}
    (known_client : ∀ client, server.clients client ≠ .unborn → clients client = server.clients client)
    (known_terminal : ∀ term, server.terminals term ≠ .unborn →
      terminals term = server.terminals term) :
    Orderly { server with clients := clients, terminals := terminals } := by
  constructor
  case known =>
    intro pending listed
    obtain ⟨client, term⟩ := orderly.known pending listed
    exact ⟨(known_client _ client).trans_ne client, (known_terminal _ term).trans_ne term⟩
  case queued => exact orderly.queued
  case counted => exact orderly.counted
  case ascending => exact orderly.ascending
  case owned => exact orderly.owned
  case unfinished =>
    intro client term writes front last ends unfinished
    have listed : last ∈ sentTo client term server.written :=
      ends ▸ List.mem_append_right _ List.mem_cons_self
    obtain ⟨wrote, rfl, rfl⟩ := mem_sentTo.mp listed
    obtain ⟨client, term⟩ := orderly.known last wrote
    exact orderly.unfinished _ _
      ⟨(known_client _ client).symm.trans writes.client_live, writes.staying,
        (known_terminal _ term).symm.trans writes.terminal_live, writes.kept⟩ front last ends unfinished
  case grouped => exact orderly.grouped

end Orderly

/-- No chunk goes past one that its own client already has waiting. A client who was
drained into a slot may have the rest of the paste in line there still. -/
def inTurn (server : PasteServer) : PasteEvent → Prop
  | .arrive client chunk watching => watching = false → ∀ slot,
      server.slots chunk.term = some slot → slot.owner = client →
        ∀ pending ∈ slot.waiting, pending.client ≠ client
  | _ => True

/-- Whatever a step in turn does keeps order. -/
theorem Orderly.moves {server later : PasteServer} {event : PasteEvent} (orderly : Orderly server)
    (tidy : Tidy server) (turn : inTurn server event) (moves : Moves server event later) :
    Orderly later := by
  cases moves with
  | yields yields => exact orderly.yields tidy yields
  | born clients terminals _ known_client known_terminal =>
      exact orderly.born known_client known_terminal
  | answered _ live yields => exact (orderly.told _ _).yields (tidy.told live _) yields
  | waits _ _ found => exact orderly.waits found
  | @writes client chunk quiet writes mine =>
      have nothing_waits : sentTo client chunk.term (server.waitingAt chunk.term) = [] := by
        apply List.filter_eq_nil_iff.mpr
        intro pending listed own
        refine PasteServer.forall_waitingAt (p := fun pending => pending.client ≠ client) ?_ pending
          listed (of_decide_eq_true own).1
        exact fun slot found => turn rfl slot found (mine slot found)
      apply (orderly.told client chunk).write (tidy.told writes.client_live chunk)
      · exact ⟨writes.client_live, writes.staying, writes.terminal_live, writes.kept⟩
      · have so_far := orderly.queued client chunk.term
        rw [nothing_waits, List.append_nil] at so_far
        have line : PasteServer.waitingAt
            { server with arrived := server.arrived ++ [server.pendingPaste client chunk] }
            chunk.term = server.waitingAt chunk.term := rfl
        have own : sentTo client chunk.term [server.pendingPaste client chunk] =
            [server.pendingPaste client chunk] := sentTo_own (server.pendingPaste client chunk) []
        simp only [PasteServer.pendingPaste] at line own ⊢
        rw [line, nothing_waits, sentTo_append client chunk.term server.arrived, own]
        exact so_far.append_right _
      · exact fun slot found => .inr (mine slot found)
  | @drained _ slot next waiting tasks next_task found idle line writes =>
      have popped := Yields.popped_task next_task found idle line
      apply (orderly.yields tidy popped).write (tidy.yields popped)
      · exact ⟨writes.client_live,
          fun listed => writes.staying (next_task ▸ List.mem_cons_of_mem _ listed),
          writes.terminal_live, fun listed => writes.kept (next_task ▸ List.mem_cons_of_mem _ listed)⟩
      · have taken := orderly.queued next.client next.chunk.term
        rw [PasteServer.waitingAt, found, Option.map_some, Option.getD_some, line, sentTo_own] at taken
        rw [PasteServer.waitingAt_putSlot_self]
        exact taken
      · intro later holds
        cases (Function.update_self ..).symm.trans holds
        exact .inl idle

/-- Wherever such a server gets to, it is tidy and orderly. -/
theorem Orderly.reachable {server : PasteServer}
    (reached : (pasteSystem.guarded inTurn).Reachable server) : Tidy server ∧ Orderly server := by
  refine ⟨(tidy_of_reachable reached.unguarded).1, ?_⟩
  have both : Tidy server ∧ Drains server none ∧ Orderly server := by
    apply System.Reachable.invariant ?_ ?_ reached
    · intro state initial
      obtain ⟨tidy, drains⟩ := tidy_of_reachable (System.Reachable.start initial)
      obtain ⟨_, _, slots, _, arrived, written, _⟩ := initial
      have none_sent : ∀ client term, sentTo client term [] = [] := fun _ _ => rfl
      have no_slot : ∀ term slot, state.slots term ≠ some slot := by
        intro term slot
        rw [slots]
        nofun
      refine ⟨tidy, drains, ?_⟩
      constructor
      case known => simp [written]
      case queued =>
        intro client term
        rw [written, PasteServer.waitingAt, slots]
        exact List.nil_sublist _
      case counted => simp [arrived, none_sent]
      case ascending => simp [arrived, none_sent]
      case owned => exact fun term slot found => absurd found (no_slot term slot)
      case unfinished => simp [written, none_sent]
      case grouped =>
        intro term
        rw [PasteServer.writtenTo, written]
        exact Grouped.nil pasteOf
    · rintro state event ⟨tidy, drains, orderly⟩ ⟨allowed, turn⟩
      obtain ⟨moves, drained⟩ := step_moves tidy drains allowed
      exact ⟨tidy.moves moves, drained, orderly.moves tidy turn moves⟩
  exact both.2.2

/-- As long as no chunk goes past one of its own client's that waits, what is written
to a terminal is each client's chunks in the order they were sent, and one paste at a
time. -/
theorem pastes_in_order {server : PasteServer}
    (reached : (creditSystem.guarded inTurn).Reachable server) (term : TerminalId) :
    (∀ client, (sentTo client term server.written).Sublist (sentTo client term server.arrived)) ∧
      ∀ before first between last after,
        server.writtenTo term = before ++ first :: (between ++ last :: after) →
        first.client = last.client → first.paste = last.paste →
          ∀ chunk ∈ between, chunk.client = first.client ∧ chunk.paste = first.paste := by
  obtain ⟨_, orderly⟩ := Orderly.reachable reached.loosened
  constructor
  · intro client
    exact (List.sublist_append_left ..).trans (orderly.queued client term)
  · intro before first between last after split client paste chunk listed
    have same := orderly.grouped term before first between last after split
      (Prod.ext client paste) chunk listed
    exact Prod.mk.inj same

/-- Two clients at one terminal. -/
def desk (slot : Option PasteSlot) (tasks : List PasteTask) (arrived written : List PendingPaste)
    (acked : List PendingPaste) : PasteServer where
  clients := Function.update (Function.update (fun _ => .unborn) 1 .live) 2 .live
  terminals := Function.update (fun _ => .unborn) 7 .live
  slots := Function.update (fun _ => none) 7 slot
  tasks := tasks
  arrived := arrived
  written := written
  acked := acked

/-- The chunk that is the `seq`th of its client's, in a first paste. -/
def deskChunk (client : ClientId) (seq : UInt32) (finalChunk : UInt8) : PendingPaste where
  client := client
  chunk := { term := 7, seq := seq, finalChunk := finalChunk }
  paste := 0

/-- The desk's one terminal is all there is to list. -/
theorem desk_lists (slot : Option PasteSlot) (tasks : List PasteTask)
    (arrived written : List PendingPaste) (acked : List PendingPaste) :
    Lists (desk slot tasks arrived written acked) [7] := by
  intro term occupied
  by_contra other
  have another : term ≠ 7 := fun same => other (List.mem_singleton.mpr same)
  exact occupied (by simp only [desk, Function.update_of_ne another])

/-- An answer is twelve bytes on the wire. -/
theorem encode_ack (seq : UInt32) : (Proto.encode (.pasteAck ⟨seq⟩)).length = 12 := rfl

/-- An acknowledgement that its client has room for. -/
theorem desk_acks {slot : Option PasteSlot} {tasks : List PasteTask}
    {arrived written acked : List PendingPaste} (pending : PendingPaste)
    (live : pending.client = 1 ∨ pending.client = 2) :
    (desk slot (.ack pending :: tasks) arrived written acked).step (.work 0 [7]) =
      desk slot tasks arrived written (acked ++ [pending]) := by
  have small : ¬0 + (Proto.encode (.pasteAck ⟨pending.chunk.seq⟩)).length > kHardLimitBytes := by
    rw [encode_ack]
    decide
  have known : (desk slot tasks arrived written acked).clients pending.client = .live := by
    rcases live with one | two
    · rw [one]
      rfl
    · rw [two]
      rfl
  rw [desk] at known
  simp only [PasteServer.step, PasteServer.work, PasteServer.sendAck, desk, known, if_neg small,
    ne_eq, not_true_eq_false, if_false]

/-- The desk after its one answer has gone out. -/
theorem desk_acked {slot : Option PasteSlot} {tasks : List PasteTask}
    {arrived written acked : List PendingPaste} {pending : PendingPaste}
    (live : pending.client = 1 ∨ pending.client = 2)
    (reached : (creditSystem.guarded inTurn).Reachable
      (desk slot (.ack pending :: tasks) arrived written acked)) :
    (creditSystem.guarded inTurn).Reachable (desk slot tasks arrived written (acked ++ [pending])) :=
  reached.take (.work 0 [7]) ⟨⟨⟨List.cons_ne_nil _ _, desk_lists slot _ arrived written acked⟩, trivial⟩, trivial⟩
    (desk_acks pending live)

/-- The first client's paste is over, and the second's was drained as far as its
first chunk. -/
def waitingLine : PasteServer :=
  desk (some ⟨2, [deskChunk 2 2 0]⟩) []
    [deskChunk 1 1 0, deskChunk 2 1 0, deskChunk 2 2 0, deskChunk 1 2 1]
    [deskChunk 1 1 0, deskChunk 1 2 1, deskChunk 2 1 0]
    [deskChunk 1 1 0, deskChunk 1 2 1, deskChunk 2 1 0]

/-- Such a server is reached. -/
theorem waitingLine_reached : (creditSystem.guarded inTurn).Reachable waitingLine := by
  have begun : (creditSystem.guarded inTurn).Reachable
      ⟨fun _ => .unborn, fun _ => .unborn, fun _ => none, [], [], [], []⟩ :=
    System.Reachable.start ⟨rfl, rfl, rfl, rfl, rfl, rfl, rfl⟩
  have one := begun.take (.connect 1) ⟨⟨⟨rfl, by decide, rfl⟩, trivial⟩, trivial⟩ rfl
  have two := one.take (.connect 2) ⟨⟨⟨rfl, by decide, rfl⟩, trivial⟩, trivial⟩ rfl
  have seated : (creditSystem.guarded inTurn).Reachable (desk none [] [] [] []) :=
    two.take (.spawn 7) ⟨⟨⟨rfl, rfl⟩, trivial⟩, trivial⟩ (by simp [PasteServer.step, desk])
  have taken : (creditSystem.guarded inTurn).Reachable
      (desk (some ⟨1, []⟩) [.ack (deskChunk 1 1 0)] [deskChunk 1 1 0] [deskChunk 1 1 0] []) :=
    seated.take (.arrive 1 (deskChunk 1 1 0).chunk false) ⟨⟨⟨rfl, rfl⟩, by decide⟩, by simp [inTurn, desk, deskChunk]⟩
      (by simp [PasteServer.step, PasteServer.handlePasteChunk, PasteServer.putSlot,
        PasteServer.writePasteChunk, PasteServer.pendingPaste, sentTo, desk, deskChunk,
        PendingPaste.finished])
  have one_waits : (creditSystem.guarded inTurn).Reachable
      (desk (some ⟨1, [deskChunk 2 1 0]⟩) [] [deskChunk 1 1 0, deskChunk 2 1 0]
        [deskChunk 1 1 0] [deskChunk 1 1 0]) :=
    (desk_acked (.inl rfl) taken).take (.arrive 2 (deskChunk 2 1 0).chunk false)
      ⟨⟨⟨rfl, rfl⟩, by decide⟩, by simp [inTurn, desk, deskChunk]⟩
      (by simp [PasteServer.step, PasteServer.handlePasteChunk, PasteServer.putSlot,
        PasteServer.pendingPaste, sentTo, desk, deskChunk])
  have two_wait : (creditSystem.guarded inTurn).Reachable
      (desk (some ⟨1, [deskChunk 2 1 0, deskChunk 2 2 0]⟩) []
        [deskChunk 1 1 0, deskChunk 2 1 0, deskChunk 2 2 0] [deskChunk 1 1 0] [deskChunk 1 1 0]) :=
    one_waits.take (.arrive 2 (deskChunk 2 2 0).chunk false)
      ⟨⟨⟨rfl, rfl⟩, by decide⟩, by simp [inTurn, desk, deskChunk]⟩
      (by simp [PasteServer.step, PasteServer.handlePasteChunk, PasteServer.putSlot,
        PasteServer.pendingPaste, sentTo, desk, deskChunk, PendingPaste.finished])
  have ended : (creditSystem.guarded inTurn).Reachable
      (desk (some ⟨0, [deskChunk 2 1 0, deskChunk 2 2 0]⟩) [.ack (deskChunk 1 2 1), .drain 7]
        [deskChunk 1 1 0, deskChunk 2 1 0, deskChunk 2 2 0, deskChunk 1 2 1]
        [deskChunk 1 1 0, deskChunk 1 2 1] [deskChunk 1 1 0]) :=
    two_wait.take (.arrive 1 (deskChunk 1 2 1).chunk false)
      ⟨⟨⟨rfl, rfl⟩, by decide⟩, by simp [inTurn, desk, deskChunk]⟩
      (by simp [PasteServer.step, PasteServer.handlePasteChunk, PasteServer.putSlot,
        PasteServer.writePasteChunk, PasteServer.pendingPaste, sentTo, desk, deskChunk,
        PendingPaste.finished])
  have drained : (creditSystem.guarded inTurn).Reachable
      (desk (some ⟨2, [deskChunk 2 2 0]⟩) [.ack (deskChunk 2 1 0)]
        [deskChunk 1 1 0, deskChunk 2 1 0, deskChunk 2 2 0, deskChunk 1 2 1]
        [deskChunk 1 1 0, deskChunk 1 2 1, deskChunk 2 1 0]
        [deskChunk 1 1 0, deskChunk 1 2 1]) :=
    (desk_acked (.inl rfl) ended).take (.work 0 [7])
      ⟨⟨⟨List.cons_ne_nil _ _, desk_lists (some ⟨0, _⟩) _ _ _ _⟩, trivial⟩, trivial⟩
      (by simp [PasteServer.step, PasteServer.work, PasteServer.drainPasteSlot, PasteServer.putSlot,
        PasteServer.writePasteChunk, desk, deskChunk, PendingPaste.finished])
  exact desk_acked (.inr rfl) drained

/-- The second client's chunk waited for the first's paste to be over. -/
theorem pastes_in_order_desk :
    waitingLine.writtenTo 7 = [deskChunk 1 1 0, deskChunk 1 2 1, deskChunk 2 1 0] ∧
      ∀ client, (sentTo client 7 waitingLine.written).Sublist (sentTo client 7 waitingLine.arrived) :=
  ⟨rfl, (pastes_in_order waitingLine_reached 7).1⟩

/-- The second client's last chunk is written where its second one still waits. -/
theorem paste_reordered : ∃ server, creditSystem.Reachable server ∧
    ¬(sentTo 2 7 server.written).Sublist (sentTo 2 7 server.arrived) := by
  have last_chunk : creditSystem.Reachable
      (desk (some ⟨0, [deskChunk 2 2 0]⟩) [.ack (deskChunk 2 3 1), .drain 7]
        [deskChunk 1 1 0, deskChunk 2 1 0, deskChunk 2 2 0, deskChunk 1 2 1, deskChunk 2 3 1]
        [deskChunk 1 1 0, deskChunk 1 2 1, deskChunk 2 1 0, deskChunk 2 3 1]
        [deskChunk 1 1 0, deskChunk 1 2 1, deskChunk 2 1 0]) :=
    waitingLine_reached.unguarded.take (.arrive 2 (deskChunk 2 3 1).chunk false)
      ⟨⟨rfl, rfl⟩, by decide⟩
      (by simp [PasteServer.step, PasteServer.handlePasteChunk, PasteServer.putSlot,
        PasteServer.writePasteChunk, PasteServer.pendingPaste, sentTo, waitingLine, desk, deskChunk,
        PendingPaste.finished])
  have acknowledged : creditSystem.Reachable
      (desk (some ⟨0, [deskChunk 2 2 0]⟩) [.drain 7]
        [deskChunk 1 1 0, deskChunk 2 1 0, deskChunk 2 2 0, deskChunk 1 2 1, deskChunk 2 3 1]
        [deskChunk 1 1 0, deskChunk 1 2 1, deskChunk 2 1 0, deskChunk 2 3 1]
        ([deskChunk 1 1 0, deskChunk 1 2 1, deskChunk 2 1 0] ++ [deskChunk 2 3 1])) :=
    last_chunk.take (.work 0 [7])
    ⟨⟨List.cons_ne_nil _ _, desk_lists (some ⟨0, _⟩) _ _ _ _⟩, trivial⟩ (desk_acks (deskChunk 2 3 1) (.inr rfl))
  refine ⟨_, acknowledged.take (.work 0 [7]) ⟨⟨List.cons_ne_nil _ _, desk_lists (some ⟨0, _⟩) _ _ _ _⟩, trivial⟩ rfl, ?_⟩
  intro kept
  have seqs := kept.map fun pending => pending.chunk.seq
  revert seqs
  decide

end Ckmux
