import Mathlib
import Ckmux.Server.Provenance
import Ckmux.Server.Shaping

/-!
# Nothing is killed without its grace

A terminal whose child is killed, or that is removed while its child runs, was asked for by force,
itself, and had the time it was given: unless it came into a session of which a forced end was
already waited for.
-/

namespace Ckmux

open Grammar (Bytes)
open Proto (Message)
open Semantics (System)

namespace Server

variable {origin server before middle after : Server} {event : ServerEvent}

/-! ### What a session gains -/

section

variable (origin : Server) (event : ServerEvent)

/-- Whether an event opens a terminal in a session, or moves one into it. -/
def Enters (home : SessionId) : Prop :=
  (∃ id request session, origin.Asks event id (.newTerminal request) ∧
    (origin.client id).bind origin.sessionOf = some session ∧ session.id = home ∧
    (session.terminals.length : Int) < origin.settings.maxTerminals) ∨
  (∃ id request source, origin.Asks event id (.moveTerminal request) ∧ request.toNewSession = 0 ∧
    request.destinationSession = home ∧ (origin.terminal request.term).isSome ∧
    origin.sessionHolding request.term = some source ∧ source.id ≠ home)

/-- Whether every session was there with all it holds, or has just been made. -/
def Narrows (before after : Server) : Prop :=
  ∀ session ∈ after.sessions,
    (∃ was ∈ before.sessions, was.id = session.id ∧ session.terminals ⊆ was.terminals) ∨
      session.id = origin.nextSession

end

namespace Narrows

/-- Sessions that were all there before hold no more. -/
theorem fewer (sessions : ∀ session ∈ after.sessions, session ∈ before.sessions) :
    Narrows origin before after :=
  fun session listed => .inl ⟨session, sessions session listed, rfl, List.Subset.refl _⟩

/-- Nothing happened, and no session holds more. -/
theorem refl (server : Server) : Narrows origin server server := fewer fun _ listed => listed

/-- Sessions that hold no more step by step hold no more. -/
theorem trans (first : Narrows origin before middle) (second : Narrows origin middle after) :
    Narrows origin before after := by
  intro session listed
  rcases second session listed with ⟨was, there, same, held⟩ | new
  · rcases first was there with ⟨once, early, name, kept⟩ | new
    · exact .inl ⟨once, early, name.trans same, List.Subset.trans held kept⟩
    · exact .inr (same.symm.trans new)
  · exact .inr new

/-- Telling leaves what sessions hold. -/
theorem tells {news : ClientId → Message → Prop} {notes : Terminal → Terminal → Prop}
    (tells : Tells news notes before after) : Narrows origin before after :=
  fewer fun _ listed => tells.sessions ▸ listed

/-- A session in which nothing is new. -/
theorem setSession (server : Server) (id : SessionId) {change : Session → Session}
    (kept : ∀ session, (change session).id = session.id)
    (held : id = origin.nextSession ∨ ∀ session, (change session).terminals ⊆ session.terminals) :
    Narrows origin server (server.setSession id change) := by
  intro session listed
  obtain ⟨was, there, rfl⟩ := List.mem_map.mp listed
  split
  · rename_i same
    rcases held with new | held
    · exact .inr ((kept was).trans (same.trans new))
    · exact .inl ⟨was, there, (kept was).symm, held was⟩
  · exact .inl ⟨was, there, rfl, List.Subset.refl _⟩

/-- A session forgotten leaves what the others hold. -/
theorem forgetSession (server : Server) (id : SessionId) (reason : Proto.DetachReason)
    (text : Bytes) : Narrows origin server (server.forgetSession id reason text) :=
  fewer (forgetSession_fewer server id reason text).subset

/-- A snapshot leaves what sessions hold. -/
theorem sendSnapshot [Emulator] (server : Server) (id : ClientId) :
    Narrows origin server (server.sendSnapshot id) :=
  fewer fun _ listed => sendSnapshot_sessions server id ▸ listed

/-- Every act but an opening and a move leaves of the sessions what was there. -/
theorem act [CkVision] [Emulator] (kept : before.ledger.Kept)
    (none_opened : ∀ id request, ¬origin.Asks event id (.newTerminal request))
    (none_moved : ∀ id request, ¬origin.Asks event id (.moveTerminal request))
    (act : Act origin event before after) : Narrows origin before after := by
  cases act with
  | speak told => exact tells told
  | fetch => exact tells (Tells.sendChunks ..)
  | connect | sweep | wait | closes | kills | respawn | lose | deed | kill | policies | observed =>
      exact fewer fun _ listed => listed
  | create named =>
      intro session listed
      rcases List.mem_append.mp listed with was | new
      · exact .inl ⟨session, was, rfl, List.Subset.refl _⟩
      · rw [List.mem_singleton.mp new]
        exact .inr named.2.1
  | @rename _ _ session =>
      exact setSession before session.id (fun _ => rfl) (.inr fun _ => List.Subset.refl _)
  | @print _ id => exact setSession before id (fun _ => rfl) (.inr fun _ => List.Subset.refl _)
  | @reshape _ session wanted =>
      unfold Server.changeDesktop
      split
      · exact refl before
      · have sized : Narrows origin before
            (before.setSession session.id fun session => { session with desktop := wanted }) :=
          setSession before session.id (fun _ => rfl) (.inr fun _ => List.Subset.refl _)
        exact sized.trans (tells (Tells.announceLayout _ session.id))
  | forget => exact forgetSession _ _ _ _
  | @bury _ session =>
      have closed : Narrows origin before (session.terminals.foldl closeTerminal before) := by
        have same : (session.terminals.foldl closeTerminal before).sessions = before.sessions :=
          foldl_keeps Server.sessions session.terminals (by exact fun _ _ => rfl) before
        exact fewer fun _ listed => same ▸ listed
      exact closed.trans (forgetSession _ _ _ _)
  | @spawn _ home spec _ _ asked made found =>
      rw [openTerminal_eq found spec]
      have opened : Narrows origin before { before with
          terminals := before.terminals ++ [Terminal.opened before.nextTerminal spec]
          nextTerminal := before.nextTerminal + 1 } := fewer fun _ listed => listed
      exact opened.trans (setSession _ home.id (fun _ => rfl) (.inl made))
  | opens asked => exact absurd asked (none_opened _ _)
  | @respawnIn _ terminal home =>
      have again : Narrows origin before (before.relaunch terminal.id) := fewer fun _ listed => listed
      exact again.trans (tells (Tells.tellOpened _ home.id _))
  | rehome asked => exact absurd asked (none_moved _ _)
  | @takeOut _ term home =>
      have closed : Narrows origin before (before.closeTerminal term) := fewer fun _ listed => listed
      exact closed.trans (setSession _ home.id (fun _ => rfl)
        (.inr fun _ => List.filter_sublist.subset))
  | @types id given =>
      unfold Server.input
      split
      · exact refl origin
      · have typed : Narrows origin origin ((origin.setTerminal given.term fun terminal =>
            terminal.ask (.input given.bytes)).setClient id fun client =>
              { client with focused := given.term }) := fewer fun _ listed => listed
        dsimp only
        split
        · exact typed
        · rename_i home _
          exact typed.trans (setSession _ home.id (fun _ => rfl) (.inr fun _ => List.Subset.refl _))
  | @welcome _ id request session =>
      obtain ⟨_, _, sessions⟩ := seat_terminals before id request session
      have sized : Narrows origin before (before.setSession session.id fun session =>
          { session with
            desktop := before.arrivingDesktop session ⟨request.columns.toNat, request.rows.toNat⟩ }) :=
        setSession before session.id (fun _ => rfl) (.inr fun _ => List.Subset.refl _)
      have seated : Narrows origin before (before.seat id request session) :=
        sized.trans (fewer fun _ listed => sessions ▸ listed)
      exact seated.trans (sendSnapshot _ id)
  | @heal _ client => exact sendSnapshot before client.id
  | @news _ terminal =>
      have told := @Tells.announceNews before _ kept.distinct terminal fun _ _ => places_of_tidings
      exact tells told
  | @layout _ session => exact tells (Tells.announceSessionLayout before session false)

end Narrows

/-- A refusal leaves the sessions. -/
theorem refuse_sessions (server : Server) (id : ClientId) (code : ErrorCode) (context human : Bytes) :
    (server.refuse id code context human).sessions = server.sessions := by
  have told : Tells (fun _ _ => True) Eq server (server.refuse id code context human) :=
    .say server id trivial rfl
  exact told.sessions

/-- A terminal opened is in the session that its opener is attached to. -/
theorem newTerminal_narrows [CkVision] [Emulator] {id : ClientId} {request : Proto.NewTerminal}
    (asks : origin.Asks event id (.newTerminal request)) :
    ∀ session ∈ (origin.newTerminal id request).sessions,
      (∃ was ∈ origin.sessions, was.id = session.id ∧ session.terminals ⊆ was.terminals) ∨
        origin.Enters event session.id := by
  intro session listed
  unfold Server.newTerminal at listed
  split at listed
  · rw [refuse_sessions] at listed
    exact .inl ⟨session, listed, rfl, List.Subset.refl _⟩
  · rename_i client home found
    obtain ⟨other, there, mapped⟩ := Option.bind_eq_some_iff.mp found
    obtain ⟨here, attached, paired⟩ := Option.map_eq_some_iff.mp mapped
    obtain ⟨rfl, rfl⟩ := Prod.mk.inj paired
    split at listed
    · rw [refuse_sessions] at listed
      exact .inl ⟨session, listed, rfl, List.Subset.refl _⟩
    · rename_i room
      have stored : origin.sessionFor here.id = some here := by
        unfold Server.sessionOf at attached
        split at attached
        · exact sessionFor_id attached ▸ attached
        · cases attached
      dsimp only at listed
      have sessions : ∀ (opened : Server) (told : Proto.TermOpened),
          (opened.forEachAttached here.id fun server each =>
            server.send each (.termOpened told)).sessions = opened.sessions :=
        fun opened told => (Tells.tellOpened opened here.id told).sessions
      rw [sessions, @openTerminal_eq (origin.setClient id _) _ here.id here stored] at listed
      obtain ⟨was, early, rfl⟩ := List.mem_map.mp listed
      split
      · rename_i same
        refine .inr (.inl ⟨id, request, here, asks, ?_, same.symm, Int.not_le.mp room⟩)
        rw [there]
        exact attached
      · exact .inl ⟨was, early, rfl, List.Subset.refl _⟩

/-- A terminal moved is in the session it was moved to. -/
theorem moveInto_narrows (base : Server) (term : TerminalId) (source target : SessionId) :
    ∀ session ∈ (base.moveInto term source target).sessions,
      ∃ was ∈ base.sessions, was.id = session.id ∧
        (session.terminals ⊆ was.terminals ∨ session.id = target) := by
  intro session listed
  have there := (moveInto_rehomes base term source target).1.subset listed
  obtain ⟨middle, left, rfl⟩ := List.mem_map.mp there
  obtain ⟨first, early, rfl⟩ := List.mem_map.mp left
  refine ⟨first, early, ?_, ?_⟩
  · split <;> split <;> rfl
  · split
    · split
      · rename_i into
        exact .inr into
      · exact .inl List.filter_sublist.subset
    · split
      · rename_i into
        exact .inr into
      · exact .inl (List.Subset.refl _)

/-- A terminal moved is held by one more session, the one it enters. -/
theorem moveTerminal_narrows [CkVision] [Emulator] {id : ClientId} {request : Proto.MoveTerminal}
    (asks : origin.Asks event id (.moveTerminal request)) :
    ∀ session ∈ (origin.moveTerminal id request).sessions,
      (∃ was ∈ origin.sessions, was.id = session.id ∧ session.terminals ⊆ was.terminals) ∨
        session.id = origin.nextSession ∨ origin.Enters event session.id := by
  intro session listed
  have still : session ∈ origin.sessions →
      (∃ was ∈ origin.sessions, was.id = session.id ∧ session.terminals ⊆ was.terminals) ∨
        session.id = origin.nextSession ∨ origin.Enters event session.id :=
    fun there => .inl ⟨session, there, rfl, List.Subset.refl _⟩
  unfold Server.moveTerminal at listed
  split at listed
  · rename_i terminal source found holds
    split at listed
    · obtain ⟨was, early, same, held⟩ := moveInto_narrows _ _ _ _ session listed
      rcases List.mem_append.mp early with before | new
      · rcases held with kept | target
        · exact .inl ⟨was, before, same, kept⟩
        · exact .inr (.inl target)
      · rw [List.mem_singleton.mp new] at same
        exact .inr (.inl same.symm)
    · rename_i old
      split at listed
      · exact still (refuse_sessions .. ▸ listed)
      · rename_i target there
        split at listed
        · exact still listed
        · rename_i apart
          obtain ⟨was, early, same, kept | into⟩ := moveInto_narrows _ _ _ _ session listed
          · exact .inl ⟨was, early, same, kept⟩
          · have named := sessionFor_id there
            refine .inr (.inr (.inr ⟨id, request, source, asks, not_not.mp old,
              named.symm.trans into.symm, by rw [found]; rfl, holds, ?_⟩))
            rw [into]
            exact Ne.symm apart
  · exact still (refuse_sessions .. ▸ listed)

/-- What a session holds after a step it held before, but for what the event puts there. -/
theorem Filed.narrows_step [CkVision] [Emulator] (filed : origin.Filed) (unspent : origin.Unspent)
    (event : ServerEvent) :
    ∀ session ∈ (origin.step event).sessions,
      (∃ was ∈ origin.sessions, was.id = session.id ∧ session.terminals ⊆ was.terminals) ∨
        session.id = origin.nextSession ∨ origin.Enters event session.id := by
  by_cases opened : ∃ id request, origin.Asks event id (.newTerminal request)
  · obtain ⟨id, request, asks⟩ := opened
    rw [step_of_asks asks]
    exact fun session listed => (newTerminal_narrows asks session listed).imp_right .inr
  by_cases moved : ∃ id request, origin.Asks event id (.moveTerminal request)
  · obtain ⟨id, request, asks⟩ := moved
    rw [step_of_asks asks]
    exact moveTerminal_narrows asks
  push Not at opened moved
  have both := @Acts.keep _ _
    (fun server => origin.Moved server ∧ Narrows origin origin server) origin event
    (fun _ _ _ kept act => ⟨kept.1.file unspent filed (Files.act kept.1.filed act),
      kept.2.trans (Narrows.act kept.1.filed opened moved act)⟩)
    ⟨⟨filed.kept, .refl .., .refl ..⟩, .refl origin⟩
  exact fun session listed => (both.2 session listed).imp_right .inl

end Server

/-! ### Who asked -/

/-- Whether an event opens or moves a terminal into a session that is to be ended by force. -/
def Server.Strays (server : Server) (event : ServerEvent) : Prop :=
  ∃ pending ∈ server.kills, pending.force = true ∧ server.Enters event pending.session

/-- The server while nothing comes into a session that is to be ended by force. -/
def sparingSystem [CkVision] [Emulator] : System Server ServerEvent :=
  numberedSystem.guarded fun server event => ¬server.Strays event

namespace Server

/-- Whether a terminal's child is asked to end between two states, once, and nothing else is done
to the terminal. -/
def Terminates (before after : Server) (term : TerminalId) : Prop :=
  ∃ terminal, before.terminal term = some terminal ∧
    after.terminal term = some (terminal.ask .terminate)

variable [CkVision] [Emulator]

/-- Whether an event asks by force for the end of a terminal's child, at once or by some time: of
that terminal, or of a session that holds it. What is not to be killed at once is asked to end in
that very step. -/
inductive Demands (server : Server) (event : ServerEvent) (term : TerminalId) (time : Int) : Prop where
  | kill {id : ClientId} {request : Proto.KillTerminal}
      (asked : server.Asks event id (.killTerminal request)) (named : request.term = term)
  | close {id : ClientId} {request : Proto.CloseTerminal}
      (asked : server.Asks event id (.closeTerminal request)) (named : request.term = term)
      (told : server.Terminates (server.step event) term) (force : request.force ≠ 0)
      (due : server.nowNanos + graceNanos request.graceSeconds ≤ time)
  | session {id : ClientId} {request : Proto.KillSession} {session : Session}
      (asked : server.Asks event id (.killSession request))
      (named : server.namedOrOwn id request.session = some session)
      (held : term ∈ session.terminals) (told : server.Terminates (server.step event) term)
      (force : request.force ≠ 0)
      (due : server.nowNanos + graceNanos request.graceSeconds ≤ time)

/-- Whether somewhere in a run a terminal's end was asked for by force, and its time is up. -/
def Demanded (start : Server) (events : List ServerEvent) (term : TerminalId) (time : Int) : Prop :=
  ∃ earlier event later middle, events = earlier ++ event :: later ∧
    numberedSystem.Runs start earlier middle ∧ middle.Demands event term time

namespace Demanded

variable {start origin : Server} {events : List ServerEvent} {event : ServerEvent}
variable {term : TerminalId} {time later : Int}

/-- What was demanded stays so. -/
theorem more (demanded : Demanded start events term time) (event : ServerEvent) :
    Demanded start (events ++ [event]) term time := by
  obtain ⟨earlier, asked, rest, middle, rfl, run, demands⟩ := demanded
  exact ⟨earlier, asked, rest ++ [event], middle, by simp, run, demands⟩

/-- What was due stays so. -/
theorem wait (demanded : Demanded start events term time) (on : time ≤ later) :
    Demanded start events term later := by
  obtain ⟨earlier, asked, rest, middle, split, run, demands⟩ := demanded
  refine ⟨earlier, asked, rest, middle, split, run, ?_⟩
  cases demands with
  | kill asked named => exact .kill asked named
  | close asked named told force due => exact .close asked named told force (due.trans on)
  | session asked named held told force due =>
      exact .session asked named held told force (due.trans on)

/-- What is asked for now has been demanded. -/
theorem now (run : numberedSystem.Runs start events origin) (demands : origin.Demands event term time) :
    Demanded start (events ++ [event]) term time :=
  ⟨events, event, [], origin, rfl, run, demands⟩

end Demanded

omit [CkVision] [Emulator] in
/-- Children asked for one thing in turn, each once: of those listed each is asked it. -/
theorem terminal_askAll (request : ChildRequest) {ids : List TerminalId} (apart : ids.Nodup)
    (server : Server) (term : TerminalId) :
    (ids.foldl (fun server id => server.setTerminal id fun terminal => terminal.ask request)
      server).terminal term =
        if term ∈ ids then (server.terminal term).map fun terminal => terminal.ask request
        else server.terminal term := by
  induction ids generalizing server with
  | nil => exact (if_neg List.not_mem_nil).symm
  | cons id ids ih =>
      obtain ⟨other, apart⟩ := List.nodup_cons.mp apart
      have first := @terminal_setTerminal server id term (fun terminal => terminal.ask request)
        fun _ => rfl
      rw [List.foldl_cons, ih apart, first]
      by_cases same : term = id
      · rw [same, if_neg other, if_pos rfl, if_pos List.mem_cons_self]
      · rw [if_neg same]
        exact if_congr (by simp [same]) rfl rfl

/-- A terminal to be closed is asked to end. -/
theorem closeTerminal_terminates {origin : Server} {event : ServerEvent} {id : ClientId} {request : Proto.CloseTerminal}
    (asks : origin.Asks event id (.closeTerminal request))
    (there : (origin.terminal request.term).isSome = true) :
    origin.Terminates (origin.step event) request.term := by
  obtain ⟨terminal, found⟩ := Option.isSome_iff_exists.mp there
  refine ⟨terminal, found, ?_⟩
  have asked := @terminal_setTerminal origin request.term request.term
    (fun terminal => terminal.ask .terminate) fun _ => rfl
  rw [if_pos rfl, found] at asked
  rw [step_of_asks asks]
  show (origin.beginClose _ _ _).terminal _ = _
  unfold Server.beginClose
  rw [found]
  dsimp only
  split
  · exact asked
  · exact asked

/-- Every terminal of a session to be ended is asked to end. -/
theorem killSession_terminates {origin : Server} (filed : origin.Filed) {event : ServerEvent}
    {id : ClientId} {request : Proto.KillSession} {session : Session} {term : TerminalId}
    (asks : origin.Asks event id (.killSession request))
    (named : origin.namedOrOwn id request.session = some session)
    (held : term ∈ session.terminals) : origin.Terminates (origin.step event) term := by
  have listed := List.mem_of_find?_eq_some (namedOrOwn_found named)
  obtain ⟨terminal, there, rfl⟩ := filed.partitioned.known session listed term held
  refine ⟨terminal, filed.terminal there, ?_⟩
  rw [step_of_asks asks]
  show (origin.killSession id request).terminal _ = _
  unfold Server.killSession
  rw [named]
  have asked := terminal_askAll .terminate (filed.partitioned.once session listed)
    (origin.setClient id fun client =>
      { client with
        awaitingSessionRemoval :=
          if client.kind = .cli then session.id else client.awaitingSessionRemoval }) terminal.id
  rw [if_pos held] at asked
  refine asked.trans ?_
  show (origin.terminal terminal.id).map _ = _
  rw [filed.terminal there]
  rfl

/-- What holds of a server on its way: whatever was killed, or is to be, was asked for by force. -/
structure Owed (start : Server) (events : List ServerEvent) (server : Server) : Prop where
  run : numberedSystem.Runs start events server
  filed : server.Filed
  killed : ∀ terminal ∈ server.terminals, .kill ∈ terminal.asked →
    Demanded start events terminal.id server.nowNanos
  closes : ∀ pending ∈ server.closes, pending.force = true →
    Demanded start events pending.term pending.deadlineNanos
  kills : ∀ pending ∈ server.kills, pending.force = true → ∀ session ∈ server.sessions,
    session.id = pending.session → ∀ term ∈ session.terminals,
      Demanded start events term pending.deadlineNanos
  known : ∀ pending ∈ server.kills, pending.session < server.nextSession

namespace Owed

variable {start origin middle server : Server} {events : List ServerEvent} {event : ServerEvent}
variable {term : TerminalId}

/-- What is waited for by force in a tick was asked for before. -/
theorem waits (owed : Owed start events origin) (ticks : event = .tick) {pending : PendingClose}
    (waited : origin.Waits event pending) (force : pending.force = true) :
    Demanded start events pending.term pending.deadlineNanos := by
  rcases waited with ⟨before, among, term, same, deadline⟩ | ⟨_, _, asks, _⟩ | ⟨_, _, asks, _⟩
  · rw [← term, ← deadline]
    exact owed.closes before among (same.trans force)
  · cases asks.1.symm.trans ticks
  · cases asks.1.symm.trans ticks

/-- Of a session that is ended by force in a tick each terminal was asked for before. -/
theorem dooms (owed : Owed start events origin) (ticks : event = .tick) {pending : PendingKill}
    (doomed : origin.Dooms event pending) (force : pending.force = true)
    (narrows : Narrows origin origin middle) {session : Session}
    (found : middle.sessionFor pending.session = some session) (held : term ∈ session.terminals) :
    Demanded start events term pending.deadlineNanos := by
  rcases doomed with ⟨before, among, same, forced, deadline⟩ | ⟨_, _, _, asks, _⟩
  · have named := sessionFor_id found
    rcases narrows session (List.mem_of_find?_eq_some found) with ⟨was, there, name, kept⟩ | new
    · rw [← deadline]
      exact owed.kills before among (forced.trans force) was there
        (name.trans (named.trans same.symm)) term (kept held)
    · have early := owed.known before among
      rw [same, ← named, new] at early
      exact absurd early (UInt64.lt_irrefl _)
  · cases asks.1.symm.trans ticks

end Owed

/-- What holds on the way through a step: why children were killed, or are gone. -/
structure Fair (start : Server) (events : List ServerEvent) (origin : Server) (event : ServerEvent)
    (server : Server) : Prop where
  moved : origin.Moved server
  backed : origin.Backed event server
  narrows : event = .tick → Narrows origin origin server
  killed : ∀ each ∈ server.terminals, .kill ∈ each.asked →
    (∃ one ∈ origin.terminals, one.id = each.id ∧ .kill ∈ one.asked) ∨
      Demanded start (events ++ [event]) each.id origin.nowNanos
  removed : ∀ one ∈ origin.terminals, one.live = true → one.id ∉ server.terminals.map Terminal.id →
    Demanded start (events ++ [event]) one.id origin.nowNanos
  lives : event = .tick → ∀ each ∈ server.terminals,
    ∃ one ∈ origin.terminals, one.id = each.id ∧ one.live = each.live

namespace Fair

variable {start origin before after server : Server} {events : List ServerEvent}
variable {event : ServerEvent} {term : TerminalId}

/-- Nothing has been killed yet in the step. -/
theorem begin (filed : origin.Filed) : Fair start events origin event origin where
  moved := ⟨filed.kept, .refl .., .refl ..⟩
  backed := .start origin event
  narrows _ := .refl origin
  killed each there kill := .inl ⟨each, there, rfl, kill⟩
  removed _ there _ gone := absurd (List.mem_map_of_mem there) gone
  lives _ each there := ⟨each, there, rfl, rfl⟩

/-- A tick takes no time. -/
theorem time (fair : Fair start events origin event server) (ticks : event = .tick) :
    server.nowNanos = origin.nowNanos :=
  fair.backed.time.resolve_right fun waits => by cases ticks.symm.trans waits

/-- Why a child may be killed comes to that it was asked for by force. -/
theorem kills (fair : Fair start events origin event server) (owed : Owed start events origin)
    (due : origin.Kills event server term) :
    Demanded start (events ++ [event]) term origin.nowNanos := by
  rcases due with ⟨id, request, asks, named⟩ | ⟨ticks, ⟨pending, waited, rfl, force, late⟩ |
      ⟨pending, session, doomed, found, held, _, force, late⟩⟩
  · exact .now owed.run (.kill asks named)
  · rw [fair.time ticks] at late
    exact ((owed.waits ticks waited force).wait late).more event
  · rw [fair.time ticks] at late
    exact ((owed.dooms ticks doomed force (fair.narrows ticks) found held).wait late).more event

/-- A child that ran before a tick runs on the way through it. -/
theorem live (fair : Fair start events origin event server) (filed : origin.Filed)
    (ticks : event = .tick) {one each : Terminal} (was : one ∈ origin.terminals)
    (there : each ∈ server.terminals) (same : each.id = one.id) : each.live = one.live := by
  obtain ⟨other, early, named, live⟩ := fair.lives ticks each there
  obtain rfl : other = one := Option.some.inj ((filed.terminal early).symm.trans
    ((named.trans same) ▸ filed.terminal was))
  exact live.symm

/-- One more act is fair. -/
theorem act (fair : Fair start events origin event before) (owed : Owed start events origin)
    (unspent : origin.Unspent) (act : Act origin event before after) :
    Fair start events origin event after := by
  have treats := Treats.act fair.moved.filed act
  refine ⟨fair.moved.file unspent owed.filed (Files.act fair.moved.filed act),
    fair.backed.act fair.moved.filed act, fun ticks => ?_, fun each there kill => ?_,
    fun one was live gone => ?_, fun ticks each there => ?_⟩
  · refine (fair.narrows ticks).trans (Narrows.act fair.moved.filed ?_ ?_ act)
    · exact fun _ _ asks => by cases asks.1.symm.trans ticks
    · exact fun _ _ asks => by cases asks.1.symm.trans ticks
  · rcases treats.killed each there kill with ⟨one, was, same, asked⟩ | due
    · exact same ▸ fair.killed one was asked
    · exact .inr (fair.kills owed due)
  · by_cases still : one.id ∈ before.terminals.map Terminal.id
    · obtain ⟨each, there, same⟩ := List.mem_map.mp still
      have found : before.terminal each.id = some each := Data.find_of_mem fair.moved.filed.distinct there
      rw [← same] at gone ⊢
      rcases treats.removed each there gone with ⟨ticks, ends⟩ | ⟨session, ⟨ticks, pending, doomed,
          found', due⟩, held⟩
      · have runs := (fair.live owed.filed ticks was there same).trans live
        obtain ⟨pending, waited, named, force, late⟩ := ends each found runs
        rw [fair.time ticks] at late
        exact named ▸ ((owed.waits ticks waited force).wait late).more event
      · have runs := (fair.live owed.filed ticks was there same).trans live
        obtain ⟨force, late⟩ := due ⟨each.id, held, by rw [found]; exact runs⟩
        rw [fair.time ticks] at late
        exact ((owed.dooms ticks doomed force (fair.narrows ticks) found' held).wait late).more event
    · exact fair.removed one was live still
  · obtain ⟨one, was, same, live⟩ := treats.lives ticks each there
    obtain ⟨first, early, name, lived⟩ := fair.lives ticks one was
    exact ⟨first, early, name.trans same, lived.trans live⟩

/-- Whatever is killed in a step was demanded. -/
theorem step (owed : Owed start events origin) (unspent : origin.Unspent) (event : ServerEvent) :
    Fair start events origin event (origin.step event) :=
  @Acts.keep _ _ (fun server => Fair start events origin event server) origin event
    (fun _ _ _ fair act => fair.act owed unspent act) (.begin owed.filed)

end Fair

/-- Time goes on. -/
theorem Backed.later (allowed : numberedSystem.allows origin event)
    (backed : origin.Backed event (origin.step event)) :
    origin.nowNanos ≤ (origin.step event).nowNanos := by
  rcases backed.time with same | waits
  · exact same.ge
  · have on := allowed.1
    rw [waits] at on
    exact on

namespace Owed

variable {start origin : Server} {events : List ServerEvent} {event : ServerEvent}

/-- Nothing is owed at first. -/
theorem begin (fresh : serverSystem.initial start) : Owed start [] start := by
  have filed := Filed.start fresh
  obtain ⟨settings, kernel, now, rfl⟩ := fresh
  exact ⟨.initial ⟨settings, kernel, now, rfl⟩, filed, fun _ there => absurd there List.not_mem_nil,
    fun _ there => absurd there List.not_mem_nil, fun _ there => absurd there List.not_mem_nil,
    fun _ there => absurd there List.not_mem_nil⟩

/-- A step that puts nothing into a session that is to be ended by force. -/
theorem step (owed : Owed start events origin) (allowed : sparingSystem.allows origin event) :
    Owed start (events ++ [event]) (origin.step event) := by
  obtain ⟨⟨possible, unspent⟩, spares⟩ := allowed
  have fair := Fair.step owed unspent event
  have narrows := owed.filed.narrows_step unspent event
  obtain ⟨moved, filed⟩ := owed.filed.step unspent event
  have below {session : Session} (there : session ∈ origin.sessions) :
      session.id < origin.nextSession :=
    owed.filed.sessions _ (List.mem_map_of_mem (f := Prod.fst) (ledger_home there))
  have on := (moved.sessions.below unspent.2 owed.filed.sessions).1
  refine ⟨owed.run.step ⟨possible, unspent⟩, filed, fun terminal there kill => ?_,
    fun pending among force => ?_, fun pending among force session listed named term held => ?_,
    fun pending among => ?_⟩
  · refine Demanded.wait ?_ (Backed.later ⟨possible, unspent⟩ fair.backed)
    rcases fair.killed terminal there kill with ⟨one, was, same, asked⟩ | demanded
    · exact same ▸ (owed.killed one was asked).more event
    · exact demanded
  · rcases fair.backed.closes pending among with ⟨before, was, term, same, deadline⟩ |
        ⟨id, request, asks, term, there, same, deadline⟩ | ⟨id, request, asks, term, _⟩
    · rw [← term, ← deadline]
      exact (owed.closes before was (same.trans force)).more event
    · refine .now owed.run (.close asks term (term ▸ closeTerminal_terminates asks (term ▸ there))
        ?_ deadline.ge)
      exact of_decide_eq_true (same.symm.trans force)
    · exact .now owed.run (.kill asks term)
  · rcases fair.backed.kills pending among with ⟨before, was, same, forced, deadline⟩ |
        ⟨id, request, home, asks, found, same, forced, deadline⟩
    · rcases narrows session listed with ⟨one, early, name, kept⟩ | new | enters
      · rw [← deadline]
        exact (owed.kills before was (forced.trans force) one early
          (name.trans (named.trans same.symm)) term (kept held)).more event
      · have early := owed.known before was
        rw [same, ← named, new] at early
        exact absurd early (UInt64.lt_irrefl _)
      · refine absurd ⟨before, was, forced.trans force, ?_⟩ spares
        rw [same, ← named]
        exact enters
    · have there := namedOrOwn_found found
      rcases narrows session listed with ⟨one, early, name, kept⟩ | new | enters
      · obtain rfl : one = home := by
          have only := owed.filed.sessionFor early
          rw [name, named, ← same] at only
          exact Option.some.inj (only.symm.trans there)
        refine .now owed.run (.session asks found (kept held)
          (killSession_terminates owed.filed asks found (kept held)) ?_ deadline.ge)
        exact of_decide_eq_true (forced.symm.trans force)
      · have early := below (List.mem_of_find?_eq_some there)
        rw [same, ← named, new] at early
        exact absurd early (UInt64.lt_irrefl _)
      · rcases enters with ⟨_, _, _, other, _⟩ | ⟨_, _, _, other, _⟩
        · cases asks.1.symm.trans other.1
        · cases asks.1.symm.trans other.1
  · refine UInt64.lt_of_lt_of_le ?_ on
    rcases fair.backed.kills pending among with ⟨before, was, same, _⟩ | ⟨_, _, _, _, found, same, _⟩
    · exact same ▸ owed.known before was
    · exact same ▸ below (List.mem_of_find?_eq_some (namedOrOwn_found found))

/-- In every run without a stray terminal nothing is owed that was not demanded. -/
theorem along {server : Server} (run : sparingSystem.Runs start events server) :
    Owed start events server := by
  induction run with
  | initial valid => exact .begin valid
  | step _ allowed ih => exact ih.step allowed

end Owed

/-- In every run in which nothing comes into a session that is to be ended by force: a terminal
that was ever sent a kill, or that a step removes while its child runs, was asked for by force, of
itself or with the session it was in, and had the time that it was given. -/
theorem killed_with_grace {start server : Server} {events : List ServerEvent}
    (run : sparingSystem.Runs start events server) :
    (∀ terminal ∈ server.terminals, .kill ∈ terminal.asked →
      Demanded start events terminal.id server.nowNanos) ∧
    ∀ event, sparingSystem.allows server event → ∀ terminal ∈ server.terminals,
      terminal.live = true → terminal.id ∉ (server.step event).terminals.map Terminal.id →
        Demanded start (events ++ [event]) terminal.id server.nowNanos := by
  have owed := Owed.along run
  exact ⟨owed.killed, fun event allowed terminal there live gone =>
    (Fair.step owed allowed.1.2 event).removed terminal there live gone⟩

/-- Whether an event neither opens a terminal nor moves one. -/
def keepsPlaces : ServerEvent → Bool
  | .message _ (.newTerminal _) | .message _ (.moveTerminal _) => false
  | _ => true

omit [CkVision] [Emulator] in
/-- An event that puts nothing into a session strays nowhere. -/
theorem not_strays (server : Server) (event : ServerEvent) (keeps : keepsPlaces event = true) :
    ¬server.Strays event := by
  rintro ⟨_, _, _, ⟨_, _, _, asks, _⟩ | ⟨_, _, _, asks, _⟩⟩
  · rw [asks.1] at keeps
    cases keeps
  · rw [asks.1] at keeps
    cases keeps

end Server

/-- A session of one terminal, to be ended by force in a second. -/
def doomEvents : List ServerEvent :=
  [.connect, .message 1 hello, .message 1 (.newSession {}), .message 1 (.attach (attachTo .takeOver)),
    .message 1 (.killSession { session := 1, force := 1, graceSeconds := 1 })]

/-- A second goes by, and a tick follows. -/
def secondLater : List ServerEvent := [.wait 1000000000, .tick]

/-- Where the doomed events lead. -/
def doomedServer : Server :=
  (doomEvents ++ secondLater).foldl (@Server.step asciiVision blankEmulator) freshServer

/-- Before it is over, another terminal is opened there. -/
def strayEvents : List ServerEvent := doomEvents ++ .message 1 (.newTerminal {}) :: secondLater

/-- Where the stray events lead. -/
def strayServer : Server :=
  strayEvents.foldl (@Server.step asciiVision blankEmulator) freshServer

/-- Whether a child has been sent a kill. -/
def Terminal.killed (terminal : Terminal) : Bool :=
  terminal.asked.any fun request => match request with
    | .kill => true
    | _ => false

/-- Whether a terminal's child was killed. -/
theorem Terminal.killed_iff {terminal : Terminal} :
    terminal.killed = true ↔ .kill ∈ terminal.asked := by
  rw [Terminal.killed, List.any_eq_true]
  constructor
  · rintro ⟨request, among, kills⟩
    cases request with
    | kill => exact among
    | _ => cases kills
  · exact fun among => ⟨.kill, among, rfl⟩

namespace Server

/-- The doomed events can happen. -/
theorem doomedServer_run :
    (@sparingSystem asciiVision blankEmulator).Runs freshServer (doomEvents ++ secondLater)
      doomedServer := by
  have allowed : (@numberedSystem asciiVision blankEmulator).AllowsAll freshServer
      (doomEvents ++ secondLater) := by decide +kernel
  have along : (@numberedSystem asciiVision blankEmulator).Throughout
      (fun _ event => keepsPlaces event = true) freshServer (doomEvents ++ secondLater) := by
    decide +kernel
  have begun : (@sparingSystem asciiVision blankEmulator).Runs freshServer [] freshServer :=
    .initial ⟨{}, _, 0, rfl⟩
  exact begun.follow _ (System.AllowsAll.guard not_strays allowed along)

/-- The first terminal was killed as it was asked for. -/
theorem killed_with_grace_doomed :
    (@Demanded asciiVision blankEmulator) freshServer (doomEvents ++ secondLater) 1 1000000000 := by
  have killed : ∃ terminal ∈ doomedServer.terminals, terminal.id = 1 ∧ terminal.killed = true := by
    decide +kernel
  obtain ⟨terminal, there, named, killed⟩ := killed
  have time : doomedServer.nowNanos = 1000000000 := by decide +kernel
  exact named ▸ time ▸ (@killed_with_grace asciiVision blankEmulator _ _ _ doomedServer_run).1
    terminal there (Terminal.killed_iff.mp killed)

/-- Whether an event is about a terminal's end, or the end of a session that holds it. -/
def menaces (server : Server) (term : TerminalId) : ServerEvent → Bool
  | .message _ (.killTerminal request) => request.term = term
  | .message _ (.closeTerminal request) => request.term = term
  | .message id (.killSession request) =>
      (server.namedOrOwn id request.session).any fun session => term ∈ session.terminals
  | _ => false

/-- Whether any of some events is. -/
def everMenaces [CkVision] [Emulator] (term : TerminalId) : Server → List ServerEvent → Bool
  | _, [] => false
  | server, event :: events => server.menaces term event || everMenaces term (server.step event) events

/-- What demands a terminal's end menaces it. -/
theorem Demands.menaces [CkVision] [Emulator] {server : Server} {event : ServerEvent} {term : TerminalId} {time : Int}
    (demands : server.Demands event term time) : server.menaces term event = true := by
  cases demands with
  | kill asked named =>
      rw [asked.1]
      exact decide_eq_true named
  | close asked named =>
      rw [asked.1]
      exact decide_eq_true named
  | session asked named held =>
      rw [asked.1, Server.menaces, named]
      exact decide_eq_true held

/-- What is menaced in either half is menaced in the whole. -/
theorem everMenaces_append [CkVision] [Emulator] (term : TerminalId) (server : Server)
    (first second : List ServerEvent) :
    everMenaces term server (first ++ second) =
      (everMenaces term server first || everMenaces term (first.foldl Server.step server) second) := by
  induction first generalizing server with
  | nil => rfl
  | cons event first ih => rw [List.cons_append, everMenaces, ih, everMenaces, Bool.or_assoc]; rfl

/-- A run leads where its events do. -/
theorem run_leads [CkVision] [Emulator] {start server : Server} {events : List ServerEvent}
    (run : numberedSystem.Runs start events server) : server = events.foldl Server.step start := by
  induction run with
  | initial => rfl
  | step _ _ ih =>
      rw [List.foldl_concat, ← ih]
      rfl

/-- A terminal whose end was demanded was menaced in the run. -/
theorem Demanded.menaces [CkVision] [Emulator] {start : Server} {events : List ServerEvent}
    {term : TerminalId} {time : Int} (demanded : Demanded start events term time) :
    everMenaces term start events = true := by
  obtain ⟨earlier, event, later, middle, rfl, run, demands⟩ := demanded
  rw [everMenaces_append, ← run_leads run, everMenaces, demands.menaces, Bool.true_or, Bool.or_true]

/-- The stray events can happen. -/
theorem strayServer_run :
    (@numberedSystem asciiVision blankEmulator).Runs freshServer strayEvents strayServer := by
  have begun : (@numberedSystem asciiVision blankEmulator).Runs freshServer [] freshServer :=
    .initial ⟨{}, _, 0, rfl⟩
  exact begun.follow strayEvents (by decide +kernel)

/-- A terminal opened in a session that is to be ended is killed unasked, while its child runs. -/
theorem killed_without_grace :
    (@numberedSystem asciiVision blankEmulator).Runs freshServer strayEvents strayServer ∧
      ∃ terminal ∈ strayServer.terminals, terminal.live = true ∧ .kill ∈ terminal.asked ∧
        ¬(@Demanded asciiVision blankEmulator) freshServer strayEvents terminal.id
          strayServer.nowNanos := by
  have killed : ∃ terminal ∈ strayServer.terminals,
      terminal.id = 2 ∧ terminal.live = true ∧ terminal.killed = true := by
    decide +kernel
  obtain ⟨terminal, there, named, live, killed⟩ := killed
  refine ⟨strayServer_run, terminal, there, live, Terminal.killed_iff.mp killed, fun demanded => ?_⟩
  have menaces := @Demanded.menaces asciiVision blankEmulator _ _ _ _ demanded
  rw [named] at menaces
  have never : @everMenaces asciiVision blankEmulator 2 freshServer strayEvents = false := by
    decide +kernel
  exact absurd (never.symm.trans menaces) Bool.false_ne_true

end Server

end Ckmux
