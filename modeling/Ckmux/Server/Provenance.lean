import Mathlib
import Ckmux.Server.Partition

/-!
# Who asked for it

Whatever a server waits for was asked for earlier in the run, with that force and that deadline.
No child is killed but for somebody who asked for it by force, when the time that was given is up.
-/

namespace Ckmux

open Grammar (Bytes)
open Proto (Message)
open Semantics (System)

namespace Server

/-! ### What is waited for -/

/-- What a server waits for is what the event found waiting, or asks for. -/
structure Backed (origin : Server) (event : ServerEvent) (server : Server) : Prop where
  closes : ∀ pending ∈ server.closes, origin.Waits event pending
  kills : ∀ pending ∈ server.kills, origin.Dooms event pending
  time : server.nowNanos = origin.nowNanos ∨ event = .wait server.nowNanos

variable {origin server before middle after : Server} {event : ServerEvent}

namespace Backed

/-- Before anything is done everything is backed. -/
theorem start (origin : Server) (event : ServerEvent) : origin.Backed event origin where
  closes pending among := .inl ⟨pending, among, rfl, rfl, rfl⟩
  kills pending among := .inl ⟨pending, among, rfl, rfl, rfl⟩
  time := .inl rfl

/-- Nothing else is waited for, and no time has passed. -/
theorem same (backed : origin.Backed event before) (awaited : after.awaited = before.awaited) :
    origin.Backed event after := by
  injection awaited with kills rest
  injection rest with closes time
  exact ⟨closes ▸ backed.closes, kills ▸ backed.kills, time ▸ backed.time⟩

end Backed

/-- Seating a client awaits no exit. -/
theorem seat_awaited (server : Server) (id : ClientId) (request : Proto.Attach)
    (session : Session) : (server.seat id request session).awaited = server.awaited := by
  have taken (server : Server) : (server.takeOver id session.id).awaited = server.awaited := by
    unfold Server.takeOver
    split
    · rfl
    · split
      · rfl
      · rename_i previous _ _
        have told : Tells (fun _ _ => True) Eq server (server.detach previous.id .takeover
            (utf8 "taken over by another client on this machine")) := .detach server _ trivial
        exact told.awaited
  unfold Server.seat
  dsimp only
  split
  · exact taken _
  · rfl

/-- A snapshot awaits no exit. -/
theorem sendSnapshot_awaited [Emulator] (server : Server) (id : ClientId) :
    (server.sendSnapshot id).awaited = server.awaited := by
  cases found : server.client id with
  | none =>
      unfold Server.sendSnapshot
      rw [found]
  | some client => exact (Tells.sendSnapshot found).awaited

/-- Opening a terminal awaits no exit. -/
theorem openTerminal_awaited [Emulator] {id : SessionId} {home : Session}
    (found : server.sessionFor id = some home) (spec : TerminalSpec) :
    (server.openTerminal id spec).2.awaited = server.awaited := by
  rw [openTerminal_eq found]
  rfl

/-- Typing awaits no exit. -/
theorem input_awaited (server : Server) (id : ClientId) (given : Proto.Input) :
    (server.input id given).awaited = server.awaited := by
  unfold Server.input
  split
  · rfl
  · dsimp only
    split <;> rfl

/-- Every act leaves what is waited for, or has it known. -/
theorem Backed.act [CkVision] [Emulator] (kept : before.ledger.Kept)
    (backed : origin.Backed event before) (act : Act origin event before after) :
    origin.Backed event after := by
  cases act with
  | speak told => exact backed.same told.awaited
  | fetch => exact backed.same (Tells.sendChunks ..).awaited
  | connect | sweep | create | rename | print | respawn | rehome | takeOut | lose | deed | kill
  | policies | observed => exact backed.same rfl
  | wait asked => exact ⟨backed.closes, backed.kills, .inr asked⟩
  | closes known => exact ⟨known, backed.kills, backed.time⟩
  | kills known => exact ⟨backed.closes, known, backed.time⟩
  | @reshape _ session wanted =>
      unfold Server.changeDesktop
      split
      · exact backed
      · have told := Tells.announceLayout
          (before.setSession session.id fun session => { session with desktop := wanted }) session.id
        exact backed.same told.awaited
  | forget => exact backed.same (forgetSession_awaited ..)
  | @bury _ session =>
      refine backed.same ((forgetSession_awaited ..).trans ?_)
      exact foldl_keeps Server.awaited session.terminals (by exact fun _ _ => rfl) before
  | spawn asked made found => exact backed.same (openTerminal_awaited found _)
  | @opens _ home spec columns rows _ _ asked found =>
      have told := Tells.tellOpened (before.openTerminal home.id spec).2 home.id
        { term := before.nextTerminal, session := home.id, columns := columns, rows := rows }
      exact backed.same (told.awaited.trans (openTerminal_awaited found _))
  | @respawnIn _ terminal home _ _ columns rows =>
      have told := Tells.tellOpened (before.relaunch terminal.id) home.id
        { term := terminal.id, session := home.id, columns := columns, rows := rows }
      exact backed.same told.awaited
  | types => exact backed.same (input_awaited ..)
  | welcome => exact backed.same ((sendSnapshot_awaited ..).trans (seat_awaited ..))
  | heal => exact backed.same (sendSnapshot_awaited ..)
  | @news _ terminal =>
      have told := @Tells.announceNews before _ kept.distinct terminal fun _ _ => places_of_tidings
      exact backed.same told.awaited
  | @layout _ session =>
      exact backed.same (Tells.announceSessionLayout before session false).awaited

/-! ### What is done to children -/

/-- A terminal that was asked nothing fatal, and whose child runs in a tick as it did. -/
structure Unhurt (event : ServerEvent) (one each : Terminal) : Prop where
  id : each.id = one.id
  asked : .kill ∈ each.asked → .kill ∈ one.asked
  live : event = .tick → one.live = each.live

/-- A terminal left alone is unhurt. -/
theorem Unhurt.refl (terminal : Terminal) : Unhurt event terminal terminal :=
  ⟨rfl, fun kill => kill, fun _ => rfl⟩

/-- A terminal only noted is unhurt. -/
theorem Unhurt.noted {one each : Terminal} (noted : one.Noted each) : Unhurt event one each := by
  injection noted with id rest
  injection rest with _ rest
  injection rest with asked state
  refine ⟨id, fun kill => asked ▸ kill, fun _ => ?_⟩
  rw [Terminal.live, Terminal.live, state]

/-- A terminal whose exit is looked for is unhurt. -/
theorem Unhurt.observed (terminal : Terminal) : Unhurt event terminal terminal.observeExit := by
  unfold Terminal.observeExit
  repeat' split
  all_goals exact ⟨rfl, fun kill => kill, fun _ => rfl⟩

/-- What a deed is done for leaves a child unhurt. -/
theorem Unhurt.deed [Emulator] {term : TerminalId} {deed : Deed}
    (meant : Deed.Meant origin event term deed) (terminal : Terminal) :
    Unhurt event terminal (deed.apply terminal) := by
  cases deed with
  | terminate | give => exact ⟨rfl, fun kill => by simpa [Deed.apply, Terminal.ask] using kill, fun _ => rfl⟩
  | lay =>
      dsimp only [Deed.apply, Terminal.setLayout]
      split
      · exact .refl _
      · exact ⟨rfl, fun kill => kill, fun _ => rfl⟩
  | retitle =>
      dsimp only [Deed.apply, Terminal.setCustomTitle]
      split
      · exact .refl _
      · exact ⟨rfl, fun kill => kill, fun _ => rfl⟩
  | resize =>
      obtain ⟨_, _, asks, _⟩ := meant
      exact ⟨rfl, fun kill => kill, fun ticks => by cases asks.1.symm.trans ticks⟩
  | observe => exact .observed terminal
  | emulate session program =>
      obtain ⟨id, asked, _⟩ := @Unhurt.observed event { terminal with session := session, program := program }
      exact ⟨id, asked, fun ticks => by cases Eq.trans (Eq.symm meant) ticks⟩
  | override | clearDamage => exact ⟨rfl, fun kill => kill, fun _ => rfl⟩
  | discard =>
      dsimp only [Deed.apply, Terminal.discardPrintJobs]
      repeat' split
      all_goals exact ⟨rfl, fun kill => kill, fun _ => rfl⟩
  | exit =>
      obtain ⟨id, asked, live⟩ := @Unhurt.observed event terminal
      exact ⟨id, asked, live⟩

/-- What an act does to children: why one is killed, and why one is removed. -/
structure Treats (origin : Server) (event : ServerEvent) (before after : Server) : Prop where
  killed : ∀ each ∈ after.terminals, .kill ∈ each.asked →
    (∃ one ∈ before.terminals, one.id = each.id ∧ .kill ∈ one.asked) ∨
      origin.Kills event before each.id
  removed : ∀ one ∈ before.terminals, one.id ∉ after.terminals.map Terminal.id →
    origin.Ends event before one.id ∨
      ∃ session, origin.Buries event before session ∧ one.id ∈ session.terminals
  lives : event = .tick → ∀ each ∈ after.terminals,
    ∃ one ∈ before.terminals, one.id = each.id ∧ one.live = each.live

namespace Treats

/-- Terminals all unhurt are treated as they should be. -/
theorem unhurt (paired : List.Forall₂ (Unhurt event) before.terminals after.terminals) :
    Treats origin event before after where
  killed each there kill := by
    obtain ⟨one, was, unhurt⟩ := Data.paired_before paired there
    exact .inl ⟨one, was, unhurt.id.symm, unhurt.asked kill⟩
  removed one there gone := by
    obtain ⟨each, is, unhurt⟩ := Data.paired_after paired there
    exact absurd (List.mem_map.mpr ⟨each, is, unhurt.id⟩) gone
  lives ticks each there := by
    obtain ⟨one, was, unhurt⟩ := Data.paired_before paired there
    exact ⟨one, was, unhurt.id.symm, unhurt.live ticks⟩

/-- The same terminals. -/
theorem same (terminals : after.terminals = before.terminals) : Treats origin event before after := by
  refine unhurt ?_
  rw [terminals]
  exact List.forall₂_same.mpr fun terminal _ => .refl terminal

/-- Telling the clients hurts no terminal. -/
theorem tells {news : ClientId → Message → Prop} {notes : Terminal → Terminal → Prop}
    (tells : Tells news notes before after)
    (noted : ∀ one each, notes one each → Unhurt event one each) : Treats origin event before after :=
  unhurt (tells.terminals.imp noted)

/-- Telling the clients and noting nothing. -/
theorem told {news : ClientId → Message → Prop} (tells : Tells news Eq before after) :
    Treats origin event before after :=
  Treats.tells tells fun one _ same => same ▸ .refl one

/-- Equal terminals are unhurt one by one. -/
theorem paired_of_eq {terminals others : List Terminal} (same : List.Forall₂ Eq terminals others) :
    List.Forall₂ (Unhurt event) terminals others :=
  same.imp fun one _ same => same ▸ .refl one

/-- Something told, or noted, afterwards. -/
theorem also (treats : Treats origin event before middle)
    (paired : List.Forall₂ (Unhurt event) middle.terminals after.terminals) :
    Treats origin event before after where
  killed each there kill := by
    obtain ⟨one, was, unhurt⟩ := Data.paired_before paired there
    exact unhurt.id ▸ treats.killed one was (unhurt.asked kill)
  removed one there gone := by
    refine treats.removed one there fun still => gone ?_
    obtain ⟨other, is, same⟩ := List.mem_map.mp still
    obtain ⟨each, after, unhurt⟩ := Data.paired_after paired is
    exact List.mem_map.mpr ⟨each, after, unhurt.id.trans same⟩
  lives ticks each there := by
    obtain ⟨one, was, unhurt⟩ := Data.paired_before paired there
    obtain ⟨first, early, same, live⟩ := treats.lives ticks one was
    exact ⟨first, early, same.trans unhurt.id.symm, live.trans (unhurt.live ticks)⟩

/-- Treated as they should be, and then told of. -/
theorem also_told {news : ClientId → Message → Prop} (treats : Treats origin event before middle)
    (tells : Tells news Eq middle after) : Treats origin event before after :=
  treats.also (paired_of_eq tells.terminals)

/-- A terminal is not told from what it was. -/
theorem setTerminal (server : Server) (term : TerminalId) {change : Terminal → Terminal}
    (unhurt : ∀ terminal ∈ server.terminals, terminal.id = term → Unhurt event terminal (change terminal)) :
    Treats origin event server (server.setTerminal term change) := by
  refine Treats.unhurt (Data.paired_map fun terminal there => ?_)
  split
  · rename_i named
    exact unhurt terminal there named
  · exact .refl terminal

/-- Only terminals are gone, and each for a reason. -/
theorem fewer (kept : after.terminals.Sublist before.terminals)
    (reason : ∀ one ∈ before.terminals, one ∉ after.terminals →
      origin.Ends event before one.id ∨
        ∃ session, origin.Buries event before session ∧ one.id ∈ session.terminals) :
    Treats origin event before after where
  killed each there kill := .inl ⟨each, kept.subset there, rfl, kill⟩
  removed one there gone := reason one there fun still => gone (List.mem_map_of_mem still)
  lives _ each there := ⟨each, kept.subset there, rfl, rfl⟩

/-- A snapshot hurts no terminal. -/
theorem sendSnapshot [Emulator] (server : Server) (id : ClientId) :
    List.Forall₂ (Unhurt event) server.terminals (server.sendSnapshot id).terminals := by
  cases found : server.client id with
  | none =>
      unfold Server.sendSnapshot
      rw [found]
      exact List.forall₂_same.mpr fun terminal _ => .refl terminal
  | some client => exact (Tells.sendSnapshot found).terminals.imp fun _ _ flagged => .noted flagged.noted

/-- A terminal opened hurts none that was there. -/
theorem opened [Emulator] {id : SessionId} {home : Session}
    (found : before.sessionFor id = some home) (spec : TerminalSpec) (stirs : event ≠ .tick) :
    Treats origin event before (before.openTerminal id spec).2 := by
  rw [openTerminal_eq found]
  refine ⟨fun each there kill => ?_, fun one there gone => ?_, fun ticks => absurd ticks stirs⟩
  · rcases List.mem_append.mp there with was | new
    · exact .inl ⟨each, was, rfl, kill⟩
    · rw [List.mem_singleton.mp new] at kill
      cases kill
  · exact absurd (List.mem_map_of_mem (List.mem_append_left _ there)) gone

/-- A relaunch treats the terminals as they should be. -/
theorem relaunched [Emulator] (server : Server) (term : TerminalId) (stirs : event ≠ .tick) :
    Treats origin event server (server.relaunch term) := by
  have again : Treats origin event server (server.setTerminal term fun terminal => terminal.relaunch) :=
    setTerminal server term fun _ _ _ => ⟨rfl, fun kill => kill, fun ticks => absurd ticks stirs⟩
  exact ⟨again.killed, again.removed, again.lives⟩

/-- Terminals closed leave the others in their order. -/
theorem closeTerminals (server : Server) (ids : List TerminalId) :
    (ids.foldl closeTerminal server).terminals.Sublist server.terminals ∧
      ∀ one ∈ server.terminals, one.id ∉ ids → one ∈ (ids.foldl closeTerminal server).terminals := by
  induction ids generalizing server with
  | nil => exact ⟨.refl _, fun _ there _ => there⟩
  | cons id ids ih =>
      obtain ⟨fewer, others⟩ := ih (server.closeTerminal id)
      refine ⟨fewer.trans List.eraseP_sublist, fun one there apart => ?_⟩
      rw [List.mem_cons, not_or] at apart
      refine others one ?_ apart.2
      exact (List.mem_eraseP_of_neg (by simpa using apart.1)).mpr there

/-- What every act does to children. -/
theorem act [CkVision] [Emulator] (kept : before.ledger.Kept) (act : Act origin event before after) :
    Treats origin event before after := by
  have asks_stir {id : ClientId} {message : Message} (asks : origin.Asks event id message) :
      event ≠ .tick := fun ticks => by cases asks.1.symm.trans ticks
  cases act with
  | speak told => exact Treats.told told
  | fetch => exact Treats.told (Tells.sendChunks ..)
  | connect | sweep | wait | closes | kills | create | rename | print => exact same rfl
  | @reshape _ session wanted =>
      unfold Server.changeDesktop
      split
      · exact same rfl
      · have told := Tells.announceLayout
          (before.setSession session.id fun session => { session with desktop := wanted }) session.id
        have sized : Treats origin event before
            (before.setSession session.id fun session => { session with desktop := wanted }) := same rfl
        exact sized.also (told.terminals.imp fun _ _ flagged => .noted flagged.noted)
  | @forget _ session reason text =>
      obtain ⟨left, leaves, forgets⟩ := Tells.forgetSession before session.id reason text
      exact (Treats.told leaves).also (paired_of_eq forgets.terminals)
  | @bury _ session text due =>
      obtain ⟨left, leaves, forgets⟩ := Tells.forgetSession
        (session.terminals.foldl closeTerminal before) session.id .sessionKilled text
      have closed := closeTerminals before session.terminals
      have gone : Treats origin event before (session.terminals.foldl closeTerminal before) := by
        refine fewer closed.1 fun one there gone => .inr ⟨session, due, ?_⟩
        by_contra apart
        exact gone (closed.2 one there apart)
      exact (gone.also_told leaves).also (paired_of_eq forgets.terminals)
  | spawn asked made found => exact opened found _ (asks_stir asked)
  | @opens _ home spec columns rows _ _ asked found =>
      exact (opened found spec (asks_stir asked)).also_told (Tells.tellOpened _ home.id _)
  | respawn asked => exact relaunched _ _ (asks_stir asked)
  | @respawnIn _ terminal home _ _ _ _ asked =>
      exact (relaunched before terminal.id (asks_stir asked)).also_told (Tells.tellOpened _ home.id _)
  | @rehome _ term =>
      have cleared : Treats origin event before (before.setTerminal term Terminal.clearLayout) := by
        refine setTerminal before term fun terminal _ _ => ?_
        unfold Terminal.clearLayout Terminal.setLayout
        split
        · exact .refl _
        · exact ⟨rfl, fun kill => kill, fun _ => rfl⟩
      exact ⟨cleared.killed, cleared.removed, cleared.lives⟩
  | @takeOut _ term home ends =>
      have closed := closeTerminals before [term]
      have gone : Treats origin event before (before.closeTerminal term) := by
        refine fewer closed.1 fun one there gone => .inl ?_
        by_cases named : one.id = term
        · exact named ▸ ends
        · exact absurd (closed.2 one there (by simpa using named)) gone
      exact gone.also (List.forall₂_same.mpr fun terminal _ => .refl terminal)
  | @lose _ term ends =>
      have closed := closeTerminals before [term]
      refine fewer closed.1 fun one there gone => .inl ?_
      by_cases named : one.id = term
      · exact named ▸ ends
      · exact absurd (closed.2 one there (by simpa using named)) gone
  | @deed _ term deed change meant does =>
      refine setTerminal before term fun terminal there named => ?_
      have only := Data.find_of_mem kept.distinct there
      rw [does terminal (named ▸ only)]
      exact .deed meant terminal
  | @kill _ term due =>
      have paired : List.Forall₂ (fun one each : Terminal => each.id = one.id ∧
            one.live = each.live ∧ (.kill ∈ each.asked → .kill ∈ one.asked ∨ one.id = term))
          before.terminals
          (before.setTerminal term fun terminal => terminal.ask .kill).terminals := by
        refine Data.paired_map fun terminal _ => ?_
        split
        · rename_i named
          exact ⟨rfl, rfl, fun _ => .inr named⟩
        · exact ⟨rfl, rfl, fun kill => .inl kill⟩
      refine ⟨fun each there kill => ?_, fun one there gone => ?_, fun _ each there => ?_⟩
      · obtain ⟨one, was, same, _, asked⟩ := Data.paired_before paired there
        rcases asked kill with before | named
        · exact .inl ⟨one, was, same.symm, before⟩
        · exact .inr (same ▸ named ▸ due)
      · obtain ⟨each, is, same, _⟩ := Data.paired_after paired there
        exact absurd (List.mem_map.mpr ⟨each, is, same⟩) gone
      · obtain ⟨one, was, same, live, _⟩ := Data.paired_before paired there
        exact ⟨one, was, same.symm, live⟩
  | policies =>
      exact unhurt (Data.paired_map fun _ _ => ⟨rfl, fun kill => kill, fun _ => rfl⟩)
  | observed => exact unhurt (Data.paired_map fun terminal _ => .observed terminal)
  | @types id given =>
      unfold Server.input
      split
      · exact same rfl
      · have typed : Treats origin event origin (origin.setTerminal given.term fun terminal =>
            terminal.ask (.input given.bytes)) :=
          setTerminal origin given.term fun terminal _ _ =>
            ⟨rfl, fun kill => by simpa [Terminal.ask] using kill, fun _ => rfl⟩
        dsimp only
        split
        · exact typed.also (List.forall₂_same.mpr fun terminal _ => .refl terminal)
        · exact typed.also (List.forall₂_same.mpr fun terminal _ => .refl terminal)
  | @welcome _ id request session =>
      have seated : Treats origin event before (before.seat id request session) :=
        same (seat_terminals before id request session).1
      exact seated.also (sendSnapshot _ id)
  | heal => exact unhurt (sendSnapshot before _)
  | @news _ terminal =>
      have told := @Tells.announceNews before _ kept.distinct terminal fun _ _ => places_of_tidings
      exact Treats.tells told fun _ _ noted => .noted noted
  | @layout _ session =>
      exact Treats.tells (Tells.announceSessionLayout before session false)
        fun _ _ flagged => .noted flagged.noted

end Treats

end Server

end Ckmux
