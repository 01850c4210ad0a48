import Mathlib
import Ckmux.Server.Names

/-!
# What becomes of a session

A session that is there was there before, and has been altered in one of a few ways; or it has
just been made. Whatever is to be shown of sessions along a run is shown for each of the ways.
-/

namespace Ckmux

open Grammar (Bytes)
open Proto (Message)

/-- Whether a desktop is no larger than another, or than the wire can say. -/
def Size.Held (size other : Size) : Prop :=
  size.width ≤ max other.width 65535 ∧ size.height ≤ max other.height 65535

/-- A size is held to itself. -/
theorem Size.Held.refl (size : Size) : size.Held size := ⟨le_max_left .., le_max_left ..⟩

/-- A size that came over the wire is held to any other. -/
theorem Size.Held.wire (columns rows : UInt16) (other : Size) :
    (⟨columns.toNat, rows.toNat⟩ : Size).Held other :=
  ⟨(Nat.le_of_lt_succ columns.toNat_lt).trans (le_max_right ..),
    (Nat.le_of_lt_succ rows.toNat_lt).trans (le_max_right ..)⟩

/-- No policy makes a desktop larger than the wire can say, or than it was. -/
theorem DesktopSizePolicy.fit_within (policy : DesktopSizePolicy) (desktop : Size)
    (columns rows : UInt16) :
    (policy.fit desktop ⟨columns.toNat, rows.toNat⟩).Held desktop := by
  cases policy with
  | fixed => exact .refl desktop
  | fitSmallest => exact ⟨(min_le_left ..).trans (le_max_left ..), (min_le_left ..).trans (le_max_left ..)⟩
  | fitLatest => exact .wire columns rows desktop

namespace Server

section

variable (origin : Server) (event : ServerEvent)

/-- Whether an event is somebody typing into a terminal that is there. -/
def Types (id : ClientId) (term : TerminalId) : Prop :=
  (origin.terminal term).isSome ∧
    ((∃ given, origin.Asks event id (.input given) ∧ given.term = term) ∨
      ∃ chunk, event = .paste id chunk ∧ chunk.term = term)

/-- Whether an event is somebody attaching to a session. -/
def Seats (id : ClientId) (session : SessionId) : Prop :=
  ∃ request home made, origin.Asks event id (.attach request) ∧
    origin.attachSession request = (some home, made) ∧ home.id = session

/-- Whether an event may take a terminal out of a session. -/
def Removes : Prop :=
  event = .tick ∨ ∃ id request, origin.Asks event id (.moveTerminal request)

/-- Whether an event is about how large a session's desktop is to be. -/
def Measures (session : SessionId) : Prop :=
  (∃ id, origin.Seats event id session) ∨
    ∃ id, (origin.client id).map Client.session = some session ∧
      ((∃ resize, origin.Asks event id (.clientResize resize)) ∨
        ∃ fit, origin.Asks event id (.setDesktopSize fit))

/-- What may become of a session at once. -/
inductive Alters (session : Session) : Session → Prop where
  | rename (name : Bytes) : Alters session { session with name := name }
  | print (said : PrinterOverride) : Alters session { session with printer := said }
  | measure (desktop : Size) (asked : origin.Measures event session.id)
      (within : desktop.Held session.desktop) : Alters session { session with desktop := desktop }
  | visit (id : ClientId) (term : TerminalId) (asked : origin.Types event id term)
      (held : term ∈ session.terminals) : Alters session { session with lastFocused := term }
  | enter (term : TerminalId) (spared : ¬origin.Removes event) :
      Alters session { session with
        terminals := session.terminals ++ [term]
        lastFocused := term }
  | gain (term : TerminalId) (removes : origin.Removes event) :
      Alters session { session with terminals := session.terminals ++ [term] }
  | lose (term : TerminalId) (removes : origin.Removes event) :
      Alters session { session with
        terminals := session.terminals.filter fun held => held ≠ term }

/-- What may become of a session, one thing after another. -/
abbrev Altered : Session → Session → Prop := Relation.ReflTransGen (origin.Alters event)

/-- A session as it is made. -/
structure Blank (session : Session) : Prop where
  id : session.id = origin.nextSession
  terminals : session.terminals = []
  lastFocused : session.lastFocused = 0
  desktop : session.desktop = {}

/-- Whether every session afterwards was there before, altered, or has been made. -/
def Develops (before after : Server) : Prop :=
  ∀ session ∈ after.sessions, ∃ was, (was ∈ before.sessions ∨ origin.Blank was) ∧
    origin.Altered event was session

end

variable {origin server before middle after : Server} {event : ServerEvent}

/-- A session keeps its number. -/
theorem Alters.id {was session : Session} (alters : origin.Alters event was session) :
    session.id = was.id := by
  cases alters <;> rfl

/-- A session keeps its number whatever becomes of it. -/
theorem Altered.id {was session : Session} (altered : origin.Altered event was session) :
    session.id = was.id := by
  induction altered with
  | refl => rfl
  | tail _ last ih => exact last.id.trans ih

namespace Develops

/-- Sessions that were all there before have not changed. -/
theorem fewer (sessions : ∀ session ∈ after.sessions, session ∈ before.sessions) :
    Develops origin event before after :=
  fun session listed => ⟨session, .inl (sessions session listed), .refl⟩

/-- Sessions develop step by step. -/
theorem trans (first : Develops origin event before middle)
    (second : Develops origin event middle after) : Develops origin event before after := by
  intro session listed
  obtain ⟨was, there | blank, altered⟩ := second session listed
  · obtain ⟨once, early, alters⟩ := first was there
    exact ⟨once, early, alters.trans altered⟩
  · exact ⟨was, .inr blank, altered⟩

/-- Telling leaves the sessions. -/
theorem tells {news : ClientId → Message → Prop} {notes : Terminal → Terminal → Prop}
    (tells : Tells news notes before after) : Develops origin event before after :=
  fewer fun _ listed => tells.sessions ▸ listed

/-- One session altered. -/
theorem setSession (server : Server) (id : SessionId) {change : Session → Session}
    (alters : ∀ session ∈ server.sessions, session.id = id →
      origin.Alters event session (change session)) :
    Develops origin event server (server.setSession id change) := by
  intro session listed
  obtain ⟨was, there, rfl⟩ := List.mem_map.mp listed
  split
  · rename_i same
    exact ⟨was, .inl there, .single (alters was there same)⟩
  · exact ⟨was, .inl there, .refl⟩

/-- A session forgotten leaves the others. -/
theorem forgetSession (server : Server) (id : SessionId) (reason : Proto.DetachReason)
    (text : Bytes) : Develops origin event server (server.forgetSession id reason text) :=
  fewer (forgetSession_fewer server id reason text).subset

/-- A snapshot leaves the sessions. -/
theorem sendSnapshot [Emulator] (server : Server) (id : ClientId) :
    Develops origin event server (server.sendSnapshot id) :=
  fewer fun _ listed => sendSnapshot_sessions server id ▸ listed

/-- A terminal opened enters its session. -/
theorem openTerminal [Emulator] {id : SessionId} {home : Session}
    (found : server.sessionFor id = some home) (spec : TerminalSpec)
    (spared : ¬origin.Removes event) :
    Develops origin event server (server.openTerminal id spec).2 := by
  rw [openTerminal_eq found]
  have opened : Develops origin event server { server with
      terminals := server.terminals ++ [Terminal.opened server.nextTerminal spec]
      nextTerminal := server.nextTerminal + 1 } := fewer fun _ listed => listed
  exact opened.trans (setSession _ home.id fun _ _ _ => .enter _ spared)

/-- Typing is a visit to the terminal. -/
theorem input (kept : origin.ledger.Kept) {id : ClientId} {given : Proto.Input}
    (asked : origin.Asks event id (.input given) ∨
      ∃ chunk, event = .paste id chunk ∧ given = ⟨chunk.term, chunk.bytes⟩) :
    Develops origin event origin (origin.input id given) := by
  unfold Server.input
  split
  · exact fewer fun _ listed => listed
  · rename_i terminal found
    have types : origin.Types event id given.term := by
      refine ⟨by rw [found]; rfl, ?_⟩
      rcases asked with asks | ⟨chunk, pastes, rfl⟩
      · exact .inl ⟨given, asks, rfl⟩
      · exact .inr ⟨chunk, pastes, rfl⟩
    have typed : Develops origin event origin ((origin.setTerminal given.term fun terminal =>
        terminal.ask (.input given.bytes)).setClient id fun client =>
          { client with focused := given.term }) := fewer fun _ listed => listed
    dsimp only
    split
    · exact typed
    · rename_i home holds
      refine typed.trans (setSession _ home.id fun session there same => ?_)
      have listed := List.mem_of_find?_eq_some holds
      have only := Data.find_of_mem (ledger_keys origin ▸ kept.apart) listed
      have other := Data.find_of_mem (ledger_keys origin ▸ kept.apart) there
      rw [same] at other
      obtain rfl : session = home := Option.some.inj (other.symm.trans only)
      have held := List.find?_some holds
      exact .visit id given.term types (of_decide_eq_true held)

/-- A desktop changed is measured as it was asked for. -/
theorem changeDesktop (kept : server.ledger.Kept) {session : Session}
    (listed : session ∈ server.sessions) {wanted : Size} (asked : origin.Measures event session.id)
    (within : wanted.Held session.desktop) :
    Develops origin event server (server.changeDesktop session wanted) := by
  unfold Server.changeDesktop
  split
  · exact fewer fun _ listed => listed
  · have sized : Develops origin event server (server.setSession session.id fun session =>
        { session with desktop := wanted }) := by
      refine setSession server session.id fun other there same => ?_
      have only := Data.find_of_mem (ledger_keys server ▸ kept.apart) listed
      have found := Data.find_of_mem (ledger_keys server ▸ kept.apart) there
      rw [same] at found
      obtain rfl : other = session := Option.some.inj (found.symm.trans only)
      exact .measure wanted asked within
    exact sized.trans (tells (Tells.announceLayout _ session.id))

/-- A desktop that a screen's arrival makes is no larger than there was, or than the wire says. -/
theorem arrivingDesktop_within (server : Server) (session : Session) (columns rows : UInt16) :
    (server.arrivingDesktop session ⟨columns.toNat, rows.toNat⟩).Held session.desktop := by
  unfold Server.arrivingDesktop
  split
  · exact .refl _
  · split
    · exact .wire ..
    · exact DesktopSizePolicy.fit_within ..

/-- An event that asks for something else than a move takes no terminal out of a session. -/
theorem spares {id : ClientId} {message : Message} (asks : origin.Asks event id message)
    (other : ∀ request, message ≠ .moveTerminal request) : ¬origin.Removes event := by
  rintro (ticks | ⟨_, request, moves, _⟩)
  · cases asks.1.symm.trans ticks
  · cases asks.1.symm.trans moves
    exact other request rfl

/-- Every act leaves of the sessions what was there, altered, and what it makes. -/
theorem act [CkVision] [Emulator] (kept : before.ledger.Kept) (act : Act origin event before after) :
    Develops origin event before after := by
  cases act with
  | speak told => exact tells told
  | fetch => exact tells (Tells.sendChunks ..)
  | connect | sweep | wait | closes | kills | respawn | lose | deed | kill | policies | observed =>
      exact fewer fun _ listed => listed
  | create named =>
      intro session listed
      rcases List.mem_append.mp listed with was | new
      · exact ⟨session, .inl was, .refl⟩
      · rw [List.mem_singleton.mp new]
        exact ⟨_, .inr ⟨named.2.1, rfl, rfl, rfl⟩, .refl⟩
  | @rename _ _ session => exact setSession before session.id fun _ _ _ => .rename _
  | @print _ id said => exact setSession before id fun _ _ _ => .print said
  | reshape asked =>
      obtain ⟨id, client, _, found, asks, same⟩ := asked
      refine changeDesktop kept (List.mem_of_find?_eq_some found) (.inr ⟨id, ?_, ?_⟩) ?_
      · rw [same, sessionFor_id found]
      · rcases asks with ⟨resize, asks, _⟩ | ⟨fit, asks, _⟩
        · exact .inl ⟨resize, asks⟩
        · exact .inr ⟨fit, asks⟩
      · rcases asks with ⟨resize, _, rfl⟩ | ⟨fit, _, rfl⟩
        · unfold Server.resizedDesktop
          split
          · exact .wire ..
          · exact DesktopSizePolicy.fit_within ..
        · exact .wire ..
  | forget => exact forgetSession _ _ _ _
  | @bury _ session =>
      have closed : Develops origin event before (session.terminals.foldl closeTerminal before) := by
        have same : (session.terminals.foldl closeTerminal before).sessions = before.sessions :=
          foldl_keeps Server.sessions session.terminals (by exact fun _ _ => rfl) before
        exact fewer fun _ listed => same ▸ listed
      exact closed.trans (forgetSession _ _ _ _)
  | spawn asks made found first => exact openTerminal found _ (spares asks fun _ => nofun)
  | @opens _ home spec columns rows _ _ asks found first =>
      exact (openTerminal found spec (spares asks fun _ => nofun)).trans
        (tells (Tells.tellOpened _ home.id _))
  | @respawnIn _ terminal home _ _ columns rows =>
      have again : Develops origin event before (before.relaunch terminal.id) :=
        fewer fun _ listed => listed
      exact again.trans (tells (Tells.tellOpened _ home.id _))
  | @rehome _ term source target id request asks =>
      have removes : origin.Removes event := .inr ⟨id, request, asks⟩
      have left : Develops origin event before (before.setSession source.id fun session =>
          { session with terminals := session.terminals.filter fun id => id ≠ term }) :=
        setSession before source.id fun _ _ _ => .lose term removes
      have placed : Develops origin event before ((before.setSession source.id fun session =>
          { session with terminals := session.terminals.filter fun id => id ≠ term }).setSession
            target.id fun session => { session with terminals := session.terminals ++ [term] }) :=
        left.trans (setSession _ target.id fun _ _ _ => .gain term removes)
      exact placed
  | @takeOut _ term home ends =>
      have closed : Develops origin event before (before.closeTerminal term) :=
        fewer fun _ listed => listed
      exact closed.trans (setSession _ home.id fun _ _ _ => .lose term (.inl ends.1))
  | types asks => exact input kept asks
  | @welcome _ id request session asks found =>
      obtain ⟨_, _, sessions⟩ := seat_terminals before id request session
      have sized : Develops origin event before (before.setSession session.id fun session =>
          { session with
            desktop := before.arrivingDesktop session ⟨request.columns.toNat, request.rows.toNat⟩ }) :=
        setSession before session.id fun other _ same =>
          .measure _ (.inl ⟨id, request, session, before, asks, found, same.symm⟩)
            (arrivingDesktop_within before other _ _)
      have seated : Develops origin event before (before.seat id request session) :=
        sized.trans (fewer fun _ listed => sessions ▸ listed)
      exact seated.trans (sendSnapshot _ id)
  | @heal _ client => exact sendSnapshot before client.id
  | @news _ terminal => exact tells (Tells.announceNews kept.distinct terminal fun _ _ => places_of_tidings)
  | @layout _ session => exact tells (Tells.announceSessionLayout before session false)

/-- Every step leaves of the sessions what was there, altered, and what it makes. -/
theorem step [CkVision] [Emulator] (filed : origin.Filed) (unspent : origin.Unspent) :
    Develops origin event origin (origin.step event) := by
  have both := @Acts.keep _ _
    (fun server => origin.Moved server ∧ Develops origin event origin server) _ _
    (fun _ _ _ kept act => ⟨kept.1.file unspent filed (Files.act kept.1.filed act),
      kept.2.trans (Develops.act kept.1.filed act)⟩)
    ⟨⟨filed.kept, .refl .., .refl ..⟩, fewer fun _ listed => listed⟩
  exact both.2

end Develops

end Server

end Ckmux
