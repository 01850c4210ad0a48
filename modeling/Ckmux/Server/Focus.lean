import Mathlib
import Ckmux.Server.Settling

/-!
# Whether a stated focus is real

A client is told which terminal it is in, or which one its session's last reader was in. Both are
remembered, and nobody looks at them again when a terminal leaves its session. As long as no
terminal leaves a session that is still in it, and nobody types into or brings along a terminal of
another session, every focus that is stated is a terminal of the session it is stated of.
-/

namespace Ckmux

open Grammar (Bytes)
open Proto (Message)
open Semantics (System)

/-- The session a message places its reader in, and the terminal it is said to be in. -/
def statedFocus : Message → Option (SessionId × TerminalId)
  | .attached attached => some (attached.session, attached.snapshot.focusedTerm)
  | .layoutDelta layout => some (layout.session, layout.focusedTerm)
  | _ => none

namespace Server

/-- What has been sent to a client since. -/
def saidTo (before after : Server) (id : ClientId) : List Message :=
  (((after.client id).map fun client => client.stream.sent).getD []).drop
    (((before.client id).map fun client => client.stream.sent.length).getD 0)

section

variable (server : Server)

/-- Whether a focus is none, or a terminal of a session. -/
def Real (session : SessionId) (focus : TerminalId) : Prop :=
  focus = 0 ∨ ∃ home, server.sessionFor session = some home ∧ focus ∈ home.terminals

instance (session : SessionId) (focus : TerminalId) : Decidable (server.Real session focus) :=
  decidable_of_iff
    (focus = 0 ∨ (server.sessionFor session).any (fun home => focus ∈ home.terminals) = true) (by
      rw [Real, Option.any_eq_true]
      exact or_congr_right (exists_congr fun home => and_congr_right fun _ => decide_eq_true_iff))

/-- Who types into which terminal, if an event is somebody typing. -/
def typist : ServerEvent → Option (ClientId × TerminalId)
  | .message id (.input given) =>
      if server.Obeys id (.input given) then some (id, given.term) else none
  | .paste id chunk => some (id, chunk.term)
  | _ => none

/-- Who sits down in which session, if an event is somebody attaching. -/
def arrival : ServerEvent → Option (ClientId × Session)
  | .message id (.attach request) =>
      if server.Obeys id (.attach request) then
        (server.attachSession request).1.map fun home => (id, home)
      else none
  | _ => none

/-- Whether a terminal that leaves a session which stays is not what anybody there is in. -/
def LeavesFocus (after : Server) : Prop :=
  ∀ session ∈ server.sessions, ∀ later ∈ after.sessions, later.id = session.id →
    ∀ term ∈ session.terminals, term ∉ later.terminals → session.lastFocused ≠ term ∧
      ∀ client ∈ server.clients, client.attached = true → client.session = session.id →
        client.focused ≠ term

/-- Whether an event leaves every focus where it is real: nothing leaves a session that somebody
is in, nobody attached types into a terminal of another session, and nobody brings its focus
into another session. -/
structure FocusKept [CkVision] [Emulator] (event : ServerEvent) : Prop where
  leaves : server.LeavesFocus (server.step event)
  typed : ∀ typing ∈ server.typist event, ∀ client ∈ server.client typing.1,
    client.attached = true → (server.terminal typing.2).isSome →
      server.Real client.session typing.2
  seated : ∀ sitting ∈ server.arrival event, ∀ client ∈ server.client sitting.1,
    client.focused = 0 ∨ client.focused ∈ sitting.2.terminals

/-- Whether every focus a step states is none, or a terminal that is in its session. -/
def StatesRealFocus [CkVision] [Emulator] (event : ServerEvent) : Prop :=
  ∀ id, ∀ message ∈ server.saidTo (server.step event) id, ∀ session focus,
    statedFocus message = some (session, focus) → (server.step event).Real session focus

end

variable {origin server before middle after : Server} {event : ServerEvent}

/-- What a session remembers of its last reader: nothing, a terminal it holds and cannot lose, or
what it remembered before. -/
theorem Altered.recalls {was session : Session} (altered : origin.Altered event was session) :
    session.lastFocused = 0 ∨ ¬origin.Removes event ∧ session.lastFocused ∈ session.terminals ∨
      session.lastFocused = was.lastFocused := by
  induction altered with
  | refl => exact .inr (.inr rfl)
  | @tail middle _ _ last ih =>
      have lost : origin.Removes event → middle.lastFocused = 0 ∨
          middle.lastFocused = was.lastFocused := by
        intro removes
        rcases ih with none | ⟨spared, _⟩ | same
        · exact .inl none
        · exact absurd removes spared
        · exact .inr same
      cases last with
      | rename | print | measure => exact ih
      | visit id term asked held =>
          refine .inr (.inl ⟨?_, held⟩)
          rcases asked.2 with ⟨given, asks, _⟩ | ⟨chunk, pastes, _⟩
          · exact Develops.spares asks fun _ => nofun
          · rintro (ticks | ⟨_, _, moves, _⟩)
            · cases pastes.symm.trans ticks
            · cases pastes.symm.trans moves
      | enter term spared =>
          exact .inr (.inl ⟨spared, List.mem_append_right _ (List.mem_singleton.mpr rfl)⟩)
      | gain term removes | lose term removes => exact (lost removes).imp_right .inr

/-! ### What a reader is in -/

/-- Whether what every session remembers, and what every attached client is in, is real. -/
structure Focused (server : Server) : Prop where
  sessions : ∀ session ∈ server.sessions, session.lastFocused = 0 ∨
    session.lastFocused ∈ session.terminals
  clients : ∀ client ∈ server.clients, client.attached = true →
    server.Real client.session client.focused

/-- What is placed by a message of a step was so where the step was cut. -/
theorem Settles.said (settles : Settles origin event middle after) {id : ClientId}
    {message : Message} (said : message ∈ origin.saidTo after id)
    (sound : (origin.clients.map Client.id).Nodup) :
    middle.Places id message := by
  cases found : after.client id with
  | none =>
      rw [saidTo, found] at said
      simp at said
  | some client =>
      rw [saidTo, found] at said
      obtain ⟨each, cut, hears⟩ := settles.told.was found
      obtain ⟨one, was, hushed, _⟩ := settles.clients each (client_mem cut)
      obtain ⟨fresh, grown, unplaced⟩ := hushed.sent
      obtain ⟨later, further, placed⟩ := hears.sent
      have named := client_id cut
      have among : message ∈ fresh ++ later := by
        rw [Option.map_some, Option.getD_some, further, grown] at said
        rcases was with was | ⟨silent, _⟩
        · have only : origin.client id = some one := by
            rw [← named, hushed.id]
            exact Data.find_of_mem sound was
          rw [only, Option.map_some, Option.getD_some, List.append_assoc, List.drop_left] at said
          exact said
        · rw [silent, List.nil_append] at said
          exact List.mem_of_mem_drop said
      rcases List.mem_append.mp among with early | late
      · exact places_unplaced (unplaced message early)
      · exact named ▸ placed message late

/-- A focus stated of a place that is so is real, if everybody's is. -/
theorem Focused.stated (focused : server.Focused) {id : ClientId} {message : Message}
    (placed : server.Places id message) {session : SessionId} {focus : TerminalId}
    (states : statedFocus message = some (session, focus)) : server.Real session focus := by
  cases message with
  | attached attached =>
      cases states
      obtain ⟨client, found, still, home, stated, _⟩ := placed
      rw [home, stated, focusOf]
      split
      · exact focused.clients client (client_mem found) still
      · cases there : server.sessionFor client.session with
        | none => exact .inl rfl
        | some session =>
            have listed := List.mem_of_find?_eq_some there
            exact (focused.sessions session listed).imp_right fun held => ⟨session, there, held⟩
  | layoutDelta layout =>
      cases states
      obtain ⟨client, found, still, home, stated, _⟩ := placed
      rw [home, stated]
      exact focused.clients client (client_mem found) still
  | _ => cases states

/-! ### A step that keeps it -/

/-- Whoever types leaves what the sessions hold as it is. -/
theorem input_holds (server : Server) (id : ClientId) (given : Proto.Input) :
    ∀ home ∈ server.sessions, ∃ later ∈ (server.input id given).sessions,
      later.id = home.id ∧ later.terminals = home.terminals := by
  intro home listed
  unfold Server.input
  split
  · exact ⟨home, listed, rfl, rfl⟩
  · dsimp only
    split
    · exact ⟨home, listed, rfl, rfl⟩
    · refine ⟨_, List.mem_map_of_mem listed, ?_⟩
      split <;> exact ⟨rfl, rfl⟩

/-- What is real where a step was cut stays so as it tells. -/
theorem Focused.told {news : ClientId → Message → Prop} {notes : Terminal → Terminal → Prop}
    (focused : before.Focused) (tells : Tells news notes before after) : after.Focused where
  sessions := tells.sessions ▸ focused.sessions
  clients client there attached := by
    obtain ⟨one, was, hears⟩ := Data.paired_before tells.clients there
    have real := focused.clients one was (hears.stays attached)
    rw [hears.session, hears.focused]
    exact real.imp_right fun ⟨home, found, held⟩ => ⟨home, (tells.sessionFor _).trans found, held⟩

/-- Who types is found by the event alone. -/
theorem Types.typist {id : ClientId} {term : TerminalId} (types : origin.Types event id term) :
    origin.typist event = some (id, term) := by
  obtain ⟨_, ⟨given, ⟨rfl, obeys⟩, rfl⟩ | ⟨chunk, rfl, rfl⟩⟩ := types
  · exact if_pos obeys
  · rfl

/-- Who attaches, and to what, is found by the event alone. -/
theorem arrival_of_asks {id : ClientId} {request : Proto.Attach} {home : Session} {made : Server}
    (asks : origin.Asks event id (.attach request))
    (asked : origin.attachSession request = (some home, made)) :
    origin.arrival event = some (id, home) := by
  obtain ⟨rfl, obeys⟩ := asks
  unfold Server.arrival
  dsimp only
  rw [if_pos obeys, asked]
  rfl

variable [CkVision] [Emulator]

/-- Typing leaves every session its terminals. -/
theorem types_holds {id : ClientId} {term : TerminalId} (types : origin.Types event id term) :
    ∀ home ∈ origin.sessions, ∃ later ∈ (origin.step event).sessions,
      later.id = home.id ∧ later.terminals = home.terminals := by
  obtain ⟨_, ⟨given, ⟨rfl, obeys⟩, _⟩ | ⟨chunk, rfl, _⟩⟩ := types
  · have step : origin.step (.message id (.input given)) = origin.input id given :=
      Obeys.handle obeys
    rw [step]
    exact input_holds origin id given
  · have acked : Tells (fun _ _ => True) Eq (origin.input id ⟨chunk.term, chunk.bytes⟩)
        (origin.step (.paste id chunk)) :=
      @Tells.say _ (origin.input id ⟨chunk.term, chunk.bytes⟩) id (.pasteAck ⟨chunk.seq⟩) trivial rfl
    rw [acked.sessions]
    exact input_holds origin id _

/-- A session attached to holds what it held. -/
theorem seats_holds {id : ClientId} {request : Proto.Attach} {home : Session} {made : Server}
    (asks : origin.Asks event id (.attach request))
    (asked : origin.attachSession request = (some home, made)) :
    ∃ later ∈ (origin.step event).sessions, later.id = home.id ∧ later.terminals = home.terminals := by
  have step : origin.step event = origin.attach id request := by
    rw [asks.1]
    exact Obeys.handle asks.2
  have attached : (origin.attach id request).sessions =
      (made.setSession home.id fun session =>
        { session with
          desktop := made.arrivingDesktop session
            ⟨request.columns.toNat, request.rows.toNat⟩ }).sessions := by
    unfold Server.attach
    rw [asked]
    exact (sendSnapshot_sessions _ id).trans (seat_terminals made id request home).2.2
  rw [step, attached]
  refine ⟨_, List.mem_map_of_mem (attachSession_listed asked), ?_⟩
  split <;> exact ⟨rfl, rfl⟩

/-- What every session remembers is real after a step that leaves it so. -/
theorem Focused.recalled (focused : origin.Focused) (filed : origin.Filed) (unspent : origin.Unspent)
    (leaves : origin.LeavesFocus (origin.step event)) :
    ∀ session ∈ (origin.step event).sessions, session.lastFocused = 0 ∨
      session.lastFocused ∈ session.terminals := by
  intro session listed
  obtain ⟨was, there, altered⟩ := Develops.step filed unspent session listed
  rcases altered.recalls with none | ⟨_, held⟩ | same
  · exact .inl none
  · exact .inr held
  · rcases there with there | blank
    · rcases focused.sessions was there with none | held
      · exact .inl (same.trans none)
      · rw [same]
        by_contra lost
        rw [not_or] at lost
        exact (leaves was there session listed altered.id _ held lost.2).1 rfl
    · exact .inl (same.trans blank.lastFocused)

/-- What every attached client is in is real where a step that leaves it so is cut. -/
theorem Settles.focused (focused : origin.Focused) (filed : origin.Filed) (unspent : origin.Unspent)
    (sound : (origin.clients.map Client.id).Nodup) (kept : origin.FocusKept event)
    (settles : Settles origin event middle (origin.step event)) : middle.Focused := by
  have later : (origin.step event).Filed := (filed.step unspent event).2
  have sessions : middle.sessions = (origin.step event).sessions := settles.told.sessions.symm
  have real : ∀ {home : Session} {session : SessionId} {focus : TerminalId},
      home ∈ (origin.step event).sessions → home.id = session → focus ∈ home.terminals →
        middle.Real session focus := by
    intro home session focus listed named held
    refine .inr ⟨home, ?_, held⟩
    rw [Server.sessionFor, sessions, ← named]
    exact later.sessionFor listed
  refine ⟨sessions ▸ focused.recalled filed unspent kept.leaves, fun client there attached => ?_⟩
  obtain ⟨home, listed, named⟩ := settles.lodged.housed client there attached
  rw [sessions] at listed
  obtain ⟨one, was, hushed, stays | ⟨was, ⟨request, sat, made, asks, asked, seat⟩, focus⟩⟩ :=
    settles.clients client there
  · obtain ⟨still, session, focus⟩ := stays attached
    have was : one ∈ origin.clients :=
      was.resolve_right fun new => Bool.false_ne_true (new.2.symm.trans still)
    rcases focus with same | types
    · rcases focused.clients one was still with none | ⟨before, found, held⟩
      · exact .inl (same.trans none)
      · have first := List.mem_of_find?_eq_some found
        have number : home.id = before.id := by
          rw [named, session, sessionFor_id found]
        by_contra lost
        have gone : one.focused ∉ home.terminals := fun held => lost (real listed named (same ▸ held))
        exact (kept.leaves before first home listed number one.focused held gone).2 one was still
          (sessionFor_id found).symm rfl
    · have only : origin.client client.id = some one := by
        rw [hushed.id]
        exact Data.find_of_mem sound was
      rcases kept.typed _ types.typist one only still types.1 with none | ⟨before, found, held⟩
      · exact .inl none
      · obtain ⟨after, here, number, same⟩ :=
          types_holds types before (List.mem_of_find?_eq_some found)
        refine real here ?_ (same ▸ held)
        rw [number, session, sessionFor_id found]
  · have only : origin.client client.id = some one := by
      rw [hushed.id]
      exact Data.find_of_mem sound was
    rcases kept.seated _ (arrival_of_asks asks asked) one only with none | held
    · exact .inl (focus.trans none)
    · obtain ⟨after, here, number, same⟩ := seats_holds asks asked
      exact real here (number.trans seat) (same ▸ focus ▸ held)

end Server

/-- The server in runs that keep every focus real. -/
def focusSystem [CkVision] [Emulator] : System Server ServerEvent :=
  numberedSystem.guarded fun server event => server.FocusKept event

namespace Server

variable [CkVision] [Emulator] {server after : Server} {event : ServerEvent}

/-- A step that strands no focus leaves every focus real. -/
theorem Focused.step (orderly : server.Orderly) (focused : server.Focused)
    (allowed : focusSystem.allows server event) : (server.step event).Focused := by
  obtain ⟨middle, settles⟩ := orderly.settles allowed.1
  exact (settles.focused focused orderly.filed allowed.1.2 orderly.sound.distinct allowed.2).told
    settles.told

/-- In runs that keep every focus real, what anybody is in is real. -/
theorem reachable_focused (reached : focusSystem.Reachable server) :
    server.Orderly ∧ server.Focused := by
  refine @System.Reachable.invariant _ _ focusSystem
    (fun server => server.Orderly ∧ server.Focused) ?_ ?_ _ reached
  · rintro _ ⟨settings, kernel, now, rfl⟩
    exact ⟨.start ⟨settings, kernel, now, rfl⟩, fun _ there => absurd there List.not_mem_nil,
      fun _ there => absurd there List.not_mem_nil⟩
  · intro server event kept allowed
    exact ⟨kept.1.step allowed.1, kept.2.step kept.1 allowed⟩

/-- In every run that leaves no focus behind and brings none along, every focus that is stated
of a session is none, or a terminal that is in it. -/
theorem stated_focus_real (reached : focusSystem.Reachable server)
    (allowed : focusSystem.allows server event) : server.StatesRealFocus event := by
  obtain ⟨orderly, focused⟩ := reachable_focused reached
  obtain ⟨middle, settles⟩ := orderly.settles allowed.1
  have real := settles.focused focused orderly.filed allowed.1.2 orderly.sound.distinct allowed.2
  intro id message said session focus states
  have stated := real.stated (settles.said said orderly.sound.distinct) states
  exact stated.imp_right fun ⟨home, found, held⟩ =>
    ⟨home, (settles.told.sessionFor session).trans found, held⟩

/-- Whether every session that stays holds what it held. -/
def Retains (before after : List (SessionId × List TerminalId)) : Prop :=
  ∀ home ∈ before, ∀ later ∈ after, later.1 = home.1 → home.2 ⊆ later.2

/-- Where no session loses a terminal, no focus is left behind. -/
theorem FocusKept.retain {was is : List (SessionId × List TerminalId)} (retains : Retains was is)
    (kept : server.ledger.homes = was ∧ (server.step event).ledger.homes = is ∧
      (∀ typing ∈ server.typist event, ∀ client ∈ server.client typing.1,
        client.attached = true → (server.terminal typing.2).isSome →
          server.Real client.session typing.2) ∧
      ∀ sitting ∈ server.arrival event, ∀ client ∈ server.client sitting.1,
        client.focused = 0 ∨ client.focused ∈ sitting.2.terminals) : server.FocusKept event where
  leaves session listed later there named term held lost := by
    have first := kept.1 ▸ ledger_home listed
    have second := kept.2.1 ▸ ledger_home there
    exact absurd (retains _ first _ second named held) lost
  typed := kept.2.2.1
  seated := kept.2.2.2

end Server

/-! ### A focus that is left behind -/

/-- One makes a session and opens a terminal in it. -/
def focusEvents : List ServerEvent :=
  [.connect, .message 1 hello, .message 1 (.attach { attachTo .takeOver with session := 0 }),
    .message 1 (.newTerminal {})]

/-- Where the focused events lead. -/
def focusServer : Server := focusEvents.foldl (@serverSystem asciiVision blankEmulator).step freshServer

/-- One attaches to the session once more. -/
def attachesAgain : ServerEvent := .message 1 (.attach (attachTo .takeOver))

/-- The focused events can happen. -/
theorem focusServer_reached : (@focusSystem asciiVision blankEmulator).Reachable focusServer := by
  have allowed : (@numberedSystem asciiVision blankEmulator).AllowsAll freshServer focusEvents := by
    decide +kernel
  have kept : (@numberedSystem asciiVision blankEmulator).Throughout
      (fun server event => @Server.FocusKept server asciiVision blankEmulator event) freshServer
        focusEvents := by
    refine ⟨?_, ?_, ?_, ?_, trivial⟩
    · exact @Server.FocusKept.retain asciiVision blankEmulator _ _ [] []
        (by simp [Server.Retains]) (by decide +kernel)
    · exact @Server.FocusKept.retain asciiVision blankEmulator _ _ [] []
        (by simp [Server.Retains]) (by decide +kernel)
    · exact @Server.FocusKept.retain asciiVision blankEmulator _ _ [] [(1, [])]
        (by simp [Server.Retains]) (by decide +kernel)
    · exact @Server.FocusKept.retain asciiVision blankEmulator _ _ [(1, [])] [(1, [1])]
        (by simp [Server.Retains]) (by decide +kernel)
  have fresh : (@focusSystem asciiVision blankEmulator).Reachable freshServer :=
    .start ⟨{}, _, 0, rfl⟩
  exact fresh.follow focusEvents (allowed.guard (fun _ _ kept => kept) kept)

/-- One opens another terminal and gives it a session of its own. -/
def strandedServer : Server :=
  [ServerEvent.message 1 (.newTerminal {}),
    .message 1 (.moveTerminal { term := 2, toNewSession := 1 })].foldl
      (@serverSystem asciiVision blankEmulator).step focusServer

/-- A focus can be stranded. -/
theorem strandedServer_reached : (@serverSystem asciiVision blankEmulator).Reachable strandedServer := by
  have opened : (@serverSystem asciiVision blankEmulator).Reachable focusServer :=
    focusServer_reached.unguarded.unguarded
  exact opened.follow _ (by decide +kernel)

namespace Server

/-- A client that attaches again is told a focus that is there. -/
theorem stated_focus_real_opened :
    @StatesRealFocus focusServer asciiVision blankEmulator attachesAgain := by
  refine @stated_focus_real asciiVision blankEmulator _ _ focusServer_reached
    ⟨by decide +kernel, ?_⟩
  exact @FocusKept.retain asciiVision blankEmulator _ _ [(1, [1])] [(1, [1])]
    (by simp [Retains]) (by decide +kernel)

/-- A terminal moved away is still where its old session's reader is told to be. -/
theorem stated_focus_gone :
    (@serverSystem asciiVision blankEmulator).Reachable strandedServer ∧
      (@serverSystem asciiVision blankEmulator).allows strandedServer attachesAgain ∧
      ¬@StatesRealFocus strandedServer asciiVision blankEmulator attachesAgain := by
  refine ⟨strandedServer_reached, by decide +kernel, fun real => ?_⟩
  have said : (strandedServer.saidTo
      (@Server.step asciiVision blankEmulator strandedServer attachesAgain) 1).any
        (fun message => statedFocus message = some (1, 2)) = true := by decide +kernel
  obtain ⟨message, among, states⟩ := List.any_eq_true.mp said
  have gone := real 1 message among 1 2 (of_decide_eq_true states)
  revert gone
  decide +kernel

end Server

end Ckmux
