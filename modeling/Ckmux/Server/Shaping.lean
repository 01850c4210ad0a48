import Mathlib
import Ckmux.Server.Names
import Ckmux.Server.Watching

/-!
# Who shapes a session

A session's desktop and where its windows are is for its own readers to say. Whoever is not
attached to it leaves both as they are, unless its last session it was, and it says that its
screen or the desktop is of another size: nobody asks then whether it still is attached.
-/

namespace Ckmux

open Grammar (Bytes)
open Proto (Message)
open Semantics (System)

namespace Server

/-- Whether a session keeps its desktop, and the windows of the terminals it keeps their places. -/
def Unshaped (before after : Server) (id : SessionId) : Prop :=
  ∀ was session, before.sessionFor id = some was → after.sessionFor id = some session →
    session.desktop = was.desktop ∧
      ∀ term ∈ was.terminals, term ∈ session.terminals →
        (after.terminal term).map Terminal.layout = (before.terminal term).map Terminal.layout

/-- The desktop a session is to have when somebody whose session it is says something. -/
def wantedDesktop (server : Server) (home : Session) (message : Message) : Size :=
  let wanted : Size :=
    match message with
    | .clientResize resize =>
        let arriving : Size := ⟨resize.columns.toNat, resize.rows.toNat⟩
        if arriving.positive then server.resizedDesktop home arriving else home.desktop
    | .setDesktopSize fit => ⟨fit.columns.toNat, fit.rows.toNat⟩
    | _ => home.desktop
  if wanted.positive then wanted else home.desktop

/-- Whether a client asks for another desktop of the session it was last in. -/
def Reaches (server : Server) (client : Client) (message : Message) (target : SessionId) : Prop :=
  client.session = target ∧ server.Obeys client.id message ∧
    ∃ home, server.sessionFor target = some home ∧
      server.wantedDesktop home message ≠ home.desktop

/-- What an act leaves of a session: its desktop, and of the terminals' layouts all but those
that are reported. -/
structure Leaves (origin : Server) (event : ServerEvent) (target : SessionId)
    (before after : Server) : Prop where
  sessions : ∀ session ∈ after.sessions, session.id = target →
    (∃ was ∈ before.sessions, was.id = target ∧ was.desktop = session.desktop ∧
      ∀ term ∈ session.terminals, term ∈ was.terminals ∨ term = origin.nextTerminal) ∨
    target = origin.nextSession
  terminals : ∀ terminal ∈ after.terminals,
    (∃ was ∈ before.terminals, was.id = terminal.id ∧ was.layout = terminal.layout) ∨
    terminal.id = origin.nextTerminal ∨
    ∃ layout, Deed.Meant origin event terminal.id (.lay layout)

variable {origin server before after : Server} {event : ServerEvent} {target : SessionId}

namespace Leaves

/-- Terminals that keep their layouts, and sessions that stay or go. -/
theorem fewer (sessions : ∀ session ∈ after.sessions, session ∈ before.sessions)
    (terminals : ∀ terminal ∈ after.terminals,
      ∃ was ∈ before.terminals, was.id = terminal.id ∧ was.layout = terminal.layout) :
    Leaves origin event target before after where
  sessions session listed named :=
    .inl ⟨session, sessions session listed, named, rfl, fun _ held => .inl held⟩
  terminals terminal there := .inl (terminals terminal there)

/-- Telling the clients leaves the terminals their shapes. -/
theorem tells {news : ClientId → Message → Prop} {notes : Terminal → Terminal → Prop}
    (tells : Tells news notes before after) (noted : ∀ one each, notes one each → one.Noted each) :
    Leaves origin event target before after := by
  refine fewer (fun session listed => tells.sessions ▸ listed) fun terminal there => ?_
  obtain ⟨was, among, note⟩ := Data.paired_before tells.terminals there
  have same := noted _ _ note
  exact ⟨was, among, same.id.symm, (congrArg (fun seen => seen.2.1) same).symm⟩

/-- A session changed but for its number and its desktop, and its list no longer. -/
theorem setSession (server : Server) (id : SessionId) {change : Session → Session}
    (kept : ∀ session, session.id = id → (change session).id = session.id ∧
      (session.id = target → (change session).desktop = session.desktop) ∧
      ∀ term ∈ (change session).terminals, term ∈ session.terminals ∨ term = origin.nextTerminal) :
    Leaves origin event target server (server.setSession id change) where
  sessions session listed named := by
    obtain ⟨was, there, rfl⟩ := List.mem_map.mp listed
    left
    split at named
    · rename_i same
      rw [if_pos same]
      obtain ⟨id, desktop, held⟩ := kept was same
      exact ⟨was, there, id ▸ named, (desktop (id ▸ named)).symm, held⟩
    · rename_i other
      rw [if_neg other]
      exact ⟨was, there, named, rfl, fun _ held => .inl held⟩
  terminals terminal there := .inl ⟨terminal, there, rfl, rfl⟩

/-- A terminal changed but for its number and its layout. -/
theorem setTerminal (server : Server) (id : TerminalId) {change : Terminal → Terminal}
    (kept : ∀ terminal ∈ server.terminals, terminal.id = id →
      (change terminal).id = terminal.id ∧ ((change terminal).layout = terminal.layout ∨
        ∃ layout, Deed.Meant origin event id (.lay layout))) :
    Leaves origin event target server (server.setTerminal id change) where
  sessions session listed named :=
    .inl ⟨session, listed, named, rfl, fun _ held => .inl held⟩
  terminals terminal there := by
    obtain ⟨was, among, rfl⟩ := List.mem_map.mp there
    split
    · rename_i same
      obtain ⟨id, layout | reported⟩ := kept was among same
      · exact .inl ⟨was, among, id.symm, layout.symm⟩
      · exact .inr (.inr (by rwa [id, same]))
    · exact .inl ⟨was, among, rfl, rfl⟩

/-- What is left of what was left. -/
theorem trans {middle : Server} (first : Leaves origin event target before middle)
    (second : Leaves origin event target middle after) : Leaves origin event target before after where
  sessions session listed named := by
    rcases second.sessions session listed named with ⟨was, there, same, desktop, held⟩ | made
    · rcases first.sessions was there same with ⟨once, early, name, size, held'⟩ | made
      · refine .inl ⟨once, early, name, size.trans desktop, fun term among => ?_⟩
        rcases held term among with still | fresh
        · exact held' term still
        · exact .inr fresh
      · exact .inr made
    · exact .inr made
  terminals terminal there := by
    rcases second.terminals terminal there with ⟨was, among, same, layout⟩ | rest
    · rcases first.terminals was among with ⟨once, early, name, lay⟩ | rest
      · exact .inl ⟨once, early, name.trans same, lay.trans layout⟩
      · rw [same] at rest
        exact .inr rest
    · exact .inr rest

end Leaves

/-- Whether nothing is asked for that a session is left alone by on other grounds: no terminal
is moved, no desktop asked for, and nobody attaches to it. -/
structure Calm (origin : Server) (event : ServerEvent) (target : SessionId) : Prop where
  moves : ∀ id request, ¬origin.Asks event id (.moveTerminal request)
  resizes : ∀ id resize, ¬origin.Asks event id (.clientResize resize)
  fits : ∀ id fit, ¬origin.Asks event id (.setDesktopSize fit)
  attaches : ∀ id request session made, origin.Asks event id (.attach request) →
    origin.attachSession request = (some session, made) → session.id ≠ target

/-- Only the deed that lays a terminal out gives it another layout. -/
theorem Deed.apply_layout [Emulator] (terminal : Terminal) (deed : Deed) :
    (deed.apply terminal).layout = terminal.layout ∨ ∃ layout, deed = .lay layout := by
  cases deed with
  | terminate | give | resize | override | clearDamage => exact .inl rfl
  | lay layout => exact .inr ⟨layout, rfl⟩
  | retitle =>
      left
      dsimp only [Deed.apply, Terminal.setCustomTitle]
      split <;> rfl
  | observe | exit | emulate =>
      left
      dsimp only [Deed.apply, Terminal.observeExit]
      repeat' split
      all_goals rfl
  | discard =>
      left
      dsimp only [Deed.apply, Terminal.discardPrintJobs]
      repeat' split
      all_goals rfl

namespace Leaves

/-- What a client types leaves the shapes alone. -/
theorem typed (server : Server) (id : ClientId) (given : Proto.Input) :
    Leaves origin event target server (server.input id given) := by
  unfold Server.input
  split
  · exact fewer (fun _ listed => listed) fun terminal there => ⟨terminal, there, rfl, rfl⟩
  · rename_i terminal _
    have asked : Leaves origin event target server (server.setTerminal given.term fun terminal =>
        terminal.ask (.input given.bytes)) :=
      setTerminal server given.term fun _ _ _ => ⟨rfl, .inl rfl⟩
    have typed : Leaves origin event target server ((server.setTerminal given.term fun terminal =>
        terminal.ask (.input given.bytes)).setClient id fun client =>
          { client with focused := given.term }) := ⟨asked.sessions, asked.terminals⟩
    dsimp only
    split
    · exact typed
    · refine typed.trans (setSession _ _ fun session _ => ?_)
      exact ⟨rfl, fun _ => rfl, fun _ held => .inl held⟩

/-- Closing a terminal leaves the others their shapes. -/
theorem closes (server : Server) (id : TerminalId) :
    Leaves origin event target server (server.closeTerminal id) :=
  fewer (fun _ listed => listed) fun terminal there =>
    ⟨terminal, List.mem_of_mem_eraseP there, rfl, rfl⟩

/-- Forgetting a session leaves the others their shapes. -/
theorem forgets (server : Server) (id : SessionId) (reason : Proto.DetachReason) (text : Bytes) :
    Leaves origin event target server (server.forgetSession id reason text) := by
  obtain ⟨left, leaves, told⟩ := Tells.forgetSession server id reason text
  have gone : Leaves origin event target left
      { left with sessions := left.sessions.filter fun session => session.id ≠ id } :=
    fewer (fun _ listed => List.mem_of_mem_filter listed)
      fun terminal there => ⟨terminal, there, rfl, rfl⟩
  have same : ∀ one each : Terminal, one = each → one.Noted each := fun _ _ same => same ▸ .refl _
  exact (tells leaves same).trans (gone.trans (tells told same))

/-- Opening a terminal leaves the others their shapes. -/
theorem opens [Emulator] {id : SessionId} {home : Session}
    (found : server.sessionFor id = some home) (first : server.nextTerminal = origin.nextTerminal)
    (spec : TerminalSpec) : Leaves origin event target server (server.openTerminal id spec).2 := by
  rw [openTerminal_eq found]
  have opened : Leaves origin event target server { server with
      terminals := server.terminals ++ [Terminal.opened server.nextTerminal spec]
      nextTerminal := server.nextTerminal + 1 } := by
    refine ⟨fun session listed named => ?_, fun terminal there => ?_⟩
    · exact .inl ⟨session, listed, named, rfl, fun _ held => .inl held⟩
    · rcases List.mem_append.mp there with was | new
      · exact .inl ⟨terminal, was, rfl, rfl⟩
      · exact .inr (.inl ((congrArg Terminal.id (List.mem_singleton.mp new)).trans first))
  refine opened.trans (setSession _ home.id fun session _ => ⟨rfl, fun _ => rfl, fun term held => ?_⟩)
  exact (List.mem_append.mp held).imp_right fun new => (List.mem_singleton.mp new).trans first

/-- A relaunch leaves the shapes alone. -/
theorem relaunches [Emulator] (server : Server) (term : TerminalId) :
    Leaves origin event target server (server.relaunch term) := by
  have again : Leaves origin event target server
      (server.setTerminal term fun terminal => terminal.relaunch) :=
    setTerminal server term fun _ _ _ => ⟨rfl, .inl rfl⟩
  exact ⟨again.sessions, again.terminals⟩

/-- A whole session sent leaves the shapes alone. -/
theorem whole [Emulator] (server : Server) (id : ClientId) :
    Leaves origin event target server (server.sendSnapshot id) := by
  cases found : server.client id with
  | none =>
      unfold Server.sendSnapshot
      rw [found]
      exact fewer (fun _ listed => listed) fun terminal there => ⟨terminal, there, rfl, rfl⟩
  | some client => exact tells (Tells.sendSnapshot found) fun _ _ => Terminal.Flagged.noted

/-- A client seated in another session, and sent it. -/
theorem admits [Emulator] (server : Server) (id : ClientId) (request : Proto.Attach)
    {session : Session} (elsewhere : session.id ≠ target) :
    Leaves origin event target server ((server.seat id request session).sendSnapshot id) := by
  obtain ⟨terminals, _, sessions⟩ := seat_terminals server id request session
  have sized : Leaves origin event target server (server.setSession session.id fun session =>
      { session with
        desktop := server.arrivingDesktop session ⟨request.columns.toNat, request.rows.toNat⟩ }) := by
    refine setSession server session.id fun other same => ?_
    exact ⟨rfl, fun named => absurd (same.symm.trans named) elsewhere, fun _ held => .inl held⟩
  have seated : Leaves origin event target server (server.seat id request session) := by
    refine ⟨fun other listed => ?_, fun terminal there => ?_⟩
    · exact sized.sessions other (sessions ▸ listed)
    · exact sized.terminals terminal (terminals ▸ there)
  exact seated.trans (whole ..)

/-- What every act leaves of a session that nothing is asked of. -/
theorem act [CkVision] [Emulator] (kept : before.ledger.Kept) (calm : Calm origin event target)
    (act : Act origin event before after) : Leaves origin event target before after := by
  have still : ∀ server : Server, Leaves origin event target server server := fun server =>
    fewer (fun _ listed => listed) fun terminal there => ⟨terminal, there, rfl, rfl⟩
  cases act with
  | speak told => exact tells told fun _ _ same => same ▸ .refl _
  | fetch => exact tells (Tells.sendChunks ..) fun _ _ same => same ▸ .refl _
  | connect | sweep | wait | closes | kills => exact ⟨(still _).sessions, (still _).terminals⟩
  | create named =>
      refine ⟨fun session listed name => ?_, fun terminal there => .inl ⟨terminal, there, rfl, rfl⟩⟩
      rcases List.mem_append.mp listed with was | new
      · exact .inl ⟨session, was, name, rfl, fun _ held => .inl held⟩
      · have number : session.id = before.nextSession :=
          congrArg Session.id (List.mem_singleton.mp new)
        exact .inr (name.symm.trans (number.trans named.2.1))
  | @rename _ _ session found fresh =>
      exact setSession before session.id fun _ _ => ⟨rfl, fun _ => rfl, fun _ held => .inl held⟩
  | @print _ id said =>
      exact setSession before id fun _ _ => ⟨rfl, fun _ => rfl, fun _ held => .inl held⟩
  | reshape asked =>
      obtain ⟨_, _, _, _, ⟨_, asks, _⟩ | ⟨_, asks, _⟩, _⟩ := asked
      · exact absurd asks (calm.resizes _ _)
      · exact absurd asks (calm.fits _ _)
  | forget found empty => exact forgets ..
  | @bury _ session text due =>
      have closed : Leaves origin event target before (session.terminals.foldl closeTerminal before) :=
        List.foldlRecOn session.terminals closeTerminal (still before)
          fun middle leaves term _ => leaves.trans (closes middle term)
      exact closed.trans (forgets ..)
  | spawn asked made found first => exact opens found first _
  | @opens _ home spec columns rows _ _ asked found first =>
      exact (opens found first spec).trans (tells (Tells.tellOpened _ home.id _)
        fun _ _ same => same ▸ .refl _)
  | @respawn _ terminal => exact relaunches before terminal.id
  | @respawnIn _ terminal home _ _ columns rows =>
      exact (relaunches before terminal.id).trans (tells (Tells.tellOpened _ home.id _)
        fun _ _ same => same ▸ .refl _)
  | rehome asked => exact absurd asked (calm.moves _ _)
  | @takeOut _ term home ends holds =>
      refine (closes before term).trans (setSession _ home.id fun session _ => ?_)
      exact ⟨rfl, fun _ => rfl, fun _ held => .inl (List.mem_of_mem_filter held)⟩
  | @lose _ term => exact closes before term
  | @deed _ term deed change meant does =>
      refine setTerminal before term fun terminal there named => ?_
      have only := Data.find_of_mem kept.distinct there
      rw [does terminal (named ▸ only)]
      refine ⟨deed.apply_id terminal, (Deed.apply_layout terminal deed).imp_right ?_⟩
      rintro ⟨layout, rfl⟩
      exact ⟨layout, meant⟩
  | @kill _ term due => exact setTerminal before term fun _ _ _ => ⟨rfl, .inl rfl⟩
  | policies =>
      refine fewer (fun _ listed => listed) fun terminal there => ?_
      obtain ⟨was, among, rfl⟩ := List.mem_map.mp there
      exact ⟨was, among, rfl, rfl⟩
  | observed =>
      refine fewer (fun _ listed => listed) fun terminal there => ?_
      obtain ⟨was, among, rfl⟩ := List.mem_map.mp there
      have layout := (Deed.apply_layout was .observe).resolve_right (by rintro ⟨_, _⟩; contradiction)
      exact ⟨was, among, (Deed.apply_id was .observe).symm, layout.symm⟩
  | types => exact typed ..
  | @welcome _ id request session asked found =>
      exact admits before id request (calm.attaches id request session before asked found)
  | @heal _ client => exact whole before client.id
  | @news _ terminal ticks found => exact tells (Tells.announceNews kept.distinct terminal fun _ _ => places_of_tidings) fun _ _ => id
  | @layout _ session => exact tells (Tells.announceSessionLayout before session false) fun _ _ => Terminal.Flagged.noted

end Leaves

/-- What holds of a session and its terminals on the way, as long as nobody shapes it. -/
structure Keeps (origin : Server) (home : Session) (server : Server) : Prop where
  moved : origin.Moved server
  sessions : ∀ session ∈ server.sessions, session.id = home.id →
    session.desktop = home.desktop ∧
      ∀ term ∈ session.terminals, term ∈ home.terminals ∨ term = origin.nextTerminal
  terminals : ∀ terminal ∈ server.terminals, terminal.id ∈ home.terminals →
    ∃ was ∈ origin.terminals, was.id = terminal.id ∧ was.layout = terminal.layout

/-- A session found by its number is the only one of it. -/
theorem Filed.sessionFor (filed : server.Filed) {session : Session}
    (listed : session ∈ server.sessions) : server.sessionFor session.id = some session :=
  Data.find_of_mem (ledger_keys server ▸ filed.kept.apart) listed

/-- A filed server finds each of its terminals by its id. -/
theorem Filed.terminal (filed : server.Filed) {terminal : Terminal}
    (there : terminal ∈ server.terminals) : server.terminal terminal.id = some terminal :=
  Data.find_of_mem filed.kept.distinct there

/-- A terminal is held by one session. -/
theorem Filed.same_home (filed : server.Filed) {one other : Session} {term : TerminalId}
    (here : one ∈ server.sessions) (held : term ∈ one.terminals)
    (there : other ∈ server.sessions) (too : term ∈ other.terminals) : one = other := by
  have same := filed.kept.same_home (ledger_home here) held (ledger_home there) too
  exact List.inj_on_of_nodup_map (ledger_keys server ▸ filed.kept.apart) here there
    (congrArg Prod.fst same)

/-- A terminal a session holds has been given its number. -/
theorem Filed.known (filed : server.Filed) {session : Session} (listed : session ∈ server.sessions)
    {term : TerminalId} (held : term ∈ session.terminals) : term < server.nextTerminal :=
  filed.terminals term (filed.kept.home_item (ledger_home listed) held)

/-- Nothing done yet, the session is as it was. -/
theorem Keeps.start (filed : server.Filed) {home : Session} (listed : home ∈ server.sessions) :
    Keeps server home server where
  moved := ⟨filed.kept, .refl .., .refl ..⟩
  sessions session there named := by
    obtain rfl : session = home := Option.some.inj
      ((filed.sessionFor there).symm.trans (named ▸ filed.sessionFor listed))
    exact ⟨rfl, fun _ held => .inl held⟩
  terminals terminal there _ := ⟨terminal, there, rfl, rfl⟩

/-- Whatever leaves a session alone keeps it, if layouts are reported for others only. -/
theorem Keeps.leave (filed : origin.Filed) {home : Session} (listed : home ∈ origin.sessions)
    (foreign : ∀ id layout, Deed.Meant origin event id (.lay layout) → id ∉ home.terminals)
    (keeps : Keeps origin home before) (leaves : Leaves origin event home.id before after)
    (moved : origin.Moved after) : Keeps origin home after where
  moved := moved
  sessions session there named := by
    rcases leaves.sessions session there named with ⟨was, early, same, desktop, held⟩ | made
    · obtain ⟨size, terms⟩ := keeps.sessions was early same
      refine ⟨desktop.symm.trans size, fun term among => ?_⟩
      rcases held term among with still | fresh
      · exact terms term still
      · exact .inr fresh
    · have early := filed.sessions home.id (List.mem_map_of_mem (f := Prod.fst) (ledger_home listed))
      exact absurd (made ▸ early) (UInt64.lt_irrefl _)
  terminals terminal there held := by
    rcases leaves.terminals terminal there with ⟨was, early, same, layout⟩ | fresh | ⟨layout, meant⟩
    · obtain ⟨once, first, name, lay⟩ := keeps.terminals was early (same ▸ held)
      exact ⟨once, first, name.trans same, lay.trans layout⟩
    · exact absurd (fresh ▸ filed.known listed held) (UInt64.lt_irrefl _)
    · exact absurd held (foreign _ _ meant)

/-- A session that keeps all that is unshaped. -/
theorem Keeps.unshaped (filed : origin.Filed) {home : Session}
    (listed : home ∈ origin.sessions) (filed' : server.Filed) (keeps : Keeps origin home server) :
    Unshaped origin server home.id := by
  intro was session found later
  obtain rfl : was = home := Option.some.inj (found.symm.trans (filed.sessionFor listed))
  have named := sessionFor_id later
  have there := List.mem_of_find?_eq_some later
  obtain ⟨desktop, _⟩ := keeps.sessions session there named
  refine ⟨desktop, fun term held still => ?_⟩
  obtain ⟨terminal, among, rfl⟩ := List.mem_map.mp (filed'.kept.home_item (ledger_home there) still)
  obtain ⟨once, first, name, layout⟩ := keeps.terminals terminal among held
  rw [filed'.terminal among, ← name, filed.terminal first, Option.map_some, Option.map_some, layout]

/-- A step that asks nothing of a session but that windows of another are elsewhere. -/
theorem Filed.unshaped_step [CkVision] [Emulator] (filed : server.Filed) (unspent : server.Unspent)
    {home : Session} (listed : home ∈ server.sessions)
    (foreign : ∀ id layout, Deed.Meant server event id (.lay layout) → id ∉ home.terminals)
    (calm : Calm server event home.id) : Unshaped server (server.step event) home.id := by
  have keeps : Keeps server home (server.step event) :=
    @Acts.keep _ _ (fun after => Keeps server home after) _ _
      (fun _ _ _ keeps act => keeps.leave filed listed foreign (Leaves.act keeps.moved.filed calm act)
        (keeps.moved.file unspent filed (Files.act keeps.moved.filed act)))
      (.start filed listed)
  exact keeps.unshaped filed listed (filed.step unspent event).2

/-! ### Moving a terminal -/

/-- Telling that notes nothing keeps the terminals as they are. -/
theorem Tells.terminals_eq {news : ClientId → Message → Prop} (tells : Tells news Eq before after) :
    after.terminals = before.terminals :=
  (List.forall₂_eq_eq_eq (α := Terminal) ▸ tells.terminals).symm

/-- A terminal moved is a terminal rehomed; everything else is telling of it. -/
theorem moveInto_rehomes (server : Server) (term : TerminalId) (source target : SessionId) :
    (server.moveInto term source target).sessions.Sublist
        (server.rehome term source target).sessions ∧
      (server.moveInto term source target).terminals =
        (server.rehome term source target).terminals := by
  have forgets : ∀ (server : Server) (reason : Proto.DetachReason) (text : Bytes),
      (server.forgetSession source reason text).terminals = server.terminals := by
    intro server reason text
    obtain ⟨left, leaves, told⟩ := Tells.forgetSession server source reason text
    exact told.terminals_eq.trans leaves.terminals_eq
  have told : ∀ server : Server, Tells (fun _ message => states message = false) Eq server
      (((server.forEachAttached source fun server each =>
        server.send each (.termClosed { term := term, exited := 0 })).forEachAttached target
          fun server each => server.setClient each Client.fallBehind).broadcastSessionList none) := by
    intro server
    have said : Tells (fun _ message => states message = false) Eq server
        (server.forEachAttached source fun server each =>
          server.send each (.termClosed { term := term, exited := 0 })) :=
      .forEachAttached source fun middle _ each => .say middle each rfl rfl
    have missed := said.next (.forEachAttached target fun middle _ each => .fallBehind middle each)
    exact missed.next (.broadcastSessionList _ none fun _ _ => rfl)
  obtain ⟨unclosed, is⟩ : ∃ unclosed : Server, unclosed =
      { server with closes := server.closes.filter fun pending => pending.term ≠ term } := ⟨_, rfl⟩
  have rehomed : (unclosed.rehome term source target).sessions =
        (server.rehome term source target).sessions ∧
      (unclosed.rehome term source target).terminals =
        (server.rehome term source target).terminals := by
    rw [is]
    exact ⟨rfl, rfl⟩
  have told := told (unclosed.rehome term source target)
  rw [← rehomed.1, ← rehomed.2, ← told.sessions, ← told.terminals_eq]
  unfold Server.moveInto
  dsimp only
  rw [← is]
  split
  · exact ⟨forgetSession_fewer .., forgets ..⟩
  · exact ⟨.refl _, rfl⟩

/-- A terminal moved leaves its session, and what stays in any session is as it was. -/
theorem moveInto_unshaped {base : Server} {home source : Session} {term : TerminalId}
    {into : SessionId} (filed : server.Filed) (listed : home ∈ server.sessions)
    (sessions : ∀ session ∈ base.sessions, session.id = home.id → session = home)
    (terminals : base.terminals = server.terminals)
    (holds : server.sessionHolding term = some source) (apart : into ≠ source.id) :
    Unshaped server (base.moveInto term source.id into) home.id := by
  obtain ⟨fewer, same⟩ := moveInto_rehomes base term source.id into
  intro was session found later
  obtain rfl : was = home := Option.some.inj (found.symm.trans (filed.sessionFor listed))
  have named := sessionFor_id later
  have there := fewer.subset (List.mem_of_find?_eq_some later)
  obtain ⟨middle, left, rfl⟩ := List.mem_map.mp there
  obtain ⟨first, early, rfl⟩ := List.mem_map.mp left
  have same_id : first.id = was.id := by
    revert named
    split <;> split <;> exact fun named => named
  obtain rfl := sessions first early same_id
  have elsewhere : (after : Server) → after.terminals = (base.rehome term source.id into).terminals →
      ∀ other ≠ term, after.terminal other = server.terminal other := by
    intro after is other another
    have kept := @terminal_setTerminal base term other _ Terminal.clearLayout_id
    rw [if_neg another] at kept
    rw [Server.terminal, is]
    exact kept.trans (by rw [Server.terminal, terminals]; rfl)
  refine ⟨by split <;> split <;> rfl, fun held was_there still => ?_⟩
  by_cases moved : held = term
  · subst moved
    have among := List.find?_some holds
    obtain rfl := filed.same_home listed was_there (List.mem_of_find?_eq_some holds)
      (of_decide_eq_true among)
    rw [if_pos rfl, if_neg (by exact fun same => apart same.symm)] at still
    exact absurd rfl (of_decide_eq_true (List.mem_filter.mp still).2)
  · rw [elsewhere _ same held moved]

/-- Where the windows are is of no concern to what is told. -/
theorem Tells.layouts {news : ClientId → Message → Prop} {notes : Terminal → Terminal → Prop}
    (tells : Tells news notes before after) (noted : ∀ one each, notes one each → one.Noted each)
    (term : TerminalId) : (after.terminal term).map Terminal.layout =
      (before.terminal term).map Terminal.layout := by
  have found := @Data.paired_find _ _ _ Terminal.id _ _ _ (fun _ _ note => (noted _ _ note).id)
    tells.terminals term
  unfold Server.terminal
  revert found
  cases before.terminals.find? fun terminal => terminal.id = term <;>
    cases after.terminals.find? fun terminal => terminal.id = term <;> intro found
  · rfl
  · cases found
  · cases found
  · cases found with
    | some note =>
        exact congrArg some (congrArg (fun seen => seen.2.1) (noted _ _ note))

/-- Telling the clients shapes no session. -/
theorem Tells.unshaped {news : ClientId → Message → Prop} {notes : Terminal → Terminal → Prop}
    (tells : Tells news notes before after) (noted : ∀ one each, notes one each → one.Noted each)
    (target : SessionId) : Unshaped before after target := by
  intro was session found later
  rw [Server.sessionFor, tells.sessions] at later
  obtain rfl := Option.some.inj (found.symm.trans later)
  exact ⟨rfl, fun term _ _ => tells.layouts noted term⟩

/-- Moving a terminal shapes no session. -/
theorem moveTerminal_unshaped (filed : server.Filed) {home : Session}
    (listed : home ∈ server.sessions) (id : ClientId) (request : Proto.MoveTerminal) :
    Unshaped server (server.moveTerminal id request) home.id := by
  have only : ∀ session ∈ server.sessions, session.id = home.id → session = home :=
    fun session there same =>
      Option.some.inj ((filed.sessionFor there).symm.trans (same ▸ filed.sessionFor listed))
  have same : ∀ one each : Terminal, one = each → one.Noted each := fun _ _ same => same ▸ .refl _
  have refused : ∀ code context human,
      Unshaped server (server.refuse id code context human) home.id := by
    intro code context human
    have told : Tells (fun _ _ => True) Eq server (server.refuse id code context human) :=
      .say server id trivial rfl
    exact told.unshaped same home.id
  have early : ∀ session ∈ server.sessions, session.id < server.nextSession := fun session there =>
    filed.sessions _ (List.mem_map_of_mem (f := Prod.fst) (ledger_home there))
  unfold Server.moveTerminal
  split
  · rename_i terminal source found holds
    split
    · refine moveInto_unshaped filed listed (fun session there named => ?_) rfl holds ?_
      · rcases List.mem_append.mp there with was | new
        · exact only session was named
        · have number : session.id = server.nextSession :=
            congrArg Session.id (List.mem_singleton.mp new)
          have late := early home listed
          rw [← named, number] at late
          exact absurd late (UInt64.lt_irrefl _)
      · exact (UInt64.ne_of_lt (early source (List.mem_of_find?_eq_some holds))).symm
    · split
      · exact refused _ _ _
      · split
        · have still : Tells (fun _ _ => True) Eq server server := .refl server
          exact still.unshaped same home.id
        · rename_i target there apart
          exact moveInto_unshaped filed listed only rfl holds apart
  · exact refused _ _ _

/-! ### Another desktop -/

/-- A session made of another size, and whoever there is told of it. -/
theorem unshaped_sized {sized : Server} {news : ClientId → Message → Prop}
    {notes : Terminal → Terminal → Prop} {id : SessionId} {size : Size}
    (tells : Tells news notes sized after) (noted : ∀ one each, notes one each → one.Noted each)
    (terminals : sized.terminals = server.terminals)
    (sessions : sized.sessions =
      (server.setSession id fun session => { session with desktop := size }).sessions) :
    Unshaped server after target ↔
      (target = id → ∀ home, server.sessionFor target = some home → size = home.desktop) := by
  have become : after.sessionFor target =
      if target = id then
        (server.sessionFor target).map fun session => { session with desktop := size }
      else server.sessionFor target := by
    have changed := @sessionFor_setSession server id target
      (fun session => { session with desktop := size }) fun _ => rfl
    rw [Server.sessionFor, tells.sessions, sessions]
    exact changed
  have layouts : ∀ term, (after.terminal term).map Terminal.layout =
      (server.terminal term).map Terminal.layout := by
    intro term
    rw [tells.layouts noted, Server.terminal, terminals]
    rfl
  constructor
  · intro unshaped same home found
    rw [if_pos same, found] at become
    exact (unshaped home _ found become).1
  · intro keeps was session found later
    rw [become] at later
    split at later
    · rename_i same
      rw [found] at later
      obtain rfl := Option.some.inj later
      exact ⟨keeps same was found, fun term _ _ => layouts term⟩
    · obtain rfl := Option.some.inj (found.symm.trans later)
      exact ⟨rfl, fun term _ _ => layouts term⟩

/-- A desktop changed as it is wanted, if it is wanted at all. -/
theorem changeDesktop_sized (filed : server.Filed) {home : Session}
    (found : server.sessionFor home.id = some home) (wanted : Size) :
    ∃ sized, Tells (fun _ _ => True) Terminal.Flagged sized (server.changeDesktop home wanted) ∧
      sized.terminals = server.terminals ∧
      sized.sessions = (server.setSession home.id fun session =>
        { session with desktop := if wanted.positive then wanted else home.desktop }).sessions := by
  unfold Server.changeDesktop
  split
  · rename_i unwanted
    refine ⟨server, (Tells.refl server).noting Terminal.Flagged.refl, rfl, ?_⟩
    have size : (if wanted.positive then wanted else home.desktop) = home.desktop := by
      split
      · rename_i positive
        exact unwanted.resolve_left (not_not.mpr positive)
      · rfl
    rw [size]
    refine (List.map_id _).symm.trans (List.map_congr_left fun session listed => ?_)
    split
    · rename_i same
      obtain rfl := Option.some.inj ((filed.sessionFor listed).symm.trans (same ▸ found))
      rfl
    · rfl
  · rename_i wants
    rw [not_or, not_not] at wants
    have told : ∀ server : Server, Tells (fun _ _ => True) Terminal.Flagged server
        (server.announceLayout home.id) := fun server =>
      (Tells.announceLayout server home.id).mono (fun _ _ _ => trivial) fun _ _ same => same
    exact ⟨_, told _, rfl, by rw [if_pos wants.1]⟩

/-- A desktop changed where one is wanted. -/
theorem changeDesktop_unshaped (filed : server.Filed) {home : Session}
    (found : server.sessionFor home.id = some home) (wanted : Size) :
    Unshaped server (server.changeDesktop home wanted) target ↔
      (home.id = target → (if wanted.positive then wanted else home.desktop) = home.desktop) := by
  obtain ⟨sized, told, terminals, sessions⟩ := changeDesktop_sized filed found wanted
  rw [unshaped_sized told (fun _ _ => Terminal.Flagged.noted) terminals sessions]
  constructor
  · rintro keeps rfl
    exact keeps rfl home found
  · rintro keeps rfl other there
    obtain rfl := Option.some.inj (found.symm.trans there)
    exact keeps rfl

/-- What a client that says how large its screen or the desktop is does to the sessions. -/
theorem resize_unshaped [Emulator] (filed : server.Filed) {id : ClientId} {client : Client}
    (found : server.client id = some client) {message : Message}
    (sizes : (∃ resize, message = .clientResize resize) ∨ ∃ fit, message = .setDesktopSize fit) :
    Unshaped server (server.act id message) target ↔
      (client.session = target → ∀ home, server.sessionFor target = some home →
        server.wantedDesktop home message = home.desktop) := by
  have same : ∀ one each : Terminal, one = each → one.Noted each := fun _ _ same => same ▸ .refl _
  have wants : ∀ home, server.sessionFor client.session = some home →
      ((client.session = target → ∀ home, server.sessionFor target = some home →
        server.wantedDesktop home message = home.desktop) ↔
      (home.id = target → server.wantedDesktop home message = home.desktop)) := by
    intro home there
    have named := sessionFor_id there
    rw [← named] at there ⊢
    constructor
    · rintro keeps rfl
      exact keeps rfl home there
    · rintro keeps rfl other held
      obtain rfl := Option.some.inj (there.symm.trans held)
      exact keeps rfl
  have nobody : server.sessionFor client.session = none → (client.session = target →
      ∀ home, server.sessionFor target = some home →
        server.wantedDesktop home message = home.desktop) := by
    rintro missing rfl home there
    exact absurd (missing.symm.trans there) nofun
  rcases sizes with ⟨resize, rfl⟩ | ⟨fit, rfl⟩
  · have measured : Tells (fun _ _ => True) Eq server (server.setClient id (measure resize)) :=
      .idle server id fun _ => rfl
    have act : server.act id (.clientResize resize) = server.clientResize id resize := rfl
    rw [act, clientResize_eq, found, Option.bind_some]
    split
    · rename_i missing
      exact iff_of_true (measured.unshaped same target) (nobody missing)
    · rename_i home there
      rw [wants home there]
      by_cases positive : (⟨resize.columns.toNat, resize.rows.toNat⟩ : Size).positive
      · have sized : (server.setClient id (measure resize)).Filed :=
          ⟨filed.kept, filed.terminals, filed.sessions⟩
        have changed := @changeDesktop_unshaped _ target sized home (sessionFor_id there ▸ there)
          (server.resizedDesktop home ⟨resize.columns.toNat, resize.rows.toNat⟩)
        dsimp only
        rw [if_neg (not_not.mpr positive), wantedDesktop]
        dsimp only
        rw [if_pos positive]
        exact changed
      · dsimp only
        rw [if_pos positive, wantedDesktop]
        dsimp only
        rw [if_neg positive, ite_self]
        exact iff_of_true (measured.unshaped same target) fun _ => rfl
  · have act : server.act id (.setDesktopSize fit) = server.setDesktopSize id fit := rfl
    rw [act]
    unfold Server.setDesktopSize
    rw [found, Option.bind_some]
    split
    · rename_i missing
      have still : Tells (fun _ _ => True) Eq server server := .refl server
      exact iff_of_true (still.unshaped same target) (nobody missing)
    · rename_i home there
      rw [changeDesktop_unshaped filed (sessionFor_id there ▸ there), wants home there]
      exact Iff.rfl

/-- Nothing but a screen or a desktop of another size asks for another desktop. -/
theorem wantedDesktop_other {home : Session} {message : Message}
    (resizes : ¬∃ resize, message = .clientResize resize)
    (fits : ¬∃ fit, message = .setDesktopSize fit) :
    server.wantedDesktop home message = home.desktop := by
  unfold wantedDesktop
  dsimp only
  split
  · exact absurd ⟨_, rfl⟩ resizes
  · exact absurd ⟨_, rfl⟩ fits
  · exact ite_self _

/-- A message of a client that is heard, and does not only watch, is acted upon. -/
theorem Obeys.handle [Emulator] {id : ClientId} {message : Message}
    (obeys : server.Obeys id message) : server.handle id message = server.act id message := by
  obtain ⟨client, found, matched, greeted, watches⟩ := obeys
  unfold Server.handle
  rw [found]
  dsimp only
  rw [if_neg (by simp [matched]), if_neg (by simp [greeted]), if_neg watches]

variable [CkVision] [Emulator]

/-- A client that is not attached to a session shapes it exactly if it was last in that session
and its message asks for another desktop. -/
theorem shaped_by_readers_iff (reached : numberedSystem.Reachable server) {id : ClientId}
    {client : Client} {message : Message} (found : server.client id = some client)
    (allowed : numberedSystem.allows server (.message id message))
    (stranger : ¬(client.attached = true ∧ client.session = target))
    (elsewhere : ∀ request session made, message = .attach request →
      server.attachSession request = (some session, made) → session.id ≠ target) :
    Unshaped server (server.handle id message) target ↔ ¬server.Reaches client message target := by
  have filed := reachable_filed reached
  have named := client_id found
  cases there : server.sessionFor target with
  | none =>
      refine iff_of_true (fun was _ held => absurd (there.symm.trans held) nofun) ?_
      rintro ⟨_, _, home, held, _⟩
      exact absurd (there.symm.trans held) nofun
  | some home =>
      obtain rfl := sessionFor_id there
      have listed := List.mem_of_find?_eq_some there
      by_cases sizes : server.Obeys id message ∧
          ((∃ resize, message = .clientResize resize) ∨ ∃ fit, message = .setDesktopSize fit)
      · obtain ⟨obeys, sizes⟩ := sizes
        rw [obeys.handle, resize_unshaped filed found sizes]
        constructor
        · rintro keeps ⟨same, _, other, held, wants⟩
          exact wants (keeps same other held)
        · intro spared same other held
          by_contra wants
          exact spared ⟨same, named ▸ obeys, other, held, wants⟩
      · have spared : ¬server.Reaches client message home.id := by
          rintro ⟨_, obeys, other, _, wants⟩
          refine wants (wantedDesktop_other (fun resizes => ?_) fun fits => ?_)
          · exact sizes ⟨named ▸ obeys, .inl resizes⟩
          · exact sizes ⟨named ▸ obeys, .inr fits⟩
        refine iff_of_true ?_ spared
        by_cases moves : server.Obeys id message ∧ ∃ request, message = .moveTerminal request
        · obtain ⟨obeys, request, rfl⟩ := moves
          rw [obeys.handle]
          exact moveTerminal_unshaped filed listed id request
        · have mine : ∀ other asked, server.Asks (.message id message) other asked →
              other = id ∧ asked = message ∧ server.Obeys id message := by
            rintro other asked ⟨same, obeys⟩
            injection same with sender message
            subst sender message
            exact ⟨rfl, rfl, obeys⟩
          refine @Filed.unshaped_step _ (.message id message) _ _ filed allowed.2 home listed ?_ ?_
          · rintro term layout ⟨other, report, session, asks, seated, held⟩ too
            obtain ⟨rfl, _, _⟩ := mine _ _ asks
            rw [found, Option.bind_some] at seated
            unfold Server.sessionOf at seated
            split at seated
            · rename_i attached
              have same := filed.same_home (List.mem_of_find?_eq_some seated) held listed too
              exact stranger ⟨attached, (sessionFor_id seated).symm.trans (same ▸ rfl)⟩
            · cases seated
          · refine ⟨fun other request asks => ?_, fun other resize asks => ?_,
              fun other fit asks => ?_, fun other request session made asks => ?_⟩
            · obtain ⟨_, same, obeys⟩ := mine _ _ asks
              exact moves ⟨obeys, request, same.symm⟩
            · obtain ⟨_, same, obeys⟩ := mine _ _ asks
              exact sizes ⟨obeys, .inl ⟨resize, same.symm⟩⟩
            · obtain ⟨_, same, obeys⟩ := mine _ _ asks
              exact sizes ⟨obeys, .inr ⟨fit, same.symm⟩⟩
            · obtain ⟨_, same, _⟩ := mine _ _ asks
              exact elsewhere request session made same.symm

end Server

/-! ### Somebody in another session -/

/-- A screen of 40 by 20 cells. -/
def smaller : Message := .clientResize { columns := 40, rows := 20 }

/-- One makes a session and opens a terminal in it. Another was there too, and is in a session of its
own now. -/
def apartEvents : List ServerEvent :=
  [.connect, .connect, .message 1 hello, .message 2 hello,
    .message 1 (.attach { attachTo .takeOver with session := 0 }), .message 1 (.newTerminal {}),
    .message 2 (.attach (attachTo .join)), .message 2 (.newSession { name := utf8 "own" }),
    .message 2 (.attach { attachTo .takeOver with session := 2 })]

/-- The server with its two clients in sessions apart. -/
def apartServer : Server := apartEvents.foldl (@serverSystem asciiVision blankEmulator).step freshServer

/-- Such a server is reached. -/
theorem apartServer_reached : (@numberedSystem asciiVision blankEmulator).Reachable apartServer := by
  have fresh : (@numberedSystem asciiVision blankEmulator).Reachable freshServer :=
    .start ⟨{}, _, 0, rfl⟩
  exact fresh.follow apartEvents (by decide +kernel)

namespace Server

/-- Its screen's size changes its own session, and not the one it came from. -/
theorem shaped_by_readers_apart :
    ((@Server.handle blankEmulator apartServer 2 smaller).sessionFor 2).map Session.desktop =
        some ⟨40, 20⟩ ∧
      (apartServer.sessionFor 2).map Session.desktop = some ⟨80, 24⟩ ∧
      (apartServer.sessionFor 1).map Session.terminals = some [1] ∧
      Unshaped apartServer (@Server.handle blankEmulator apartServer 2 smaller) 1 := by
  have there : ((@Server.handle blankEmulator apartServer 2 smaller).sessionFor 2).map
        Session.desktop = some ⟨40, 20⟩ ∧
      (apartServer.sessionFor 2).map Session.desktop = some ⟨80, 24⟩ ∧
      (apartServer.sessionFor 1).map Session.terminals = some [1] ∧
      (apartServer.client 2).isSome = true ∧ (clientOf apartServer 2).session = 2 ∧
      (@numberedSystem asciiVision blankEmulator).allows apartServer (.message 2 smaller) := by
    decide +kernel
  obtain ⟨sized, was, held, known, own, allowed⟩ := there
  have found : apartServer.client 2 = some (clientOf apartServer 2) := eq_some_getD known _
  refine ⟨sized, was, held, (@shaped_by_readers_iff _ _ asciiVision blankEmulator
    apartServer_reached _ _ _ found allowed ?_ ?_).mpr ?_⟩
  · rintro ⟨_, here⟩
    exact absurd (own.symm.trans here) (by decide)
  · intro _ _ _ other
    cases other
  · rintro ⟨here, _⟩
    exact absurd (own.symm.trans here) (by decide)

end Server

/-! ### Somebody who has left -/

/-- One makes a session of 80 by 24 cells and leaves it. -/
def leftEvents : List ServerEvent :=
  [.connect, .message 1 hello, .message 1 (.attach { attachTo .takeOver with session := 0 }),
    .message 1 (.detach {})]

/-- The server one of whose clients has left its session. -/
def leftServer : Server := leftEvents.foldl (@serverSystem asciiVision blankEmulator).step freshServer

/-- The leaving is a run. -/
theorem leftEvents_allowed :
    (@numberedSystem asciiVision blankEmulator).AllowsAll freshServer leftEvents := by
  decide +kernel

/-- The server is reached. -/
theorem leftServer_reached : (@numberedSystem asciiVision blankEmulator).Reachable leftServer := by
  have fresh : (@numberedSystem asciiVision blankEmulator).Reachable freshServer :=
    .start ⟨{}, _, 0, rfl⟩
  exact fresh.follow leftEvents leftEvents_allowed

/-- The first client is still there. -/
theorem leftServer_client : leftServer.client 1 = some (clientOf leftServer 1) :=
  Server.eq_some_getD (by decide +kernel) _

namespace Server

/-- Whoever has left a session can still make its desktop smaller. -/
theorem left_shapes :
    (@serverSystem asciiVision blankEmulator).Reachable leftServer ∧
      leftServer.client 1 = some (clientOf leftServer 1) ∧
      (clientOf leftServer 1).attached = false ∧
      (@serverSystem asciiVision blankEmulator).allows leftServer (.message 1 smaller) ∧
      ¬Unshaped leftServer (@Server.handle blankEmulator leftServer 1 smaller) 1 := by
  refine ⟨leftServer_reached.unguarded, leftServer_client, by decide +kernel, by decide +kernel,
    fun unshaped => ?_⟩
  have before := @eq_some_getD _ (leftServer.sessionFor 1) (by decide +kernel) { id := 0, name := [] }
  have after := @eq_some_getD _
    ((@Server.handle blankEmulator leftServer 1 smaller).sessionFor 1) (by decide +kernel)
    { id := 0, name := [] }
  have same := (unshaped _ _ before after).1
  revert same
  decide +kernel

end Server

end Ckmux
