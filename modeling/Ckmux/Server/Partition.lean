import Mathlib
import Ckmux.Data.Ledger
import Ckmux.Server.ActRuns
import Ckmux.Server.AttachLaws

/-!
# Terminals and their sessions

The terminals a server has and the sessions' own lists of them are kept in step by every act,
as a ledger is: a session is settled or closed, a terminal enters one, leaves it or is shifted
to another. Terminals and sessions are numbered, and no number is given out again before the
counters have gone all the way round.
-/

namespace Ckmux

open Grammar (Bytes)
open Proto (Message typeOf)
open Data (Ledger Issues)
open Semantics (System)

/-- Dropping a terminal's layout keeps its id. -/
theorem Terminal.clearLayout_id (terminal : Terminal) : terminal.clearLayout.id = terminal.id := by
  unfold Terminal.clearLayout Terminal.setLayout
  split <;> rfl

/-- No deed changes the terminal's id. -/
theorem Deed.apply_id [Emulator] (terminal : Terminal) (deed : Deed) :
    (deed.apply terminal).id = terminal.id := by
  cases deed with
  | terminate | give | resize | override | clearDamage => rfl
  | lay =>
      dsimp only [Deed.apply, Terminal.setLayout]
      split <;> rfl
  | retitle =>
      dsimp only [Deed.apply, Terminal.setCustomTitle]
      split <;> rfl
  | observe | exit | emulate =>
      dsimp only [Deed.apply, Terminal.observeExit]
      repeat' split
      all_goals rfl
  | discard =>
      dsimp only [Deed.apply, Terminal.discardPrintJobs]
      repeat' split
      all_goals rfl

namespace Server

/-- The terminals there are, and what each session holds. -/
def ledger (server : Server) : Ledger TerminalId SessionId where
  items := server.terminals.map Terminal.id
  homes := server.sessions.map fun session => (session.id, session.terminals)

/-- The next numbers to give out. -/
def numbers (server : Server) : TerminalId × SessionId := (server.nextTerminal, server.nextSession)

/-- What an act may do to the ledger. -/
inductive Files (origin before after : Server) : Prop where
  | same (still : after.ledger = before.ledger) (numbers : after.numbers = before.numbers)
  | settle (first : before.nextSession = origin.nextSession)
      (settled : after.ledger = before.ledger.settle before.nextSession)
      (numbers : after.numbers = (before.nextTerminal, before.nextSession + 1))
  | enter {session : Session} (first : before.nextTerminal = origin.nextTerminal)
      (listed : session ∈ before.sessions)
      (entered : after.ledger = before.ledger.enter before.nextTerminal session.id)
      (numbers : after.numbers = (before.nextTerminal + 1, before.nextSession))
  | leave {session : Session} {term : TerminalId} (listed : session ∈ before.sessions)
      (held : term ∈ session.terminals) (left : after.ledger = before.ledger.leave term session.id)
      (numbers : after.numbers = before.numbers)
  | shift {source target : Session} {term : TerminalId} (listed : source ∈ before.sessions)
      (held : term ∈ source.terminals) (known : target ∈ before.sessions)
      (shifted : after.ledger = before.ledger.shift term source.id target.id)
      (numbers : after.numbers = before.numbers)
  | close {session : Session} (listed : session ∈ before.sessions)
      (closed : after.ledger = before.ledger.close session.id session.terminals)
      (numbers : after.numbers = before.numbers)

variable {origin server before after : Server}

/-- A listed session has its line in the ledger. -/
theorem ledger_home {session : Session} (listed : session ∈ server.sessions) :
    (session.id, session.terminals) ∈ server.ledger.homes :=
  List.mem_map.mpr ⟨session, listed, rfl⟩

/-- Terminals and sessions changed but for their numbers and their lists. -/
theorem ledger_eq (terminals : after.terminals.map Terminal.id = before.terminals.map Terminal.id)
    (sessions : (after.sessions.map fun session => (session.id, session.terminals)) =
      before.sessions.map fun session => (session.id, session.terminals)) :
    after.ledger = before.ledger := Ledger.ext terminals sessions

/-- A change that keeps a terminal's id keeps the list of ids. -/
theorem setTerminal_ids (server : Server) (id : TerminalId) {change : Terminal → Terminal}
    (kept : ∀ terminal ∈ server.terminals, terminal.id = id → (change terminal).id = terminal.id) :
    (server.setTerminal id change).terminals.map Terminal.id =
      server.terminals.map Terminal.id := by
  refine (List.map_map ..).trans (List.map_congr_left fun terminal there => ?_)
  dsimp only [Function.comp_apply]
  split
  · rename_i same
    exact kept terminal there same
  · rfl

/-- A session whose list is changed. -/
theorem setSession_homes (server : Server) (id : SessionId) {change : Session → Session}
    {relist : List TerminalId → List TerminalId}
    (changed : ∀ session, ((change session).id, (change session).terminals) =
      (session.id, relist session.terminals)) :
    ((server.setSession id change).sessions.map fun session => (session.id, session.terminals)) =
      Data.atHome id relist server.ledger.homes := by
  simp only [setSession, ledger, Data.atHome, List.map_map]
  refine List.map_congr_left fun session _ => ?_
  dsimp only [Function.comp_apply]
  split
  · exact changed session
  · rfl

/-- A session changed but for its number and its list. -/
theorem setSession_same (server : Server) (id : SessionId) {change : Session → Session}
    (kept : ∀ session, ((change session).id, (change session).terminals) =
      (session.id, session.terminals)) :
    ((server.setSession id change).sessions.map fun session => (session.id, session.terminals)) =
      server.sessions.map fun session => (session.id, session.terminals) := by
  refine (@setSession_homes server id _ (fun held => held) kept).trans ?_
  refine (List.map_congr_left fun home _ => ?_).trans (List.map_id _)
  split <;> rfl

/-- A terminal opened in a session there is. -/
theorem openTerminal_eq [Emulator] {id : SessionId} {home : Session}
    (found : server.sessionFor id = some home) (spec : TerminalSpec) :
    (server.openTerminal id spec).2 =
      { server with
        terminals := server.terminals ++ [Terminal.opened server.nextTerminal spec]
        nextTerminal := server.nextTerminal + 1 }.setSession home.id fun home =>
          { home with
            terminals := home.terminals ++ [server.nextTerminal]
            lastFocused := server.nextTerminal } := by
  have stored : ({ server with
      terminals := server.terminals ++ [Terminal.opened server.nextTerminal spec]
      nextTerminal := server.nextTerminal + 1 } : Server).sessionFor id = some home := found
  unfold openTerminal
  dsimp only
  rw [stored]
  rfl

/-- Closing a terminal strikes it from the ledger's items and nothing else. -/
theorem closeTerminal_ledger (server : Server) (id : TerminalId) :
    (server.closeTerminal id).ledger =
      { server.ledger with items := server.ledger.items.erase id } := by
  refine Ledger.ext ?_ rfl
  dsimp only [ledger, closeTerminal]
  rw [List.erase_eq_eraseP', List.eraseP_map]
  rfl

/-- Terminals given up one after another. -/
theorem closeTerminals_ledger (server : Server) (ids : List TerminalId) :
    (ids.foldl closeTerminal server).ledger =
      { server.ledger with items := server.ledger.items.diff ids } := by
  induction ids generalizing server with
  | nil => rfl
  | cons id ids ih => rw [List.foldl_cons, ih, closeTerminal_ledger, List.diff_cons]

/-- Closing terminals gives out no number. -/
theorem closeTerminals_numbers (server : Server) (ids : List TerminalId) :
    (ids.foldl closeTerminal server).numbers = server.numbers :=
  foldl_keeps Server.numbers ids (by exact fun _ _ => rfl) server

/-- Telling the clients gives out no number. -/
theorem Tells.numbers {news : ClientId → Message → Prop} {notes : Terminal → Terminal → Prop}
    (tells : Tells news notes before after) : after.numbers = before.numbers :=
  congrArg (fun rest : Untold => (rest.nextTerminal, rest.nextSession)) tells.rest

/-- Something told is filed nowhere. -/
theorem Tells.ledger {news : ClientId → Message → Prop} {notes : Terminal → Terminal → Prop}
    (tells : Tells news notes before after)
    (kept : ∀ one each, notes one each → each.id = one.id) : after.ledger = before.ledger :=
  ledger_eq (Data.paired_same kept tells.terminals) (by rw [tells.sessions])

/-- Forgetting a session strikes its home from the ledger. -/
theorem forgetSession_ledger (server : Server) (id : SessionId) (reason : Proto.DetachReason)
    (text : Bytes) :
    (server.forgetSession id reason text).ledger =
        { server.ledger with homes := server.ledger.homes.filter fun home => home.1 ≠ id } ∧
      (server.forgetSession id reason text).numbers = server.numbers := by
  obtain ⟨left, leaves, forgets⟩ := Tells.forgetSession server id reason text
  have same : ∀ one each : Terminal, one = each → each.id = one.id := fun _ _ same => same ▸ rfl
  refine ⟨(forgets.ledger same).trans ?_, forgets.numbers.trans leaves.numbers⟩
  rw [← leaves.ledger same]
  refine Ledger.ext rfl ?_
  dsimp only [Server.ledger]
  rw [List.filter_map]
  rfl

/-- Marking the focused terminal is a note on it. -/
theorem mark_noted (terminal : Terminal) (focused : Bool) :
    terminal.Noted (mark terminal focused) := by
  unfold mark Terminal.markActivity Terminal.markBell Terminal.clearMarks Terminal.countActivity
    Terminal.countBell
  dsimp only
  split <;> split <;> split
  all_goals repeat' split
  all_goals rfl

/-- Seating a client gives out no number. -/
theorem seat_numbers (server : Server) (id : ClientId) (request : Proto.Attach)
    (session : Session) : (server.seat id request session).numbers = server.numbers := by
  have taken : ∀ server : Server, (server.takeOver id session.id).numbers = server.numbers := by
    intro server
    unfold Server.takeOver
    split
    · rfl
    · split
      · rfl
      · rename_i previous _ _
        have told : Tells (fun _ _ => True) Eq server (server.detach previous.id .takeover
            (utf8 "taken over by another client on this machine")) := .detach server _ trivial
        exact told.numbers
  unfold Server.seat
  dsimp only
  split
  · exact taken _
  · rfl

/-- Whom a session is sent to, and what it is noted of, is filed nowhere. -/
theorem sendSnapshot_ledger [Emulator] (server : Server) (id : ClientId) :
    (server.sendSnapshot id).ledger = server.ledger ∧
      (server.sendSnapshot id).numbers = server.numbers := by
  cases found : server.client id with
  | none =>
      unfold Server.sendSnapshot
      rw [found]
      exact ⟨rfl, rfl⟩
  | some client =>
      have told := Tells.sendSnapshot found
      exact ⟨told.ledger fun _ _ flagged => flagged.noted.id, told.numbers⟩

/-- Everybody in some sessions told where the windows are. -/
theorem Tells.announceLayout (server : Server) (force : SessionId) :
    Tells (fun _ message => typeOf message = .layoutDelta) Terminal.Flagged server
      (server.announceLayout force) := by
  refine .foldl _ Terminal.Flagged.refl (fun _ _ _ first second => first.trans second) ?_
  refine fun middle _ session _ => (Tells.announceSessionLayout middle session _).mono ?_
    fun _ _ flagged => flagged
  rintro _ _ ⟨layout, _, rfl, _⟩
  rfl

/-- A terminal opened is told with one `TermOpened`. -/
theorem Tells.tellOpened (server : Server) (home : SessionId) (opened : Proto.TermOpened) :
    Tells (fun _ message => message = .termOpened opened) Eq server
      (server.tellOpened home opened) :=
  .forEachAttached home fun middle _ each => .say middle each rfl rfl

/-- Whatever is told of a terminal, and its marks, is noted, as the announcement of its printing
notes it. -/
theorem Tells.newsTold {news : ClientId → Message → Prop} {notes : Terminal → Terminal → Prop}
    (noted : ∀ one each, Terminal.Noted one each → notes one each)
    (composes : ∀ one other third, notes one other → notes other third → notes one third)
    (terminal : Terminal) (said : ∀ id message, tidings message = true → news id message)
    (prints : ∀ middle, Tells news notes server middle → ∀ watcher,
      Tells news notes middle (middle.announcePrinting terminal.id watcher)) :
    Tells news notes server (server.announceNews terminal) := by
  have same : ∀ terminal, notes terminal terminal := fun terminal => noted _ _ (.refl terminal)
  unfold Server.announceNews
  split
  · exact (refl server).noting same
  · rename_i home _
    have marked : Tells news notes server
        (server.setTerminal terminal.id fun terminal =>
          mark terminal (home.lastFocused = terminal.id)) :=
      setTerminal server terminal.id (fun terminal => noted _ _ (mark_noted terminal _)) same
    dsimp only
    split
    · exact marked
    · rename_i watcher _
      have marks : ∀ middle : Server, Tells news notes middle
          (middle.announceMarks terminal.id home watcher.id) := fun middle =>
        (announceMarks middle terminal.id home watcher.id (said _)).mono (fun _ _ said => said) noted
      have told := (marked.trans composes (marks _)).also
        (announceClipboard _ terminal.id watcher.id (said _))
      exact (told.trans composes (prints _ told watcher.id)).also
        (announceDiagnostic _ terminal.id watcher.id (said _))

/-- A terminal's news is told in the messages of news. -/
theorem Tells.announceNews {news : ClientId → Message → Prop}
    (distinct : (server.terminals.map Terminal.id).Nodup) (terminal : Terminal)
    (said : ∀ id message, tidings message = true → news id message) :
    Tells news Terminal.Noted server (server.announceNews terminal) := by
  refine newsTold (fun _ _ noted => noted) (fun _ _ _ => Terminal.Noted.trans) terminal said ?_
  intro middle told watcher
  have ids : (middle.terminals.map Terminal.id).Nodup := by
    rwa [Data.paired_same (fun _ _ noted => noted.id) told.terminals]
  exact announcePrinting ids terminal.id watcher (said _)

/-- What is told of a terminal, wherever it is. -/
theorem Tells.newsOf {news : ClientId → Message → Prop} (server : Server) (terminal : Terminal)
    (said : ∀ id message, tidings message = true → news id message) :
    Tells news (fun _ _ => True) server (server.announceNews terminal) := by
  refine newsTold (fun _ _ _ => trivial) (fun _ _ _ _ _ => trivial) terminal said ?_
  intro middle _ watcher
  refine printing terminal.id watcher (fun _ => trivial) (fun _ _ _ => ?_) (said _)
  exact setTerminal middle terminal.id (fun _ => trivial) fun _ => trivial

namespace Files

/-- Something told afterwards. -/
theorem also {middle : Server} (files : Files origin before middle)
    (still : after.ledger = middle.ledger) (numbers : after.numbers = middle.numbers) :
    Files origin before after := by
  cases files with
  | same same number => exact .same (still.trans same) (numbers.trans number)
  | settle first settled number =>
      exact .settle first (still.trans settled) (numbers.trans number)
  | enter first listed entered number =>
      exact .enter first listed (still.trans entered) (numbers.trans number)
  | leave listed held left number =>
      exact .leave listed held (still.trans left) (numbers.trans number)
  | shift listed held known shifted number =>
      exact .shift listed held known (still.trans shifted) (numbers.trans number)
  | close listed closed number =>
      exact .close listed (still.trans closed) (numbers.trans number)

/-- A terminal opened is filed in its session under the next number. -/
theorem opens [Emulator] (id : SessionId) (spec : TerminalSpec) {home : Session}
    (first : before.nextTerminal = origin.nextTerminal)
    (found : before.sessionFor id = some home) :
    Files origin before (before.openTerminal id spec).2 := by
  rw [openTerminal_eq found spec]
  refine .enter first (List.mem_of_find?_eq_some found) (Ledger.ext (List.map_append ..) ?_) rfl
  exact @setSession_homes _ home.id _ (fun held => held ++ [before.nextTerminal]) fun _ => rfl

/-- A relaunched terminal keeps its number and its session. -/
theorem relaunched [Emulator] (server : Server) (term : TerminalId) :
    Files origin server (server.relaunch term) :=
  .same (ledger_eq (setTerminal_ids server term (by exact fun _ _ _ => rfl)) rfl) rfl

/-- What a client types files nothing. -/
theorem typed (server : Server) (id : ClientId) (given : Proto.Input) :
    Files origin server (server.input id given) := by
  unfold Server.input
  split
  · exact .same rfl rfl
  · have told : Files origin server ((server.setTerminal given.term fun terminal =>
        terminal.ask (.input given.bytes)).setClient id fun client =>
          { client with focused := given.term }) :=
      .same (ledger_eq (setTerminal_ids server given.term (by exact fun _ _ _ => rfl)) rfl) rfl
    dsimp only
    split
    · exact told
    · refine told.also (ledger_eq rfl ?_) rfl
      exact setSession_same _ _ (by exact fun _ => rfl)

/-- What every act does to the ledger. -/
theorem act [CkVision] [Emulator] {event : ServerEvent} (kept : before.ledger.Kept)
    (act : Act origin event before after) : Files origin before after := by
  cases act with
  | speak told => exact .same (told.ledger fun _ _ same => same ▸ rfl) told.numbers
  | @fetch id request _ job =>
      have told := Tells.sendChunks origin id (printJobData request.term job)
      exact .same (told.ledger fun _ _ same => same ▸ rfl) told.numbers
  | connect | sweep | wait | closes | kills => exact .same rfl rfl
  | create named =>
      exact .settle named.2.1 (Ledger.ext rfl (List.map_append ..)) rfl
  | @rename _ name session _ _ =>
      refine .same (ledger_eq rfl ?_) rfl
      exact setSession_same before session.id fun _ => rfl
  | @print _ id _ =>
      refine .same (ledger_eq rfl ?_) rfl
      exact setSession_same before id fun _ => rfl
  | @reshape _ session wanted asked =>
      unfold Server.changeDesktop
      split
      · exact .same rfl rfl
      · have told := Tells.announceLayout
          (before.setSession session.id fun session => { session with desktop := wanted }) session.id
        have sized : Files origin before
            (before.setSession session.id fun session => { session with desktop := wanted }) :=
          .same (ledger_eq rfl (setSession_same before session.id (by exact fun _ => rfl))) rfl
        exact sized.also (told.ledger fun _ _ flagged => flagged.noted.id) told.numbers
  | forget found empty =>
      obtain ⟨ledger, numbers⟩ := forgetSession_ledger before _ _ _
      refine .close (List.mem_of_find?_eq_some found) (ledger.trans ?_) numbers
      rw [Ledger.close, empty, List.diff_nil]
  | @bury _ session text due =>
      obtain ⟨_, _, _, found, _⟩ := due
      obtain ⟨ledger, numbers⟩ := forgetSession_ledger (session.terminals.foldl closeTerminal before)
        session.id .sessionKilled text
      refine .close (List.mem_of_find?_eq_some found) (ledger.trans ?_)
        (numbers.trans (closeTerminals_numbers ..))
      rw [closeTerminals_ledger]
      rfl
  | spawn asked made found first => exact opens _ _ first found
  | @opens _ home spec columns rows _ _ asked found first =>
      have told := Tells.tellOpened (before.openTerminal home.id spec).2 home.id
        { term := before.nextTerminal, session := home.id, columns := columns, rows := rows }
      exact also (opens _ _ first found) (told.ledger fun _ _ same => same ▸ rfl) told.numbers
  | @respawn _ terminal => exact relaunched before terminal.id
  | @respawnIn _ terminal home _ _ columns rows =>
      have told := Tells.tellOpened (before.relaunch terminal.id) home.id
        { term := terminal.id, session := home.id, columns := columns, rows := rows }
      exact (relaunched before terminal.id).also (told.ledger fun _ _ same => same ▸ rfl)
        told.numbers
  | @rehome _ term source target _ _ asked named known holds found apart =>
      have held := List.find?_some holds
      refine .shift (List.mem_of_find?_eq_some holds) (of_decide_eq_true held)
        (List.mem_of_find?_eq_some found) (Ledger.ext ?_ ?_) rfl
      · exact setTerminal_ids _ term (by exact fun terminal _ _ => Terminal.clearLayout_id terminal)
      · refine (@setSession_homes _ target.id _ (fun held => held ++ [term])
          fun _ => rfl).trans ?_
        refine congrArg (Data.atHome target.id fun held => held ++ [term]) ?_
        exact setSession_homes before source.id (by exact fun _ => rfl)
  | @takeOut _ term home ends holds =>
      have held := List.find?_some holds
      refine .leave (List.mem_of_find?_eq_some holds) (of_decide_eq_true held)
        (Ledger.ext ?_ ?_) rfl
      · have items := congrArg Ledger.items (closeTerminal_ledger before term)
        exact items
      · exact setSession_homes (before.closeTerminal term) home.id (by exact fun _ => rfl)
  | @lose _ term ends homeless =>
      have absent : term ∉ before.ledger.items := by
        intro there
        obtain ⟨home, listed, among⟩ := kept.item_home there
        obtain ⟨session, here, rfl⟩ := List.mem_map.mp listed
        have none := List.find?_eq_none.mp homeless session here
        exact none (decide_eq_true among)
      refine .same ?_ rfl
      rw [closeTerminal_ledger, List.erase_of_not_mem absent]
  | @deed _ term deed change meant does =>
      refine .same (ledger_eq (setTerminal_ids before term fun terminal there named => ?_) rfl) rfl
      have only := Data.find_of_mem kept.distinct there
      rw [does terminal (named ▸ only)]
      exact deed.apply_id terminal
  | @kill _ term due =>
      exact .same (ledger_eq (setTerminal_ids before term (by exact fun _ _ _ => rfl)) rfl) rfl
  | policies => exact .same (ledger_eq (List.map_map ..) rfl) rfl
  | observed ticks =>
      refine .same (ledger_eq ((List.map_map ..).trans ?_) rfl) rfl
      exact List.map_congr_left fun terminal _ => Deed.apply_id terminal .observe
  | types asked => exact typed ..
  | @welcome _ id request session asked found =>
      obtain ⟨terminals, _, sessions⟩ := seat_terminals before id request session
      obtain ⟨ledger, numbers⟩ := sendSnapshot_ledger (before.seat id request session) id
      refine also (.same (ledger_eq (by rw [terminals]) ?_) (seat_numbers ..)) ledger numbers
      rw [sessions]
      exact setSession_same before session.id fun _ => rfl
  | heal ticks found =>
      obtain ⟨ledger, numbers⟩ := sendSnapshot_ledger before _
      exact .same ledger numbers
  | @news _ terminal ticks found =>
      have told := Tells.announceNews kept.distinct terminal fun _ _ => places_of_tidings
      exact .same (told.ledger fun _ _ noted => noted.id) told.numbers
  | @layout _ session ticks listed =>
      have told := Tells.announceSessionLayout before session false
      exact .same (told.ledger fun _ _ flagged => flagged.noted.id) told.numbers

end Files

/-! ### What a reachable server has given out -/

/-- Whether there is a number left for another terminal, and for another session. -/
def Unspent (server : Server) : Prop :=
  server.nextTerminal.toNat + 1 < 2 ^ 64 ∧ server.nextSession.toNat + 1 < 2 ^ 64

instance (server : Server) : Decidable server.Unspent := inferInstanceAs (Decidable (_ ∧ _))

/-- The ledger kept, and every number in it given out before. -/
structure Filed (server : Server) : Prop where
  kept : server.ledger.Kept
  terminals : ∀ term ∈ server.ledger.items, term < server.nextTerminal
  sessions : ∀ home ∈ server.ledger.homes.map Prod.fst, home < server.nextSession

/-- What a step may have become of the ledger, and of the numbers to give out. -/
structure Moved (origin server : Server) : Prop where
  filed : server.ledger.Kept
  terminals : Issues origin.nextTerminal server.nextTerminal origin.ledger.items server.ledger.items
  sessions : Issues origin.nextSession server.nextSession (origin.ledger.homes.map Prod.fst)
    (server.ledger.homes.map Prod.fst)

/-- What one step files keeps the account of what has been filed since. -/
theorem Moved.file (unspent : origin.Unspent) (early : origin.Filed) (moved : origin.Moved before)
    (files : Files origin before after) : origin.Moved after := by
  have no_terminal : before.nextTerminal ∉ before.ledger.items := fun there =>
    UInt64.lt_irrefl _ ((moved.terminals.below unspent.1 early.terminals).2 _ there)
  have no_session : before.nextSession ∉ before.ledger.homes.map Prod.fst := fun there =>
    UInt64.lt_irrefl _ ((moved.sessions.below unspent.2 early.sessions).2 _ there)
  obtain ⟨kept, terminals, sessions⟩ := moved
  cases files with
  | same still numbers =>
      injection numbers with terminal session
      rw [← still] at kept
      rw [← still, ← terminal] at terminals
      rw [← still, ← session] at sessions
      exact ⟨kept, terminals, sessions⟩
  | settle first settled numbers =>
      injection numbers with terminal session
      have issued := sessions.give first
      refine ⟨settled ▸ kept.settle no_session, ?_, ?_⟩
      · rw [terminal, settled]
        exact terminals
      · rw [session, settled, Ledger.settle, List.map_append]
        exact issued
  | enter first listed entered numbers =>
      injection numbers with terminal session
      refine ⟨entered ▸ kept.enter (ledger_home listed) no_terminal, ?_, ?_⟩
      · rw [terminal, entered]
        exact terminals.give first
      · rw [session, entered, Ledger.enter, Data.atHome_keys]
        exact sessions
  | leave listed held left numbers =>
      injection numbers with terminal session
      refine ⟨left ▸ kept.leave (ledger_home listed) held, ?_, ?_⟩
      · rw [terminal, left]
        exact terminals.lose List.erase_sublist
      · rw [session, left, Ledger.leave, Data.atHome_keys]
        exact sessions
  | shift listed held known shifted numbers =>
      injection numbers with terminal session
      have target := List.mem_map_of_mem (f := Prod.fst) (ledger_home known)
      refine ⟨shifted ▸ kept.shift (ledger_home listed) held target, ?_, ?_⟩
      · rw [terminal, shifted]
        exact terminals
      · rw [session, shifted, Ledger.shift, Data.atHome_keys, Data.atHome_keys]
        exact sessions
  | close listed closed numbers =>
      injection numbers with terminal session
      refine ⟨closed ▸ kept.close (ledger_home listed), ?_, ?_⟩
      · rw [terminal, closed]
        exact terminals.lose (List.diff_sublist ..)
      · rw [session, closed]
        exact sessions.lose (List.filter_sublist.map Prod.fst)

/-- A step keeps the ledger, and gives no number out again. -/
theorem Filed.step [CkVision] [Emulator] (filed : server.Filed) (unspent : server.Unspent)
    (event : ServerEvent) : server.Moved (server.step event) ∧ (server.step event).Filed := by
  have moved : server.Moved (server.step event) :=
    @Acts.keep _ _ (fun after => server.Moved after) _ _
      (fun _ _ _ moved act => moved.file unspent filed (Files.act moved.filed act))
      ⟨filed.kept, .refl .., .refl ..⟩
  exact ⟨moved, moved.filed, (moved.terminals.below unspent.1 filed.terminals).2,
    (moved.sessions.below unspent.2 filed.sessions).2⟩

end Server

/-- The server while there are numbers left. -/
def numberedSystem [CkVision] [Emulator] : System Server ServerEvent :=
  serverSystem.guarded fun server _ => server.Unspent

instance [CkVision] [Emulator] (server : Server) (event : ServerEvent) :
    Decidable (numberedSystem.allows server event) :=
  inferInstanceAs (Decidable (serverSystem.allows server event ∧ server.Unspent))

namespace Server

variable [CkVision] [Emulator]

/-- A fresh server has nothing to file. -/
theorem Filed.start {server : Server} (fresh : serverSystem.initial server) : server.Filed := by
  obtain ⟨settings, kernel, now, rfl⟩ := fresh
  exact ⟨⟨.nil, .nil, .refl _⟩, fun _ there => absurd there List.not_mem_nil,
    fun _ there => absurd there List.not_mem_nil⟩

/-- Every server reached while there are numbers left keeps its ledger. -/
theorem reachable_filed {server : Server} (reached : numberedSystem.Reachable server) :
    server.Filed :=
  @System.Reachable.invariant _ _ numberedSystem (fun server => server.Filed)
    (fun _ fresh => .start fresh)
    (fun _ event filed allowed => (filed.step allowed.2 event).2) _ reached

/-- Whatever is there later was there before, or has a number that had not been given out. -/
theorem Filed.later {server : Server} (filed : server.Filed) {events : List ServerEvent}
    (allowed : numberedSystem.AllowsAll server events) :
    let later := events.foldl Server.step server
    later.Filed ∧
      (server.nextTerminal ≤ later.nextTerminal ∧
        ∀ term ∈ later.ledger.items, term ∈ server.ledger.items ∨ server.nextTerminal ≤ term) ∧
      server.nextSession ≤ later.nextSession ∧
        ∀ id ∈ later.ledger.homes.map Prod.fst,
          id ∈ server.ledger.homes.map Prod.fst ∨ server.nextSession ≤ id := by
  induction events generalizing server with
  | nil => exact ⟨filed, ⟨UInt64.le_refl _, fun _ => .inl⟩, UInt64.le_refl _, fun _ => .inl⟩
  | cons event events ih =>
      obtain ⟨now, rest⟩ := allowed
      obtain ⟨moved, after⟩ := filed.step now.2 event
      obtain ⟨done, ⟨further, terminals⟩, beyond, sessions⟩ := ih after rest
      have terminal_on := (moved.terminals.below now.2.1 filed.terminals).1
      have session_on := (moved.sessions.below now.2.2 filed.sessions).1
      refine ⟨done, ⟨UInt64.le_trans terminal_on further, ?_⟩,
        UInt64.le_trans session_on beyond, ?_⟩
      · intro term there
        rcases terminals term there with was | fresh
        · exact (moved.terminals.known was).imp_right fun same => UInt64.le_of_eq same.symm
        · exact .inr (UInt64.le_trans terminal_on fresh)
      · intro id there
        rcases sessions id there with was | fresh
        · exact (moved.sessions.known was).imp_right fun same => UInt64.le_of_eq same.symm
        · exact .inr (UInt64.le_trans session_on fresh)

end Server

/-- Every terminal in one session's list, once, and nothing else in the lists. -/
structure Server.Partitioned (server : Server) : Prop where
  terminals : (server.terminals.map Terminal.id).Nodup
  sessions : (server.sessions.map Session.id).Nodup
  once : ∀ session ∈ server.sessions, session.terminals.Nodup
  homed : ∀ terminal ∈ server.terminals,
    ∃! session, session ∈ server.sessions ∧ terminal.id ∈ session.terminals
  known : ∀ session ∈ server.sessions, ∀ term ∈ session.terminals,
    ∃ terminal ∈ server.terminals, terminal.id = term

/-- Whether a step gives out at most the next number to a terminal, and to a session. -/
structure Server.GivesInTurn (before after : Server) : Prop where
  terminals : Issues before.nextTerminal after.nextTerminal (before.terminals.map Terminal.id)
    (after.terminals.map Terminal.id)
  sessions : Issues before.nextSession after.nextSession (before.sessions.map Session.id)
    (after.sessions.map Session.id)

/-- Whether what is gone after some events is gone for good. -/
def Server.NeverAgain [CkVision] [Emulator] (server : Server) (events more : List ServerEvent) :
    Prop :=
  let after := events.foldl Server.step server
  let later := more.foldl Server.step after
  (∀ term ∈ server.terminals.map Terminal.id, term ∉ after.terminals.map Terminal.id →
    term ∉ later.terminals.map Terminal.id) ∧
  ∀ id ∈ server.sessions.map Session.id, id ∉ after.sessions.map Session.id →
    id ∉ later.sessions.map Session.id

namespace Server

variable {server : Server}

/-- The ledger's homes are the sessions. -/
@[simp] theorem ledger_keys (server : Server) :
    server.ledger.homes.map Prod.fst = server.sessions.map Session.id := by
  rw [ledger, List.map_map]
  rfl

/-- A filed server's sessions share its terminals out among them. -/
theorem Filed.partitioned (filed : server.Filed) : server.Partitioned where
  terminals := filed.kept.distinct
  sessions := ledger_keys server ▸ filed.kept.apart
  once session listed := by
    have listed : session.terminals ∈ server.ledger.homes.map Prod.snd :=
      List.mem_map_of_mem (f := Prod.snd) (ledger_home listed)
    have nodup := filed.kept.held.nodup_iff.mpr filed.kept.distinct
    exact (List.nodup_flatten.mp (List.flatMap_def ▸ nodup)).1 _ listed
  homed terminal there := by
    obtain ⟨home, listed, among⟩ := filed.kept.item_home (List.mem_map_of_mem there)
    obtain ⟨session, here, rfl⟩ := List.mem_map.mp listed
    refine ⟨session, ⟨here, among⟩, ?_⟩
    rintro other ⟨elsewhere, too⟩
    have same := filed.kept.same_home (ledger_home elsewhere) too listed among
    exact List.inj_on_of_nodup_map (ledger_keys server ▸ filed.kept.apart) elsewhere here
      (congrArg Prod.fst same)
  known session listed term held := by
    have there := filed.kept.home_item (ledger_home listed) held
    exact List.mem_map.mp there

variable [CkVision] [Emulator]

/-- No number given out so far is given out again. -/
theorem Filed.neverAgain (filed : server.Filed) {events more : List ServerEvent}
    (allowed : numberedSystem.AllowsAll server (events ++ more)) :
    server.NeverAgain events more := by
  obtain ⟨first, second⟩ := System.AllowsAll.append.mp allowed
  obtain ⟨after, ⟨terminals, _⟩, sessions, _⟩ := filed.later first
  obtain ⟨_, ⟨_, later_terminals⟩, _, later_sessions⟩ := after.later second
  rw [ledger_keys, ledger_keys] at later_sessions
  constructor
  · intro term was gone again
    rcases later_terminals term again with still | fresh
    · exact gone still
    · exact absurd (UInt64.lt_of_lt_of_le (filed.terminals term was) terminals)
        (UInt64.not_lt.mpr fresh)
  · intro id was gone again
    rcases later_sessions id again with still | fresh
    · exact gone still
    · have early := filed.sessions id (by rwa [ledger_keys])
      exact absurd (UInt64.lt_of_lt_of_le early sessions) (UInt64.not_lt.mpr fresh)

/-- Terminals and sessions partition, while there are numbers left: every terminal is in one
session's list once, the lists hold nothing else, and no number is given out again. -/
theorem terminals_partitioned (reached : numberedSystem.Reachable server) :
    server.Partitioned ∧
      (∀ term ∈ server.terminals.map Terminal.id, term < server.nextTerminal) ∧
      (∀ id ∈ server.sessions.map Session.id, id < server.nextSession) ∧
      (∀ event, server.Unspent → server.GivesInTurn (server.step event)) ∧
      ∀ events more, numberedSystem.AllowsAll server (events ++ more) →
        server.NeverAgain events more := by
  have filed := reachable_filed reached
  refine ⟨filed.partitioned, filed.terminals, ledger_keys server ▸ filed.sessions, ?_,
    fun _ _ allowed => filed.neverAgain allowed⟩
  intro event unspent
  obtain ⟨moved, _⟩ := filed.step unspent event
  have sessions := moved.sessions
  rw [ledger_keys, ledger_keys] at sessions
  exact ⟨moved.terminals, sessions⟩

end Server

/-! ### Two sessions that become one -/

/-- One opens two terminals, makes another session with a terminal in it and moves its second there. -/
def pairEvents : List ServerEvent :=
  [.connect, .message 1 hello, .message 1 (.attach { attachTo .takeOver with session := 0 }),
    .message 1 (.newTerminal {}), .message 1 (.newTerminal {}),
    .message 1 (.newSession { name := utf8 "other" }),
    .message 1 (.moveTerminal { term := 2, destinationSession := 2 })]

/-- The server with its two sessions. -/
def pairServer : Server := pairEvents.foldl (@serverSystem asciiVision blankEmulator).step freshServer

/-- Then the first goes there too, which leaves nothing of its session. -/
def joinEvents : List ServerEvent := [.message 1 (.moveTerminal { term := 1, destinationSession := 2 })]

/-- One session more. -/
def anotherSession : ServerEvent := .message 1 (.newSession {})

/-- The pair of terminals, and what follows, is a run. -/
theorem pairEvents_allowed :
    (@numberedSystem asciiVision blankEmulator).AllowsAll freshServer
      (pairEvents ++ (joinEvents ++ [anotherSession])) := by
  decide +kernel

namespace Server

/-- Three terminals are in two sessions and then in one, and the number of the session that is gone is
not given to the next. -/
theorem terminals_partitioned_pair :
    (pairServer.ledger.homes = [(1, [1]), (2, [3, 2])] ∧ pairServer.Partitioned ∧
      pairServer.GivesInTurn (@Server.step asciiVision blankEmulator pairServer anotherSession)) ∧
    (joinEvents.foldl (@Server.step asciiVision blankEmulator) pairServer).ledger.homes =
      [(2, [3, 2, 1])] ∧
    @NeverAgain asciiVision blankEmulator pairServer joinEvents [anotherSession] := by
  have there : pairServer.ledger.homes = [(1, [1]), (2, [3, 2])] ∧ pairServer.Unspent ∧
      (joinEvents.foldl (@Server.step asciiVision blankEmulator) pairServer).ledger.homes =
        [(2, [3, 2, 1])] := by
    decide +kernel
  obtain ⟨homes, unspent, joined⟩ := there
  have fresh : (@numberedSystem asciiVision blankEmulator).Reachable freshServer :=
    .start ⟨{}, _, 0, rfl⟩
  obtain ⟨before, behind⟩ := System.AllowsAll.append.mp pairEvents_allowed
  obtain ⟨partitioned, _, _, gives, never⟩ :=
    @terminals_partitioned _ asciiVision blankEmulator (fresh.follow pairEvents before)
  exact ⟨⟨homes, partitioned, gives anotherSession unspent⟩, joined, never _ _ behind⟩

end Server

/-! ### A counter that goes all the way round -/

/-- A command line that makes a session with a terminal in it. -/
def roamEvents : List ServerEvent :=
  [.connect, .message 1 (.hello { protoVersion := Proto.kProtocolVersion, clientKind := .cli }),
    .message 1 (.newSession {})]

/-- The server with the terminal that is to roam. -/
def roamServer : Server := roamEvents.foldl (@serverSystem asciiVision blankEmulator).step freshServer

/-- Its terminal into a session of its own once more. -/
def roamOn : ServerEvent := .message 1 (.moveTerminal { term := 1, toNewSession := 1 })

/-- What it depends on whether a client is heard, and what it is told of sessions. -/
structure Manner where
  id : ClientId
  mismatched : Bool
  greeted : Bool
  mode : AttachMode
  attached : Bool
  closing : Bool
  isOpen : Bool
  kind : Proto.ClientKind
  waits : SessionId
deriving DecidableEq

/-- What the sessions depend on in a client. -/
def Client.manner (client : Client) : Manner where
  id := client.id
  mismatched := client.awaitingKillFromMismatchedCli
  greeted := client.greeted
  mode := client.mode
  attached := client.attached
  closing := client.closing
  isOpen := client.stream.isOpen
  kind := client.kind
  waits := client.awaitingSessionRemoval

/-- A command line, and one terminal in the session of some number. -/
structure Server.Roams (server : Server) (number : UInt64) : Prop where
  clients : server.clients.map Client.manner =
    [⟨1, false, true, .takeOver, false, false, true, .cli, 0⟩]
  ledger : server.ledger = ⟨[1], [(number, [1])]⟩
  next : server.nextSession = number + 1
  tidies : server.settings.killEmptySession = true

namespace Server

variable {server : Server} {number : UInt64}

/-- What does nothing at each turn of a round does nothing. -/
theorem foldl_idle {Item : Type} (items : List Item) {act : Server → Item → Server}
    (idle : ∀ item ∈ items, act server item = server) : items.foldl act server = server := by
  induction items with
  | nil => rfl
  | cons item items ih =>
      rw [List.foldl_cons, idle item List.mem_cons_self]
      exact ih fun item among => idle item (List.mem_cons_of_mem _ among)

/-- Whether nobody is attached, and nobody waits for a list. -/
def Deserted (server : Server) : Prop :=
  ∀ client ∈ server.clients, client.attached = false ∧ client.kind = .cli ∧
    client.awaitingSessionRemoval = 0

/-- With nobody attached, nothing is done for those attached. -/
theorem Deserted.forEachAttached (deserted : server.Deserted) (id : SessionId)
    (act : Server → ClientId → Server) : server.forEachAttached id act = server := by
  refine foldl_idle _ fun each _ => ?_
  split
  · rfl
  · rename_i client found
    have reads : client.reads id = false := by
      rw [Client.reads, (deserted client (client_mem found)).1]
      rfl
    rw [if_neg (by rw [reads]; decide)]

/-- With nobody to tell, the session list is only marked as told. -/
theorem Deserted.broadcastSessionList (deserted : server.Deserted) :
    server.broadcastSessionList none = { server with sessionListDirty := false } := by
  refine foldl_idle _ fun each _ => ?_
  split
  · rfl
  · rename_i client found
    obtain ⟨_, kind, waits⟩ := deserted client (client_mem found)
    rw [if_neg (by simp [kind, waits])]

/-- A session forgotten that nobody is in. -/
theorem Deserted.forgetSession (deserted : server.Deserted) (id : SessionId)
    (reason : Proto.DetachReason) (text : Bytes) :
    ∃ running, server.forgetSession id reason text =
      { server with
        sessions := server.sessions.filter fun session => session.id ≠ id
        sessionListDirty := false
        running := running } := by
  have forgotten : ({ server with
      sessions := server.sessions.filter fun session => session.id ≠ id } : Server).Deserted :=
    deserted
  unfold Server.forgetSession
  dsimp only
  rw [foldl_idle (server.clients.map Client.id), forgotten.broadcastSessionList]
  · split
    · exact ⟨false, rfl⟩
    · exact ⟨server.running, rfl⟩
  · intro each _
    split
    · rfl
    · rename_i client found
      rw [if_neg (by simp [(deserted client (client_mem found)).1])]

/-- The last terminal of a session moved into another while nobody looks. -/
theorem Deserted.moveInto (deserted : server.Deserted)
    (tidies : server.settings.killEmptySession = true) {term : TerminalId} {source target : Session}
    (held : source.terminals = [term]) (fresh : target.terminals = [])
    (apart : source.id ≠ target.id) (sessions : server.sessions = [source, target]) :
    let after := server.moveInto term source.id target.id
    after.clients = server.clients ∧ after.ledger =
        ⟨server.terminals.map Terminal.id, [(target.id, [term])]⟩ ∧
      after.nextSession = server.nextSession ∧ after.settings = server.settings := by
  have told : ∀ (closed : Proto.TermClosed) (placed : Server), placed.clients = server.clients →
      ((placed.forEachAttached source.id fun server each =>
        server.send each (.termClosed closed)).forEachAttached target.id fun server each =>
          server.setClient each Client.fallBehind).broadcastSessionList none =
        { placed with sessionListDirty := false } := by
    intro closed placed same
    have alone : placed.Deserted := by rwa [Deserted, same]
    rw [alone.forEachAttached, alone.forEachAttached, alone.broadcastSessionList]
  obtain ⟨moved, is⟩ : ∃ moved, moved = ((({ server with
      closes := server.closes.filter fun pending => pending.term ≠ term } : Server).setSession
        source.id fun session =>
          { session with terminals := session.terminals.filter fun id => id ≠ term }).setSession
        target.id fun session =>
          { session with terminals := session.terminals ++ [term] }).setTerminal term
            Terminal.clearLayout := ⟨_, rfl⟩
  have placed : moved.sessions = [{ source with terminals := [] }, { target with terminals := [term] }] := by
    rw [is]
    simp [setTerminal, setSession, sessions, held, fresh, apart, apart.symm]
  have ids : moved.terminals.map Terminal.id = server.terminals.map Terminal.id := by
    rw [is]
    exact setTerminal_ids server term (by exact fun terminal _ _ => Terminal.clearLayout_id terminal)
  have others : (moved.clients, moved.nextSession, moved.settings) =
      (server.clients, server.nextSession, server.settings) := by
    rw [is]
    rfl
  injection others with clients others
  injection others with next settings
  have alone : ({ moved with sessionListDirty := false } : Server).Deserted := by
    rw [Deserted, clients]
    exact deserted
  obtain ⟨running, forgotten⟩ := alone.forgetSession source.id .sessionKilled
    (utf8 "its last terminal moved away")
  have found : ({ moved with sessionListDirty := false } : Server).sessionFor source.id =
      some { source with terminals := [] } := by simp [sessionFor, placed]
  unfold Server.moveInto
  dsimp only
  rw [← is, told _ moved clients, found, if_pos ⟨rfl, by rw [settings, tidies]⟩, forgotten]
  refine ⟨clients, Ledger.ext ids ?_, next, settings⟩
  simp [ledger, placed, apart.symm]

/-- The command line is attached to nothing. -/
theorem Roams.deserted (roams : server.Roams number) : server.Deserted := by
  intro client there
  have among := List.mem_map_of_mem (f := Client.manner) there
  rw [roams.clients, List.mem_singleton] at among
  simp only [Client.manner, Manner.mk.injEq] at among
  exact ⟨among.2.2.2.2.1, among.2.2.2.2.2.2.2⟩

/-- One terminal in a session of its own, moved into another of its own. -/
theorem Roams.roam (roams : server.Roams number) :
    server.hears 1 ∧ (@Server.step asciiVision blankEmulator server roamOn).Roams (number + 1) := by
  obtain ⟨client, clients, manner⟩ := List.map_eq_singleton_iff.mp roams.clients
  simp only [Client.manner, Manner.mk.injEq] at manner
  obtain ⟨id, matched, greeted, mode, _, closing, isOpen, _⟩ := manner
  have found : server.client 1 = some client := by simp [Server.client, clients, id]
  refine ⟨⟨client, found, isOpen, by simp [closing]⟩, ?_⟩
  have items := congrArg Ledger.items roams.ledger
  have homes := congrArg Ledger.homes roams.ledger
  obtain ⟨terminal, terminals, named⟩ := List.map_eq_singleton_iff.mp items
  obtain ⟨session, sessions, home⟩ := List.map_eq_singleton_iff.mp homes
  obtain ⟨numbered, held⟩ := Prod.mk.inj home
  have carried : @Server.step asciiVision blankEmulator server roamOn =
      (server.createSession []).2.moveInto 1 session.id (server.createSession []).1.id := by
    have there : server.terminal 1 = some terminal := by simp [Server.terminal, terminals, named]
    have holds : server.sessionHolding 1 = some session := by
      simp [sessionHolding, sessions, held]
    simp [Server.step, roamOn, Server.handle, found, matched, greeted, Client.watching, mode,
      Server.act, Server.moveTerminal, there, holds]
  rw [carried]
  have made : (server.createSession []).2.Deserted := roams.deserted
  have apart : session.id ≠ (server.createSession []).1.id := by
    rw [numbered]
    exact fun same => absurd (left_eq_add.mp (same.trans roams.next)) (by decide)
  obtain ⟨same, ledger, next, settings⟩ := made.moveInto roams.tidies held rfl apart
    (by rw [createSession, sessions]; rfl)
  refine ⟨?_, ledger.trans ?_, next.trans ?_, ?_⟩
  · rw [same]
    exact roams.clients
  · rw [← roams.next]
    exact congrArg (fun ids => Ledger.mk ids [(server.nextSession, [1])]) items
  · rw [← roams.next]
    rfl
  · rw [settings]
    exact roams.tidies

/-- However often it is moved, so many numbers are given out. -/
theorem Roams.follow (roams : server.Roams number) (times : Nat) :
    (@serverSystem asciiVision blankEmulator).AllowsAll server (List.replicate times roamOn) ∧
      ((List.replicate times roamOn).foldl (@Server.step asciiVision blankEmulator) server).Roams
        (number + UInt64.ofNat times) := by
  induction times generalizing server number with
  | zero => exact ⟨trivial, by simpa using roams⟩
  | succ times ih =>
      obtain ⟨hears, moved⟩ := roams.roam
      obtain ⟨allowed, after⟩ := ih moved
      refine ⟨⟨hears, allowed⟩, ?_⟩
      have counted : number + 1 + UInt64.ofNat times = number + UInt64.ofNat (times + 1) := by
        rw [UInt64.ofNat_add, add_assoc, add_comm (UInt64.ofNat times)]
        rfl
      exact counted ▸ after

/-- They are a run. -/
theorem roamEvents_allowed :
    (@numberedSystem asciiVision blankEmulator).AllowsAll freshServer roamEvents := by
  decide +kernel

/-- The server is reached. -/
theorem roamServer_reached : (@numberedSystem asciiVision blankEmulator).Reachable roamServer := by
  have fresh : (@numberedSystem asciiVision blankEmulator).Reachable freshServer :=
    .start ⟨{}, _, 0, rfl⟩
  exact fresh.follow roamEvents roamEvents_allowed

/-- The terminal starts in the first session. -/
theorem roamServer_roams : roamServer.Roams 1 where
  clients := by decide +kernel
  ledger := Ledger.ext (by decide +kernel) (by decide +kernel)
  next := by decide +kernel
  tidies := by decide +kernel

/-- Once the counter has gone all the way round, a session has the number of another. -/
theorem number_given_again :
    (@serverSystem asciiVision blankEmulator).Reachable roamServer ∧
      (@serverSystem asciiVision blankEmulator).AllowsAll roamServer
        ([roamOn] ++ List.replicate (2 ^ 64 - 1) roamOn) ∧
      ¬@NeverAgain asciiVision blankEmulator roamServer [roamOn]
        (List.replicate (2 ^ 64 - 1) roamOn) := by
  have keys : ∀ {server : Server} {number : UInt64}, server.Roams number →
      server.sessions.map Session.id = [number] := by
    intro server number roams
    rw [← ledger_keys, roams.ledger]
    rfl
  obtain ⟨hears, moved⟩ := roamServer_roams.roam
  obtain ⟨often, round⟩ := moved.follow (2 ^ 64 - 1)
  refine ⟨roamServer_reached.unguarded, System.AllowsAll.append.mpr ⟨⟨hears, trivial⟩, often⟩, ?_⟩
  rintro ⟨_, sessions⟩
  refine sessions 1 ?_ ?_ ?_
  · rw [keys roamServer_roams]
    decide
  · rw [List.foldl_cons, List.foldl_nil, keys moved]
    decide
  · rw [List.foldl_cons, List.foldl_nil, keys round]
    decide

end Server

end Ckmux
