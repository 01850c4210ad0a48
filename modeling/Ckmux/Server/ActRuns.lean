import Mathlib
import Ckmux.Server.Acts

/-!
# Every step is a number of acts

One lemma for each function of the server that does more than one act, in the order of its
modules, and from them the step. What every act keeps is kept by every step.
-/

namespace Ckmux

open Grammar (Bytes)
open Proto (Message typeOf)

namespace Server

/-- A session is found under the id that was given to the last one made. -/
theorem createSession_found (server : Server) (name : Bytes) :
    ∃ session, (server.createSession name).2.sessionFor server.nextSession = some session ∧
      session.id = server.nextSession := by
  cases found : (server.createSession name).2.sessionFor server.nextSession with
  | some session => exact ⟨session, rfl, sessionFor_id found⟩
  | none =>
      have last := List.find?_eq_none.mp found (server.createSession name).1
        (List.mem_append_right _ (List.mem_singleton.mpr rfl))
      simp [createSession] at last

/-- The session that is named, or one's own, is there. -/
theorem namedOrOwn_found {server : Server} {id : ClientId} {named : SessionId} {session : Session}
    (found : server.namedOrOwn id named = some session) :
    server.sessionFor session.id = some session := by
  unfold Server.namedOrOwn at found
  split at found
  · exact sessionFor_id found ▸ found
  · obtain ⟨client, _, held⟩ := Option.bind_eq_some_iff.mp found
    exact sessionFor_id held ▸ held

/-- What is waited for, and what time it is. -/
def awaited (server : Server) : List PendingKill × List PendingClose × Int :=
  (server.kills, server.closes, server.nowNanos)

/-- Telling leaves what is waited for. -/
theorem Tells.awaited {news : ClientId → Message → Prop} {notes : Terminal → Terminal → Prop}
    {before after : Server} (tells : Tells news notes before after) :
    after.awaited = before.awaited :=
  congrArg (fun rest : Untold => (rest.kills, rest.closes, rest.nowNanos)) tells.rest

/-- A session forgotten leaves what is waited for. -/
theorem forgetSession_awaited (server : Server) (id : SessionId) (reason : Proto.DetachReason)
    (text : Bytes) : (server.forgetSession id reason text).awaited = server.awaited := by
  obtain ⟨left, leaves, told⟩ := Tells.forgetSession server id reason text
  exact told.awaited.trans leaves.awaited

/-- Telling of the sessions leaves what is waited for. -/
theorem broadcastSessionList_awaited (server : Server) (requester : Option ClientId) :
    (server.broadcastSessionList requester).awaited = server.awaited := by
  have told : Tells (fun _ _ => True) Eq server (server.broadcastSessionList requester) :=
    .broadcastSessionList server requester fun _ _ => trivial
  exact told.awaited

/-- A session's end brought on leaves what else is waited for. -/
theorem advanceKill_awaited (server : Server) (pending : PendingKill) :
    (server.advanceKill pending).1.awaited = server.awaited := by
  unfold Server.advanceKill
  split
  · rfl
  · dsimp only
    split
    · rfl
    · split
      · exact foldl_keeps Server.awaited _ (by exact fun _ _ => rfl) server
      · split
        · rfl
        · split
          · exact broadcastSessionList_awaited server none
          · refine (forgetSession_awaited ..).trans ?_
            exact foldl_keeps Server.awaited _ (by exact fun _ _ => rfl) server

/-- A terminal removed leaves what is waited for. -/
theorem removeTerminal_awaited (server : Server) (id : TerminalId) (exited : Bool) :
    (server.removeTerminal id exited).awaited = server.awaited := by
  unfold Server.removeTerminal
  dsimp only
  split
  · rfl
  · have told : ∀ (server : Server) (home : SessionId) (closed : Proto.TermClosed),
        (server.forEachAttached home fun server each =>
          server.send each (.termClosed closed)).awaited = server.awaited := by
      intro server home closed
      have told : Tells (fun _ _ => True) Eq server (server.forEachAttached home
          fun server each => server.send each (.termClosed closed)) :=
        .forEachAttached home fun middle _ client => .say middle client trivial rfl
      exact told.awaited
    rw [apply_ite Server.awaited, forgetSession_awaited, ite_self, broadcastSessionList_awaited, told]
    rfl

/-- A terminal's end brought on leaves what else is waited for. -/
theorem advanceClose_awaited (server : Server) (pending : PendingClose) :
    (server.advanceClose pending).1.awaited = server.awaited := by
  unfold Server.advanceClose
  split
  · rfl
  · split
    · rfl
    · split
      · rfl
      · split
        · rfl
        · split
          · rfl
          · exact removeTerminal_awaited ..

/-- Dropping who does not fit leaves what is waited for. -/
theorem dropMismatched_awaited (server : Server) :
    server.dropMismatched.awaited = server.awaited := by
  refine foldl_keeps Server.awaited _ (fun middle each => ?_) server
  split
  · rfl
  · dsimp only
    split
    · rename_i client _ _
      have dropped : Tells (fun _ _ => True) Eq middle (middle.drop client.id) := .drop middle _
      exact dropped.awaited
    · rfl

/-- Ending sessions is of no concern to the terminals that are waited for. -/
theorem advanceKills_closes (server : Server) : server.advanceKills.closes = server.closes :=
  foldl_keeps Server.closes _ (fun middle pending =>
    congrArg (fun awaited => awaited.2.1) (advanceKill_awaited middle pending)) _

/-- What is still waited for of a session's end is as it was asked for. -/
theorem advanceKill_dooms {origin server : Server} {event : ServerEvent} {pending later : PendingKill}
    (doomed : origin.Dooms event pending) (waits : (server.advanceKill pending).2 = some later) :
    origin.Dooms event later := by
  have same : later.session = pending.session ∧ later.force = pending.force ∧
      later.deadlineNanos = pending.deadlineNanos := by
    unfold Server.advanceKill at waits
    split at waits
    · cases waits
    · dsimp only at waits
      repeat' split at waits
      all_goals cases waits
      all_goals exact ⟨rfl, rfl, rfl⟩
  unfold Dooms at doomed ⊢
  rwa [same.1, same.2.1, same.2.2]

/-- What is still waited for of a terminal's end is as it was asked for. -/
theorem advanceClose_waits {origin server : Server} {event : ServerEvent}
    {pending later : PendingClose} (waited : origin.Waits event pending)
    (waits : (server.advanceClose pending).2 = some later) : origin.Waits event later := by
  have same : later.term = pending.term ∧ later.force = pending.force ∧
      later.deadlineNanos = pending.deadlineNanos := by
    unfold Server.advanceClose at waits
    split at waits
    · cases waits
    · repeat' split at waits
      all_goals cases waits
      all_goals exact ⟨rfl, rfl, rfl⟩
  unfold Waits at waited ⊢
  rwa [same.1, same.2.1, same.2.2]

/-- A server in a tick, once what is over is ended. -/
def ended (server : Server) : Server :=
  server.dropMismatched.observeExits.advanceKills.advanceCloses

/-- A server in a tick, once every end has been noticed. What is left is to tell of it. -/
def noticed (server : Server) : Server :=
  (if server.ended.sessionListDirty then server.ended.flushReaderCounts else server.ended).noticeExits

/-- A terminal put in another's place is what is found there. -/
theorem terminal_set {server : Server} {given other : Terminal} {id : TerminalId}
    (found : (server.setTerminal id fun _ => given).terminal id = some other) : other = given := by
  obtain ⟨before, _, changed⟩ := List.mem_map.mp (List.mem_of_find?_eq_some found)
  have same := terminal_id found
  split at changed
  · exact changed.symm
  · rename_i another
    exact absurd (changed ▸ same) another

section

variable [CkVision] [Emulator] {origin server : Server} {event : ServerEvent}

namespace Acts

/-- One act on its own. -/
theorem one {before after : Server} (act : Act origin event before after) :
    Acts origin event before after := .single act

/-- Telling what states no session is one act. -/
theorem told {before after : Server}
    (tells : Tells (fun _ message => states message = false) Eq before after) :
    Acts origin event before after := one (.speak tells)

/-- What is done beside clients, terminals and sessions. -/
theorem beside {before after : Server} (clients : after.clients = before.clients)
    (terminals : after.terminals = before.terminals) (rest : after.untold = before.untold) :
    Acts origin event before after := told (.beside clients terminals rest)

/-- Saying what states no session is one act. -/
theorem say (server : Server) (id : ClientId) {message : Message}
    (unstated : states message = false) : Acts origin event server (server.send id message) :=
  told (.say server id unstated (whole_of_places (places_of_states unstated)))

/-- A refusal states no session. -/
theorem refuse (server : Server) (id : ClientId) (code : ErrorCode) (context human : Bytes) :
    Acts origin event server (server.refuse id code context human) := say server id rfl

/-- What leaves a client's seat and stream is one act. -/
theorem idle (server : Server) (id : ClientId) {change : Client → Client}
    (same : ∀ client, ((change client).seat, (change client).mode, (change client).attached,
        (change client).closing, (change client).stream) =
      (client.seat, client.mode, client.attached, client.closing, client.stream)) :
    Acts origin event server (server.setClient id change) :=
  told (.idle server id same)

/-- Dropping a client is telling nobody. -/
theorem drop (server : Server) (id : ClientId) : Acts origin event server (server.drop id) :=
  told (.drop server id)

theorem detach (server : Server) (id : ClientId) (reason : Proto.DetachReason) (text : Bytes) :
    Acts origin event server (server.detach id reason text) := told (.detach server id rfl)

theorem broadcastSessionList (server : Server) (requester : Option ClientId) :
    Acts origin event server (server.broadcastSessionList requester) :=
  told (.broadcastSessionList server requester fun _ _ => rfl)

theorem sendSessionList (server : Server) (id : ClientId) :
    Acts origin event server (server.sendSessionList id) :=
  told (.sendSessionList server id fun _ => rfl)

/-- A round of acts, each upon a server that has come from the first by the acts before. -/
theorem foldl {Item : Type} (items : List Item) {act : Server → Item → Server}
    (each : ∀ middle, Acts origin event server middle → ∀ item ∈ items,
      Acts origin event middle (act middle item)) :
    Acts origin event server (items.foldl act server) :=
  List.foldlRecOn items act (motive := fun middle => Acts origin event server middle) .refl
    fun middle acted item among => acted.trans (each middle acted item among)

/-- Telling everybody attached is one act. -/
theorem forEachAttached (id : SessionId) {act : Server → ClientId → Server}
    (each : ∀ middle client, Tells (fun _ message => states message = false) Eq middle
      (act middle client)) :
    Acts origin event server (server.forEachAttached id act) :=
  told (.forEachAttached id fun middle _ client => each middle client)

/-- One thing said to everybody attached to a session. -/
theorem sayAll (server : Server) (id : SessionId) (message : Message)
    (unstated : states message = false) :
    Acts origin event server (server.forEachAttached id fun server each =>
      server.send each message) :=
  forEachAttached id fun middle client =>
    .say middle client unstated (whole_of_places (places_of_states unstated))

theorem allFallBehind (server : Server) (id : SessionId) :
    Acts origin event server (server.forEachAttached id fun server each =>
      server.setClient each Client.fallBehind) :=
  forEachAttached id fun middle client => .fallBehind middle client

/-- What acts for each client acts for all. -/
theorem forEachClient {act : Server → Client → Server}
    (each : ∀ middle client, middle.client client.id = some client →
      Acts origin event middle (act middle client)) :
    Acts origin event server (server.forEachClient act) := by
  refine foldl _ fun middle _ id _ => ?_
  split
  · exact .refl
  · rename_i client found
    exact each middle client (client_id found ▸ found)

/-- What acts for each terminal that is still there acts for all. -/
theorem forEachTerminal {act : Server → Terminal → Server}
    (each : ∀ middle terminal, Acts origin event server middle →
      middle.terminal terminal.id = some terminal → Acts origin event middle (act middle terminal)) :
    Acts origin event server (server.forEachTerminal act) := by
  refine foldl _ fun middle acted id _ => ?_
  split
  · exact .refl
  · rename_i terminal found
    exact each middle terminal acted (terminal_id found ▸ found)

/-- A deed done to the terminal that is found. -/
theorem does (server : Server) (term : TerminalId) (deed : Deed) {change : Terminal → Terminal}
    (meant : Deed.Meant origin event term deed)
    (same : ∀ terminal, server.terminal term = some terminal →
      change terminal = deed.apply terminal) :
    Acts origin event server (server.setTerminal term change) := one (.deed meant same)

/-- One deed done to a terminal in its own words. -/
theorem deed (server : Server) (term : TerminalId) (deed : Deed)
    (meant : Deed.Meant origin event term deed) :
    Acts origin event server (server.setTerminal term fun terminal => deed.apply terminal) :=
  one (.deed meant fun _ _ => rfl)

/-! ### Sessions -/

/-- A layout is stated in a tick only. -/
theorem announceLayout (ticks : event = .tick) :
    Acts origin event server (server.announceLayout 0) := by
  have unforced : ∀ session : Session,
      (decide (session.id = 0 ∧ (0 : SessionId) ≠ 0)) = false := by simp
  unfold Server.announceLayout
  simp only [unforced]
  -- The sessions are announced as they were listed: telling of one changes none of them.
  have both := List.foldlRecOn server.sessions
    (fun server session => server.announceSessionLayout session false)
    (motive := fun middle => Acts origin event server middle ∧ middle.sessions = server.sessions)
    ⟨.refl, rfl⟩ fun middle sofar session listed => by
      obtain ⟨acted, same⟩ := sofar
      refine ⟨acted.tail (.layout ticks (same ▸ listed)), ?_⟩
      exact (Tells.announceSessionLayout middle session false).sessions.trans same
  exact both.1

/-- A session's end begins as it was asked for. -/
theorem beginKill {id : ClientId} {request : Proto.KillSession} {session : Session}
    (asked : origin.Asks event id (.killSession request))
    (named : origin.namedOrOwn id request.session = some session)
    (known : ∀ pending ∈ server.kills, origin.Dooms event pending)
    (now : server.nowNanos = origin.nowNanos) :
    Acts origin event server
      (server.beginKill session (request.force ≠ 0) request.graceSeconds) := by
  have rounds := List.foldlRecOn session.terminals
    (fun server id => server.setTerminal id fun terminal => terminal.ask .terminate)
    (motive := fun middle => Acts origin event server middle ∧ middle.kills = server.kills ∧
      middle.nowNanos = server.nowNanos) ⟨.refl, rfl, rfl⟩ fun middle sofar term _ =>
        ⟨sofar.1.trans (deed middle term .terminate trivial), sofar.2⟩
  obtain ⟨acted, kills, time⟩ := rounds
  refine acted.trans (one (.kills fun each there => ?_))
  rcases List.mem_append.mp there with before | made
  · exact known each (kills ▸ before)
  · rw [List.mem_singleton.mp made]
    refine .inr ⟨id, request, session, asked, named, rfl, rfl, ?_⟩
    dsimp only
    rw [time, now]

/-- A terminal's end begins as it was asked for. -/
theorem beginClose {id : ClientId} {request : Proto.CloseTerminal}
    (asked : origin.Asks event id (.closeTerminal request)) :
    Acts origin event origin
      (origin.beginClose request.term (request.force ≠ 0) request.graceSeconds) := by
  unfold Server.beginClose
  split
  · exact .refl
  · rename_i terminal found
    have there : (origin.terminal request.term).isSome := by rw [found]; rfl
    have made : origin.Waits event
        { term := request.term
          deadlineNanos := origin.nowNanos + graceNanos request.graceSeconds
          force := request.force ≠ 0 } :=
      .inr (.inl ⟨id, request, asked, rfl, there, rfl, rfl⟩)
    refine (deed origin request.term .terminate trivial).trans ?_
    dsimp only
    split
    · refine one (.closes fun each among => ?_)
      obtain ⟨before, was, rfl⟩ := List.mem_map.mp among
      split
      · exact made
      · exact .inl ⟨before, was, rfl, rfl, rfl⟩
    · refine one (.closes fun each among => ?_)
      rcases List.mem_append.mp among with was | added
      · exact .inl ⟨each, was, rfl, rfl, rfl⟩
      · exact List.mem_singleton.mp added ▸ made

/-- A child is killed as it was asked for. -/
theorem beginKillTerminal {id : ClientId} {request : Proto.KillTerminal}
    (asked : origin.Asks event id (.killTerminal request)) :
    Acts origin event origin (origin.beginKillTerminal request.term) := by
  unfold Server.beginKillTerminal
  split
  · exact .refl
  · rename_i terminal found
    have there : (origin.terminal request.term).isSome := by rw [found]; rfl
    have made : ∀ pending : PendingClose, pending.term = request.term →
        origin.Waits event pending := fun pending named =>
      .inr (.inr ⟨id, request, asked, named.symm, named ▸ there⟩)
    refine (one (.kill (.inl ⟨id, request, asked, rfl⟩))).trans ?_
    dsimp only
    split
    · refine one (.closes fun each among => ?_)
      obtain ⟨before, was, rfl⟩ := List.mem_map.mp among
      split
      · exact made _ rfl
      · exact .inl ⟨before, was, rfl, rfl, rfl⟩
    · refine one (.closes fun each among => ?_)
      rcases List.mem_append.mp among with was | added
      · exact .inl ⟨each, was, rfl, rfl, rfl⟩
      · exact List.mem_singleton.mp added ▸ made _ rfl

/-- A session ended if nothing is left in it. -/
theorem forgetEmptied (server : Server) (id : SessionId) (reason : Proto.DetachReason)
    (text : Bytes) :
    Acts origin event server
      (if ((server.sessionFor id).map fun session => session.terminals.isEmpty).getD false ∧
          server.settings.killEmptySession then server.forgetSession id reason text
        else server) := by
  split
  · rename_i emptied
    cases found : server.sessionFor id with
    | none => simp [found] at emptied
    | some session =>
        obtain rfl := sessionFor_id found
        exact one (.forget found (by simpa [found] using emptied.1))
  · exact .refl

/-- A terminal leaves its session and enters the other. -/
theorem moveInto {id : ClientId} {request : Proto.MoveTerminal} {source target : Session}
    (asked : origin.Asks event id (.moveTerminal request))
    (known : (server.terminal request.term).isSome)
    (waits : ∀ pending ∈ server.closes, origin.Waits event pending)
    (holds : server.sessionHolding request.term = some source)
    (found : server.sessionFor target.id = some target)
    (apart : target.id ≠ source.id ∨ target.id = origin.nextSession) :
    Acts origin event server (server.moveInto request.term source.id target.id) := by
  have unclosed : Acts origin event server { server with
      closes := server.closes.filter fun pending => pending.term ≠ request.term } :=
    one (.closes fun each among => waits each (List.mem_filter.mp among).1)
  have moved := unclosed.tail (.rehome asked rfl known holds found apart)
  exact (((moved.trans (sayAll _ source.id _ rfl)).trans (allFallBehind _ target.id)).trans
    (broadcastSessionList _ none)).trans (forgetEmptied _ source.id ..)

/-- A terminal is moved as it was asked for. -/
theorem moveTerminal {id : ClientId} {request : Proto.MoveTerminal}
    (asked : origin.Asks event id (.moveTerminal request)) :
    Acts origin event origin (origin.moveTerminal id request) := by
  unfold Server.moveTerminal
  split
  · rename_i terminal source found held
    have known : (origin.terminal request.term).isSome := by rw [found]; rfl
    have waits : ∀ pending ∈ origin.closes, origin.Waits event pending :=
      fun pending among => .inl ⟨pending, among, rfl, rfl, rfl⟩
    split
    · rename_i anew
      have chosen : origin.ChoosesName event :=
        .inr (.inl ⟨id, request, asked, anew, known, by rw [held]; rfl⟩)
      have named : origin.Names event origin [] := ⟨rfl, rfl, by rw [if_pos rfl]; exact chosen⟩
      refine (one (.create named)).trans ?_
      have kept : (origin.createSession []).2.sessionHolding request.term = some source := by
        rw [sessionHolding, createSession]
        exact (List.find?_append ..).trans
          (by rw [show origin.sessions.find? _ = some source from held]; rfl)
      obtain ⟨target, there, same⟩ := createSession_found origin []
      have stored : ((origin.createSession []).2.terminal request.term).isSome := known
      have moved := moveInto asked stored waits kept (same.symm ▸ there) (.inr same)
      rw [same] at moved
      exact moved
    · split
      · exact refuse origin id ..
      · rename_i target there
        split
        · exact .refl
        · rename_i apart
          have same := sessionFor_id there
          exact moveInto asked known waits held (same ▸ there) (.inl apart)
  · exact refuse origin id ..

/-! ### Readers -/

/-- A session is found or made as attaching asks. -/
theorem attachSession {id : ClientId} {request : Proto.Attach}
    (asked : origin.Asks event id (.attach request)) :
    Acts origin event origin (origin.attachSession request).2 := by
  unfold Server.attachSession
  split
  · exact .refl
  · rename_i nowhere
    split
    · exact .refl
    · rename_i default
      split
      · exact .refl
      · rename_i none_there
        have nought : request.session = 0 := not_not.mp default
        have chosen : origin.ChoosesName event :=
          .inr (.inr ⟨id, request, asked, nought, nought ▸ nowhere, none_there⟩)
        have named : origin.Names event origin [] := ⟨rfl, rfl, by rw [if_pos rfl]; exact chosen⟩
        exact one (.create named)

/-- Attaching finds a session, seats the client and sends a snapshot. -/
theorem attach {id : ClientId} {request : Proto.Attach}
    (asked : origin.Asks event id (.attach request)) :
    Acts origin event origin (origin.attach id request) := by
  have found := attachSession asked
  unfold Server.attach
  split
  · rename_i missing
    rw [missing] at found
    exact found.trans (refuse _ id ..)
  · rename_i session made there
    rw [there] at found
    exact (found.tail (.welcome asked there)).trans (beside rfl rfl rfl)

/-- Everybody else is given a mode. -/
theorem setOthersMode (id : ClientId) (session : SessionId) (mode : AttachMode) :
    Acts origin event server (server.setOthersMode id session mode) := by
  refine forEachAttached session fun middle other => ?_
  split
  · exact .refl middle
  · split
    · exact .refl middle
    · refine Tells.next ?_ (.say (middle.setClient other _) other rfl rfl)
      exact .keep middle other (fun client _ => @Client.Hears.moded _ _ _ _ ⟨mode.toWire⟩ rfl rfl)
        fun _ => rfl

/-- Everybody else is detached. -/
theorem evictOthers (id : ClientId) (session : SessionId) :
    Acts origin event server (server.evictOthers id session) := by
  refine foldl _ fun middle _ other _ => ?_
  split
  · exact .refl
  · split
    · exact .refl
    · exact detach middle other ..

theorem handleSetReaderMode (id : ClientId) (wish : Proto.SetReaderMode) :
    Acts origin event server (server.handleSetReaderMode id wish) := by
  unfold Server.handleSetReaderMode
  split
  · exact .refl
  · dsimp only
    split
    any_goals exact refuse server id ..
    · exact told (.keep server id (fun client _ => @Client.Hears.moded _ _ _ _ ⟨0⟩ rfl rfl) fun _ => rfl)
    · exact evictOthers id _
    · exact setOthersMode id _ _

/-- A client's size reshapes its own session at most. -/
theorem clientResize {id : ClientId} {resize : Proto.ClientResize}
    (asked : origin.Asks event id (.clientResize resize)) :
    Acts origin event origin (origin.clientResize id resize) := by
  let measure := fun client : Client =>
    { client with
      desktop := ⟨resize.columns.toNat, resize.rows.toNat⟩
      cellPixels := cellMetric resize.columns resize.rows resize.pixelWidth resize.pixelHeight }
  have measured : Acts origin event origin (origin.setClient id measure) :=
    idle origin id fun _ => rfl
  unfold Server.clientResize
  dsimp only
  split
  · exact measured
  · rename_i home resolved
    split
    · exact measured
    · obtain ⟨client, found, held⟩ := Option.bind_eq_some_iff.mp resolved
      refine measured.tail (.reshape ⟨id, client, found, held, .inl ⟨resize, asked, rfl⟩, ?_⟩)
      have become : (origin.setClient id measure).client id = (origin.client id).map measure :=
        (@client_setClient origin id id measure fun _ => rfl).trans (if_pos rfl)
      rw [become] at found
      obtain ⟨before, was, rfl⟩ := Option.map_eq_some_iff.mp found
      rw [was]
      rfl

/-- A desktop is reshaped as it was asked for. -/
theorem setDesktopSize {id : ClientId} {fit : Proto.SetDesktopSize}
    (asked : origin.Asks event id (.setDesktopSize fit)) :
    Acts origin event origin (origin.setDesktopSize id fit) := by
  unfold Server.setDesktopSize
  split
  · exact .refl
  · rename_i home resolved
    obtain ⟨client, found, held⟩ := Option.bind_eq_some_iff.mp resolved
    exact one (.reshape ⟨id, client, found, held, .inr ⟨fit, asked, rfl⟩, by rw [found]; rfl⟩)

/-! ### Messages -/

theorem greet (id : ClientId) (message : Message) :
    Acts origin event server (server.greet id message) := by
  unfold Server.greet
  split
  · dsimp only
    split
    · split
      · exact (say server id rfl).trans (idle _ id fun _ => rfl)
      · exact (say server id rfl).trans (drop _ id)
    · refine .trans ?_ (say _ id rfl)
      exact idle server id fun _ => rfl
  · exact (say server id rfl).trans (drop _ id)

/-- A session is made under the name that was asked for. -/
theorem newSession {id : ClientId} {request : Proto.NewSession}
    (asked : origin.Asks event id (.newSession request)) :
    Acts origin event origin (origin.newSession id request) := by
  unfold Server.newSession
  split
  · exact refuse origin id ..
  · rename_i fresh
    have named : origin.Names event origin request.name := by
      refine ⟨rfl, rfl, ?_⟩
      split
      · rename_i unnamed
        exact .inl ⟨id, request, asked, unnamed⟩
      · exact ⟨⟨id, request, asked, rfl⟩, fresh⟩
    have made : Acts origin event origin (origin.createSession request.name).2 :=
      one (.create named)
    dsimp only
    split
    · obtain ⟨home, found, same⟩ := createSession_found origin request.name
      have spawned : ∀ spec, Acts origin event origin
          ((origin.createSession request.name).2.openTerminal origin.nextSession spec).2 :=
        fun spec => same ▸ made.tail (.spawn asked same (same.symm ▸ found) rfl)
      exact (spawned _).trans (broadcastSessionList _ _)
    · exact made.trans (broadcastSessionList _ _)

/-- A session that is named begins to end. -/
theorem killSession {id : ClientId} {request : Proto.KillSession}
    (asked : origin.Asks event id (.killSession request)) :
    Acts origin event origin (origin.killSession id request) := by
  unfold Server.killSession
  split
  · exact refuse origin id ..
  · rename_i session named
    refine .trans (idle origin id ?_) (beginKill asked named ?_ rfl)
    · exact fun _ => rfl
    · exact fun pending among => .inl ⟨pending, among, rfl, rfl, rfl⟩

/-- Another name is told to everybody. -/
theorem renameSession {id : ClientId} {request : Proto.RenameSession} :
    Acts origin event origin (origin.renameSession id request) := by
  unfold Server.renameSession
  split
  · exact refuse origin id ..
  · rename_i session named
    split
    · exact refuse origin id ..
    · rename_i fresh
      exact (one (.rename (namedOrOwn_found named) fresh)).trans (broadcastSessionList _ _)

/-- What acts for a terminal acts for one that is named. -/
theorem withTerminal (id : ClientId) (type : Proto.MessageType) (term : TerminalId)
    {act : Terminal → Server}
    (acts : ∀ terminal, origin.terminal term = some terminal →
      Acts origin event origin (act terminal)) :
    Acts origin event origin (origin.withTerminal id type term act) := by
  unfold Server.withTerminal
  split
  · exact refuse origin id ..
  · exact acts _ ‹_›

/-- A terminal is opened in the session it was asked for. -/
theorem newTerminal {id : ClientId} {request : Proto.NewTerminal}
    (asked : origin.Asks event id (.newTerminal request)) :
    Acts origin event origin (origin.newTerminal id request) := by
  unfold Server.newTerminal
  split
  · exact refuse origin id ..
  · rename_i client session resolved
    split
    · exact refuse origin id ..
    · have found : origin.sessionFor session.id = some session := by
        obtain ⟨other, _, seated⟩ := Option.bind_eq_some_iff.mp resolved
        obtain ⟨home, held, same⟩ := Option.map_eq_some_iff.mp seated
        obtain rfl : home = session := congrArg Prod.snd same
        unfold Server.sessionOf at held
        split at held
        · exact sessionFor_id held ▸ held
        · cases held
      dsimp only
      refine Relation.ReflTransGen.tail (idle origin id ?_) (.opens asked found rfl)
      exact fun _ => rfl

/-- A terminal that has ended has a new child. -/
theorem respawnTerminal {id : ClientId} {request : Proto.RespawnTerminal}
    (asked : origin.Asks event id (.respawnTerminal request)) :
    Acts origin event origin (origin.respawnTerminal id request) := by
  refine withTerminal id _ _ fun terminal found => ?_
  have same := terminal_id found
  split
  · exact refuse origin id ..
  · rename_i ended
    dsimp only
    split
    · rename_i homeless
      exact one (.respawn asked same.symm (same ▸ found) (Bool.eq_false_iff.mpr ended) homeless)
    · rename_i home holds
      exact one (.respawnIn asked same.symm (same ▸ found) (Bool.eq_false_iff.mpr ended) holds)

/-- Each window that is laid out is laid by its own deed. -/
theorem setLayout {id : ClientId} {report : Proto.SetLayout}
    (asked : origin.Asks event id (.setLayout report)) :
    Acts origin event origin (origin.setLayout id report) := by
  unfold Server.setLayout
  split
  · exact refuse origin id ..
  · rename_i session resolved
    refine foldl _ fun middle _ entry _ => ?_
    split
    · exact .refl
    · rename_i held
      exact deed middle entry.term (.lay _) ⟨id, report, session, asked, resolved, not_not.mp held⟩

/-- A job is said chunk by chunk. -/
theorem printJobFetch {id : ClientId} {request : Proto.PrintJobFetch}
    (asked : origin.Asks event id (.printJobFetch request)) :
    Acts origin event origin (origin.printJobFetch id request) := by
  unfold Server.printJobFetch
  split
  · exact refuse origin id ..
  · rename_i known
    split
    · exact refuse origin id ..
    · rename_i holds
      exact one (.fetch asked known holds)

/-- A job is discarded as it was asked for. -/
theorem printJobDiscard {id : ClientId} {request : Proto.PrintJobDiscard}
    (asked : origin.Asks event id (.printJobDiscard request)) :
    Acts origin event origin (origin.printJobDiscard id request) := by
  refine withTerminal id _ _ fun terminal found => ?_
  have same := terminal_id found
  dsimp only
  split
  · exact .refl
  · refine does origin terminal.id (.discard request.job) ⟨id, request, asked, same.symm, rfl⟩ ?_
    intro other there
    obtain rfl : other = terminal := Option.some.inj ((same ▸ there).symm.trans found)
    rfl

theorem applyPrinterPolicies : Acts origin event server server.applyPrinterPolicies :=
  one .policies

/-- A policy is kept and applied to every terminal it reaches. -/
theorem setPrinterPolicy {id : ClientId} {request : Proto.SetPrinterPolicy} :
    Acts origin event origin (origin.setPrinterPolicy id request) := by
  unfold Server.setPrinterPolicy
  dsimp only
  split
  · refine withTerminal id _ _ fun terminal _ => Relation.ReflTransGen.tail ?_ .policies
    exact deed origin terminal.id (.override _) trivial
  · split
    · exact refuse origin id ..
    · exact (one .print).tail .policies
  · refine Relation.ReflTransGen.tail ?_ .policies
    exact beside rfl rfl rfl

/-- Whatever a message asks for is done in acts. -/
theorem act {id : ClientId} {message : Message} (asked : origin.Asks event id message) :
    Acts origin event origin (origin.act id message) := by
  unfold Server.act
  split
  · exact say origin id rfl
  · exact idle origin id fun _ => rfl
  · exact drop origin id
  · exact sendSessionList origin id
  · exact newSession asked
  · exact killSession asked
  · exact renameSession
  · refine withTerminal id _ _ fun terminal _ => ?_
    exact deed origin terminal.id (.retitle _) trivial
  · exact printJobFetch asked
  · exact printJobDiscard asked
  · exact setPrinterPolicy
  · exact attach asked
  · exact detach origin id ..
  · exact clientResize asked
  · exact setDesktopSize asked
  · rename_i request
    refine withTerminal id _ _ fun terminal found => ?_
    have same := terminal_id found
    exact deed origin terminal.id (.resize ..) ⟨id, request, asked, same.symm⟩
  · exact setLayout asked
  · exact newTerminal asked
  · exact respawnTerminal asked
  · exact one (.types (.inl asked))
  · exact beside rfl rfl rfl
  · exact handleSetReaderMode id _
  · exact beginClose asked
  · exact beginKillTerminal asked
  · exact moveTerminal asked
  · exact beside rfl rfl rfl
  · exact refuse origin id ..

theorem refuseWatcher (id : ClientId) (message : Message) :
    Acts origin event server (server.refuseWatcher id message) := by
  unfold Server.refuseWatcher
  split
  · exact .refl
  · exact say server id rfl
  · exact refuse server id ..

/-- A message handled is refused, greeted or acted on. -/
theorem handle {id : ClientId} {message : Message} (asked : event = .message id message) :
    Acts origin event origin (origin.handle id message) := by
  unfold Server.handle
  split
  · exact .refl
  · rename_i client found
    split
    · split
      · exact beside rfl rfl rfl
      · exact drop origin id
    · rename_i matched
      split
      · exact greet id message
      · rename_i greeted
        split
        · exact refuseWatcher id message
        · rename_i gate
          exact act ⟨asked, client, found, Bool.eq_false_iff.mpr matched, not_not.mp greeted, gate⟩

/-! ### Ticks -/

theorem dropMismatched : Acts origin event server server.dropMismatched := by
  refine forEachClient fun middle client _ => ?_
  split
  · exact drop middle _
  · exact .refl

/-- The children of a session that are still there, killed one after another. -/
theorem killRunning (ticks : event = .tick) {pending : PendingKill} {session : Session}
    (doomed : origin.Dooms event pending) (found : server.sessionFor pending.session = some session)
    (force : pending.force = true) (due : pending.deadlineNanos ≤ server.nowNanos) :
    Acts origin event server
      ((session.terminals.filter fun id =>
        ((server.terminal id).map Terminal.live).getD false).foldl
          (fun server id => server.setTerminal id fun terminal => terminal.ask .kill) server) := by
  have rounds := List.foldlRecOn
    (session.terminals.filter fun id => ((server.terminal id).map Terminal.live).getD false)
    (fun server id => server.setTerminal id fun terminal => terminal.ask .kill)
    (motive := fun middle => Acts origin event server middle ∧
      middle.sessions = server.sessions ∧ middle.nowNanos = server.nowNanos ∧
      ∀ id, (middle.terminal id).map Terminal.live = (server.terminal id).map Terminal.live)
    ⟨.refl, rfl, rfl, fun _ => rfl⟩ fun middle sofar term among => by
      obtain ⟨acted, sessions, time, lives⟩ := sofar
      obtain ⟨held, running⟩ := List.mem_filter.mp among
      have known : middle.sessionFor pending.session = some session := by
        rw [sessionFor, sessions]
        exact found
      refine ⟨acted.tail (.kill (.inr ⟨ticks, .inr ⟨pending, session, doomed, known, held, ?_,
        force, time ▸ due⟩⟩)), sessions, time, fun id => ?_⟩
      · rw [lives]
        exact running
      · have asked := @terminal_setTerminal middle term id (fun terminal => terminal.ask .kill)
          fun _ => rfl
        rw [asked, ← lives id]
        split
        · rw [Option.map_map]
          rfl
        · rfl
  exact rounds.1

/-- A session's end brought on acts only on what it dooms. -/
theorem advanceKill (ticks : event = .tick) {pending : PendingKill}
    (doomed : origin.Dooms event pending) :
    Acts origin event server (server.advanceKill pending).1 := by
  unfold Server.advanceKill
  split
  · exact .refl
  · rename_i session found
    dsimp only
    split
    · exact .refl
    · rename_i waited
      split
      · rename_i forced
        have due : pending.deadlineNanos ≤ server.nowNanos :=
          Int.not_lt.mp fun early => waited ⟨forced.1, early⟩
        exact killRunning ticks doomed found forced.2.1 due
      · split
        · exact .refl
        · split
          · exact broadcastSessionList server none
          · rename_i spared
            refine one (.bury ⟨ticks, pending, doomed, found, ?_⟩)
            rintro ⟨term, held, running⟩
            have some_run : (session.terminals.filter fun id =>
                ((server.terminal id).map Terminal.live).getD false) ≠ [] :=
              List.ne_nil_of_mem (List.mem_filter.mpr ⟨held, running⟩)
            refine ⟨?_, Int.not_lt.mp fun early => waited ⟨some_run, early⟩⟩
            by_contra lenient
            exact spared ⟨some_run, lenient⟩

/-- Sessions' ends are brought on one after the other. -/
theorem advanceKills (ticks : event = .tick)
    (known : ∀ pending ∈ server.kills, origin.Dooms event pending) :
    Acts origin event server server.advanceKills := by
  have cleared : Acts origin event server { server with kills := [] } :=
    one (.kills fun _ among => absurd among List.not_mem_nil)
  have rounds := List.foldlRecOn server.kills (fun server pending =>
      let advanced := server.advanceKill pending
      { advanced.1 with kills := advanced.1.kills ++ advanced.2.toList })
    (motive := fun middle => Acts origin event server middle ∧
      ∀ pending ∈ middle.kills, origin.Dooms event pending)
    ⟨cleared, fun _ among => absurd among List.not_mem_nil⟩ fun middle sofar pending listed => by
      obtain ⟨acted, dooms⟩ := sofar
      have doomed := known pending listed
      have kept : (middle.advanceKill pending).1.kills = middle.kills :=
        congrArg Prod.fst (advanceKill_awaited middle pending)
      have all : ∀ each ∈ (middle.advanceKill pending).1.kills ++
          (middle.advanceKill pending).2.toList, origin.Dooms event each := by
        intro each among
        rcases List.mem_append.mp among with before | waits
        · exact dooms each (kept ▸ before)
        · exact advanceKill_dooms doomed (Option.mem_toList.mp waits)
      exact ⟨(acted.trans (advanceKill ticks doomed)).tail (.kills all), all⟩
  exact rounds.1

/-- A terminal removed leaves its session and is told of. -/
theorem removeTerminal {term : TerminalId} (ends : origin.Ends event server term) (exited : Bool) :
    Acts origin event server (server.removeTerminal term exited) := by
  have unpasted : Acts origin event server { server with forgotten := server.forgotten ++ [term] } :=
    beside rfl rfl rfl
  unfold Server.removeTerminal
  dsimp only
  split
  · rename_i homeless
    exact unpasted.tail (.lose ends homeless)
  · rename_i home holds
    have taken := unpasted.tail (.takeOut ends holds)
    exact ((taken.trans (sayAll _ home.id _ rfl)).trans (broadcastSessionList _ none)).trans
      (forgetEmptied _ home.id ..)

/-- A terminal's end brought on acts only on what it waits for. -/
theorem advanceClose (ticks : event = .tick) {pending : PendingClose}
    (waited : origin.Waits event pending) :
    Acts origin event server (server.advanceClose pending).1 := by
  unfold Server.advanceClose
  split
  · exact .refl
  · rename_i terminal found
    split
    · exact .refl
    · rename_i late
      have due : terminal.live = true → pending.deadlineNanos ≤ server.nowNanos :=
        fun live => Int.not_lt.mp fun early => late ⟨live, early⟩
      split
      · rename_i forced
        exact one (.kill (.inr ⟨ticks, .inl ⟨pending, waited, rfl, forced.2.1, due forced.1⟩⟩))
      · split
        · exact .refl
        · split
          · exact .refl
          · rename_i spared
            refine removeTerminal ⟨ticks, fun other there live => ?_⟩ true
            obtain rfl : other = terminal := Option.some.inj (there.symm.trans found)
            refine ⟨pending, waited, rfl, ?_, due live⟩
            by_contra lenient
            exact spared ⟨live, lenient⟩

/-- Terminals' ends are brought on one after the other. -/
theorem advanceCloses (ticks : event = .tick)
    (known : ∀ pending ∈ server.closes, origin.Waits event pending) :
    Acts origin event server server.advanceCloses := by
  have cleared : Acts origin event server { server with closes := [] } :=
    one (.closes fun _ among => absurd among List.not_mem_nil)
  have rounds := List.foldlRecOn server.closes (fun server pending =>
      let advanced := server.advanceClose pending
      { advanced.1 with closes := advanced.1.closes ++ advanced.2.toList })
    (motive := fun middle => Acts origin event server middle ∧
      ∀ pending ∈ middle.closes, origin.Waits event pending)
    ⟨cleared, fun _ among => absurd among List.not_mem_nil⟩ fun middle sofar pending listed => by
      obtain ⟨acted, waits⟩ := sofar
      have waited := known pending listed
      have kept : (middle.advanceClose pending).1.closes = middle.closes :=
        congrArg (fun awaited => awaited.2.1) (advanceClose_awaited middle pending)
      have all : ∀ each ∈ (middle.advanceClose pending).1.closes ++
          (middle.advanceClose pending).2.toList, origin.Waits event each := by
        intro each among
        rcases List.mem_append.mp among with before | still
        · exact waits each (kept ▸ before)
        · exact advanceClose_waits waited (Option.mem_toList.mp still)
      exact ⟨(acted.trans (advanceClose ticks waited)).tail (.closes all), all⟩
  exact rounds.1

theorem flushReaderCounts : Acts origin event server server.flushReaderCounts := by
  unfold Server.flushReaderCounts
  refine .trans (List.foldlRecOn _ _
    (motive := fun told : Server × Bool => Acts origin event server told.1) .refl ?_)
    (beside rfl rfl rfl)
  intro told sofar each _
  split
  · exact sofar
  · split
    · exact sofar
    · split
      · exact sofar
      · exact sofar.trans (sendSessionList _ each)

/-- Ends are noticed in a tick. -/
theorem noticeExits (ticks : event = .tick) : Acts origin event server server.noticeExits := by
  refine forEachTerminal fun middle terminal _ found => ?_
  have only : ∀ other, middle.terminal terminal.id = some other → other = terminal :=
    fun other there => Option.some.inj (there.symm.trans found)
  have observed : Acts origin event middle
      (middle.setTerminal terminal.id fun _ => terminal.observeExit) :=
    does middle terminal.id .observe ticks fun other there => only other there ▸ rfl
  have marked : Acts origin event middle (middle.setTerminal terminal.id fun _ =>
      { terminal.observeExit with exitAnnounced := true }) :=
    does middle terminal.id .exit ticks fun other there => only other there ▸ rfl
  dsimp only
  split
  · exact .refl
  · split
    · exact observed
    · rename_i ended
      split
      · refine marked.trans (removeTerminal ⟨ticks, fun other there live => ?_⟩ true)
        obtain rfl := terminal_set there
        exact absurd live ended
      · split
        · exact marked
        · exact marked.trans (sayAll _ _ _ rfl)

/-- Sessions are shown again in a tick. -/
theorem heal (ticks : event = .tick) : Acts origin event server server.heal := by
  refine forEachClient fun middle client found => ?_
  split
  · exact .refl
  · rename_i behind
    obtain ⟨attached, dirty⟩ := not_or.mp behind
    have flushed : Acts origin event middle (middle.flush client.id) := told (.flush middle client.id)
    dsimp only
    split
    · let flushing := fun client : Client =>
        { client with stream := client.stream.flush (middle.kernel middle.writes) }
      have there : (middle.flush client.id).client client.id = some (flushing client) :=
        @setClient_found { middle with writes := middle.writes + 1 } client.id client flushing found
          fun _ => rfl
      exact flushed.tail (@Act.heal _ _ _ _ _ (flushing client) ticks there (not_not.mp attached)
        (not_not.mp dirty))
    · exact flushed

theorem dripTo (server : Server) (id : ClientId) (more : Nat) :
    Acts origin event server (server.dripTo id more) := by
  induction more generalizing server with
  | zero => exact .refl
  | succ more ih =>
      rw [Server.dripTo]
      split
      · exact .refl
      · split
        · exact .refl
        · split
          · exact .refl
          · rename_i op _ _
            refine .trans (.trans (idle server id ?_) (say _ id ?_)) (ih _)
            · exact fun _ => rfl
            · cases op <;> rfl

theorem drip : Acts origin event server server.drip := by
  refine forEachClient fun middle client _ => ?_
  split
  · exact .refl
  · refine (dripTo ..).trans (idle _ client.id fun client => ?_)
    split <;> rfl

theorem announceTerminalNews (ticks : event = .tick) :
    Acts origin event server server.announceTerminalNews :=
  forEachTerminal fun _ _ _ found => one (.news ticks found)

/-- Terminals are flushed in a tick. -/
theorem flushTerminals (ticks : event = .tick) (server : Server) (ids : List TerminalId) :
    Acts origin event server (server.flushTerminals ids).2 := by
  induction ids generalizing server with
  | nil => exact .refl
  | cons id ids ih =>
      refine .trans ?_ (ih _)
      unfold Server.flushTerminal
      split
      · exact .refl
      · split
        · exact .refl
        · refine .trans ?_ (deed _ id .clearDamage ticks)
          exact beside rfl rfl rfl

theorem markFlooded : Acts origin event server server.markFlooded := by
  refine forEachTerminal fun middle terminal _ _ => ?_
  split
  · exact .refl
  · split
    · exact .refl
    · exact allFallBehind middle _

theorem showPicture (server : Server) (id : ClientId) (owes : Bool) (op : PictureOp) :
    Acts origin event server (server.showPicture id owes op) := by
  unfold Server.showPicture
  split
  · exact idle server id fun _ => rfl
  · exact say server id (by cases op <;> rfl)

theorem fanOut (screens : Screens) : Acts origin event server (server.fanOut screens) := by
  unfold Server.fanOut
  split
  · exact .refl
  · refine forEachClient fun middle client _ => ?_
    unfold Server.show_
    split
    · exact .refl
    · split
      · exact .refl
      · dsimp only
        split
        · refine .trans (idle middle client.id ?_) (told (.fallBehind _ client.id))
          exact fun _ => rfl
        · refine .trans (.trans (idle middle client.id ?_) (foldl _ fun middle _ delta _ => ?_))
            (foldl _ fun middle _ image _ => ?_)
          · exact fun _ => rfl
          · exact say middle client.id rfl
          · exact showPicture middle client.id _ _

/-- A tick up to where every end has been noticed. -/
theorem noticed (asked : event = .tick) : Acts origin event origin origin.noticed := by
  have dropped : Acts origin event origin origin.dropMismatched := dropMismatched
  have killed : Acts origin event origin origin.dropMismatched.observeExits.advanceKills := by
    refine (dropped.tail (.observed asked)).trans (advanceKills asked fun pending among => ?_)
    have kept : origin.dropMismatched.kills = origin.kills :=
      congrArg Prod.fst (dropMismatched_awaited origin)
    exact .inl ⟨pending, kept ▸ among, rfl, rfl, rfl⟩
  have ended : Acts origin event origin origin.ended := by
    refine killed.trans (advanceCloses asked fun pending among => ?_)
    rw [advanceKills_closes] at among
    have kept : origin.dropMismatched.closes = origin.closes :=
      congrArg (fun awaited => awaited.2.1) (dropMismatched_awaited origin)
    exact .inl ⟨pending, kept ▸ among, rfl, rfl, rfl⟩
  unfold Server.noticed
  split
  · exact (ended.trans flushReaderCounts).trans (noticeExits asked)
  · exact ended.trans (noticeExits asked)

/-- What is left of a tick tells of it. -/
theorem flushTick (asked : event = .tick) : Acts origin event origin origin.flushTick := by
  have dripped : Acts origin event origin origin.noticed.heal.drip :=
    ((noticed asked).trans (heal asked)).trans drip
  have announced := (dripped.trans (announceTerminalNews asked)).trans (announceLayout asked)
  exact ((announced.trans (flushTerminals asked _ _)).trans markFlooded).trans (fanOut _)

/-- Every step is a number of acts. -/
theorem step (origin : Server) (event : ServerEvent) :
    Acts origin event origin (origin.step event) := by
  cases event with
  | connect => exact one (.connect rfl)
  | message id message => exact handle rfl
  | hangUp id => exact drop origin id
  | writable id =>
      have flushed : Acts origin (.writable id) origin (origin.flush id) := told (.flush origin id)
      dsimp only [Server.step, Server.writable]
      split
      · exact flushed.trans (drop _ id)
      · exact flushed
  | paste id chunk =>
      refine .trans (one (.types (.inr ⟨chunk, rfl, rfl⟩))) ?_
      exact @say _ _ origin _ _ id (.pasteAck ⟨chunk.seq⟩) rfl
  | pasteAck id seq => exact @say _ _ origin _ origin id (.pasteAck ⟨seq⟩) rfl
  | output id session program => exact deed origin id (.emulate session program) rfl
  | wait now => exact one (.wait rfl)
  | tick => exact flushTick rfl
  | sweep => exact one (.sweep rfl)

/-- What every act keeps, any number of acts keep. -/
theorem along {kept : Server → Prop} {origin after : Server} {event : ServerEvent}
    (act : ∀ before after, Acts origin event origin before → kept before →
      Act origin event before after → kept after)
    (start : kept origin) (acts : Acts origin event origin after) : kept after := by
  induction acts with
  | refl => exact start
  | tail before last ih => exact act _ _ before ih last

/-- What every act keeps, a step keeps. -/
theorem keep {kept : Server → Prop} {origin : Server} {event : ServerEvent}
    (act : ∀ before after, Acts origin event origin before → kept before →
      Act origin event before after → kept after)
    (start : kept origin) : kept (origin.step event) := along act start (step origin event)

end Acts

end

end Server

end Ckmux
