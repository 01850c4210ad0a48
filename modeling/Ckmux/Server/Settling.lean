import Mathlib
import Ckmux.Server.Alters
import Ckmux.Server.Placing
import Ckmux.Server.Shaping

/-!
# A step, and what it tells of places

A step does what it does to its clients, sessions and terminals, and whoever is there hears of
no place meanwhile; then it tells what there is. Only an attach seats a client elsewhere, and
whoever is attached is in a session that is there.
-/

namespace Ckmux

open Grammar (Bytes)
open Proto (Message)
open Semantics (System)

/-- A client that is new: it has been sent nothing. -/
def Client.Unaddressed (client : Client) : Prop :=
  client.stream.sent = [] ∧ client.attached = false

/-- What has become of a client that has been told of no place. -/
structure Client.Hushed (before after : Client) : Prop where
  id : after.id = before.id
  failed : before.stream.writeFailed = true → after.stream.writeFailed = true
  sent : ∃ fresh, after.stream.sent = before.stream.sent ++ fresh ∧
    ∀ message ∈ fresh, places message = false

/-- Whether a client is attached only where it was before. It is in the terminal it was in, or
has typed into another. -/
def Client.Stays (typed : TerminalId → Prop) (before after : Client) : Prop :=
  after.attached = true → before.attached = true ∧ after.session = before.session ∧
    (after.focused = before.focused ∨ typed after.focused)

/-- A client stays as it is. -/
theorem Client.Stays.refl (typed : TerminalId → Prop) (client : Client) : client.Stays typed client :=
  fun still => ⟨still, rfl, .inl rfl⟩

/-- A client that stays and stays again has stayed. -/
theorem Client.Stays.trans {typed : TerminalId → Prop} {before middle after : Client}
    (first : before.Stays typed middle) (second : middle.Stays typed after) :
    before.Stays typed after := by
  intro still
  obtain ⟨here, session, focus⟩ := second still
  obtain ⟨was, home, earlier⟩ := first here
  refine ⟨was, session.trans home, focus.elim (fun same => ?_) .inr⟩
  rwa [same]

namespace Client.Hushed

variable {before middle after : Client}

/-- A client whose socket is as it was. -/
theorem idle (id : after.id = before.id) (stream : after.stream = before.stream) :
    before.Hushed after :=
  ⟨id, fun was => stream ▸ was, [], by rw [stream, List.append_nil],
    fun _ among => absurd among List.not_mem_nil⟩

/-- A client as it was is hushed. -/
theorem refl (client : Client) : client.Hushed client := idle rfl rfl

/-- Hushed through two steps. -/
theorem trans (first : before.Hushed middle) (second : middle.Hushed after) :
    before.Hushed after := by
  obtain ⟨fresh, grown, unplaced⟩ := first.sent
  obtain ⟨later, further, silent⟩ := second.sent
  refine ⟨second.id.trans first.id, fun was => second.failed (first.failed was), fresh ++ later,
    by rw [further, grown, List.append_assoc], fun message among => ?_⟩
  rcases List.mem_append.mp among with now | later
  · exact unplaced message now
  · exact silent message later

end Client.Hushed

/-- News that places nothing leaves the client hushed. -/
theorem Client.Hears.hushed {unfailing : Prop} {news : Message → Prop} {before after : Client}
    (hears : Hears unfailing news before after)
    (unplaced : ∀ message, news message → places message = false) : before.Hushed after := by
  obtain ⟨fresh, grown, said⟩ := hears.sent
  exact ⟨hears.id, hears.failed, fresh, grown, fun message among => unplaced message (said message among)⟩

/-- Hearing moves no client. -/
theorem Client.Hears.stay {unfailing : Prop} {news : Message → Prop} {before after : Client}
    (hears : Hears unfailing news before after) (typed : TerminalId → Prop) :
    before.Stays typed after :=
  fun still => ⟨hears.stays still, hears.session, .inl hears.focused⟩

namespace Server

section

variable (origin : Server) (event : ServerEvent)

/-- Whoever is there was there, or is new, and has been told of no place since; if it is
attached, it is where it was. -/
def Quiet (before after : Server) : Prop :=
  ∀ client ∈ after.clients, ∃ one, (one ∈ before.clients ∨ one.Unaddressed) ∧
    one.Hushed client ∧ one.Stays (origin.Types event client.id) client

end

variable {origin server before middle after : Server} {news : ClientId → Message → Prop}
  {event : ServerEvent}

namespace Quiet

/-- Where the clients are the same, it was quiet. -/
theorem same (clients : after.clients = before.clients) : Quiet origin event before after :=
  fun client there => ⟨client, .inl (clients ▸ there), .refl client, .refl _ client⟩

/-- Quiet through two steps. -/
theorem trans (first : Quiet origin event before middle) (second : Quiet origin event middle after) :
    Quiet origin event before after := by
  intro client there
  obtain ⟨one, was | new, hushed, stays⟩ := second client there
  · obtain ⟨once, early, quiet, stayed⟩ := first one was
    exact ⟨once, early, quiet.trans hushed, .trans (hushed.id ▸ stayed) stays⟩
  · exact ⟨one, .inr new, hushed, stays⟩

/-- Hearing what places nothing is quiet. -/
theorem heard (unplaced : ∀ id message, news id message → places message = false)
    (heard : Heard news before after) : Quiet origin event before after := by
  intro client there
  obtain ⟨one, was, hears⟩ := Data.paired_before heard there
  exact ⟨one, .inl was, hears.hushed (unplaced _), hears.stay _⟩

/-- Telling what places nothing is quiet. -/
theorem tells {notes : Terminal → Terminal → Prop}
    (unplaced : ∀ id message, news id message → places message = false)
    (tells : Tells news notes before after) : Quiet origin event before after :=
  heard unplaced (Heard.told tells fun _ _ said => said)

/-- Forgetting a session is quiet for those elsewhere. -/
theorem forgetSession (server : Server) (id : SessionId) (reason : Proto.DetachReason)
    (text : Bytes) : Quiet origin event server (server.forgetSession id reason text) :=
  heard (fun _ _ unplaced => unplaced) (Heard.forgetSession server id reason text)

/-- Opening a terminal is quiet. -/
theorem openTerminal [Emulator] {id : SessionId} {home : Session}
    (found : server.sessionFor id = some home) (spec : TerminalSpec) :
    Quiet origin event server (server.openTerminal id spec).2 := by
  rw [openTerminal_eq found]
  exact same rfl

/-- Input is quiet but for the one who typed. -/
theorem input {id : ClientId} {given : Proto.Input}
    (asked : origin.Asks event id (.input given) ∨
      ∃ chunk, event = .paste id chunk ∧ given = ⟨chunk.term, chunk.bytes⟩) :
    Quiet origin event origin (origin.input id given) := by
  unfold Server.input
  split
  · exact same rfl
  · rename_i terminal found
    have types : origin.Types event id given.term := by
      refine ⟨by rw [found]; rfl, ?_⟩
      rcases asked with asks | ⟨chunk, pastes, rfl⟩
      · exact .inl ⟨given, asks, rfl⟩
      · exact .inr ⟨chunk, pastes, rfl⟩
    have typed : Quiet origin event origin ((origin.setTerminal given.term fun terminal =>
        terminal.ask (.input given.bytes)).setClient id fun client =>
          { client with focused := given.term }) := by
      intro client there
      obtain ⟨one, was, rfl⟩ := List.mem_map.mp there
      refine ⟨one, .inl was, ?_⟩
      split
      · rename_i named
        exact ⟨.idle rfl rfl, fun still => ⟨still, rfl, .inr (named ▸ types)⟩⟩
      · exact ⟨.refl one, .refl _ one⟩
    dsimp only
    split
    · exact typed
    · exact typed.trans (same rfl)

/-- Nobody is told of a place unless somebody attaches, or asks for another desktop. -/
theorem act [CkVision] [Emulator] (untimed : event ≠ .tick)
    (attaches : ∀ id request, ¬origin.Asks event id (.attach request))
    (resizes : ∀ id resize, ¬origin.Asks event id (.clientResize resize))
    (fits : ∀ id fit, ¬origin.Asks event id (.setDesktopSize fit))
    (act : Act origin event before after) : Quiet origin event before after := by
  cases act with
  | speak told => exact tells (fun _ _ => places_of_states) told
  | fetch =>
      refine tells (fun _ _ said => ?_) (Tells.sendChunks ..)
      obtain ⟨_, _, _, rfl⟩ := said
      rfl
  | connect =>
      intro client there
      rcases List.mem_append.mp there with was | new
      · exact ⟨client, .inl was, .refl client, .refl _ client⟩
      · rw [List.mem_singleton.mp new]
        exact ⟨_, .inr ⟨rfl, rfl⟩, .refl _, .refl _ _⟩
  | sweep =>
      exact fun client there =>
        ⟨client, .inl (List.mem_of_mem_filter there), .refl client, .refl _ client⟩
  | wait | closes | kills | create | rename | print | respawn | rehome | takeOut | lose | deed | kill
  | policies | observed => exact same rfl
  | reshape asked =>
      obtain ⟨_, _, _, _, ⟨_, asks, _⟩ | ⟨_, asks, _⟩, _⟩ := asked
      · exact absurd asks (resizes _ _)
      · exact absurd asks (fits _ _)
  | forget => exact forgetSession _ _ _ _
  | @bury _ session text due =>
      have closed : Quiet origin event before (session.terminals.foldl closeTerminal before) :=
        heard (fun _ _ unplaced => unplaced) (Heard.closeTerminals before session.terminals)
      exact closed.trans (forgetSession _ _ _ _)
  | spawn asked made found first => exact openTerminal found _
  | @opens _ home spec columns rows _ _ asked found first =>
      refine (openTerminal found spec).trans (tells ?_ (Tells.tellOpened _ home.id _))
      rintro _ _ rfl
      rfl
  | @respawnIn _ terminal home _ _ columns rows =>
      have again : Quiet origin event before (before.relaunch terminal.id) := same rfl
      refine again.trans (tells ?_ (Tells.tellOpened _ home.id _))
      rintro _ _ rfl
      rfl
  | types asked => exact input asked
  | welcome asked => exact absurd asked (attaches _ _)
  | heal ticks | news ticks | layout ticks => exact absurd ticks untimed

end Quiet

/-! ### Whoever is attached is somewhere -/

/-- Whether every attached client's session is there. -/
def Housed (server : Server) : Prop :=
  ∀ client ∈ server.clients, client.attached = true →
    ∃ home ∈ server.sessions, home.id = client.session

/-- Whether clients are told apart, and every attached one is somewhere. -/
structure Lodged (server : Server) : Prop where
  distinct : (server.clients.map Client.id).Nodup
  housed : server.Housed

/-- Lodging needs only the clients and the sessions' ids. -/
theorem Lodged.congr (lodged : before.Lodged) (clients : after.clients = before.clients)
    (sessions : ∀ home ∈ before.sessions, ∃ later ∈ after.sessions, later.id = home.id) :
    after.Lodged where
  distinct := clients ▸ lodged.distinct
  housed client there attached := by
    obtain ⟨home, listed, named⟩ := lodged.housed client (clients ▸ there) attached
    obtain ⟨later, still, same⟩ := sessions home listed
    exact ⟨later, still, same.trans named⟩

/-- Telling the clients moves none of them. -/
theorem Lodged.tells {notes : Terminal → Terminal → Prop} (tells : Tells news notes before after)
    (lodged : before.Lodged) : after.Lodged where
  distinct := by
    rw [Data.paired_same (fun _ _ hears => hears.id) tells.clients]
    exact lodged.distinct
  housed client there attached := by
    obtain ⟨one, was, hears⟩ := Data.paired_before tells.clients there
    obtain ⟨home, listed, named⟩ := lodged.housed one was (hears.stays attached)
    exact ⟨home, tells.sessions ▸ listed, named.trans hears.session.symm⟩

/-- A client detached is attached nowhere. -/
theorem detach_leaves (distinct : (server.clients.map Client.id).Nodup) {id : ClientId}
    {reason : Proto.DetachReason} {text : Bytes} {client : Client}
    (there : client ∈ (server.detach id reason text).clients) (named : client.id = id) :
    client.attached = false := by
  unfold Server.detach at there
  split at there
  · rename_i missing
    exact absurd named (of_decide_eq_false (Bool.eq_false_of_not_eq_true
      (List.find?_eq_none.mp missing client there)))
  · rename_i found
    split at there
    · rename_i away
      have only := Data.find_of_mem distinct there
      obtain rfl := Option.some.inj (found.symm.trans (named ▸ only))
      exact Bool.eq_false_of_not_eq_true away
    · have told : Tells (fun _ _ => True) Eq (server.setClient id Client.leave)
          ((server.setClient id Client.leave).tell id (.detached ⟨reason, text⟩)) :=
        .tell _ id trivial
      obtain ⟨one, left, hears⟩ := Data.paired_before told.clients there
      obtain ⟨was, _, rfl⟩ := List.mem_map.mp left
      by_contra attached
      have still := hears.stays (Bool.eq_true_of_not_eq_false attached)
      have same := hears.id.symm.trans named
      split at still
      · cases still
      · rename_i other
        rw [if_neg other] at same
        exact other same

/-- One client taken out of a session it may be in. -/
theorem detach_one (distinct : (server.clients.map Client.id).Nodup) (id : SessionId)
    (reason : Proto.DetachReason) (text : Bytes) (each : ClientId) :
    let left := match server.client each with
      | none => server
      | some client =>
          if client.attached ∧ client.session = id then server.detach each reason text else server
    Tells (fun _ _ => True) Eq server left ∧
      ∀ client ∈ left.clients, client.id = each → ¬(client.attached = true ∧ client.session = id) := by
  dsimp only
  split
  · rename_i missing
    refine ⟨.refl server, fun client there named => absurd named ?_⟩
    exact of_decide_eq_false (Bool.eq_false_of_not_eq_true
      (List.find?_eq_none.mp missing client there))
  · rename_i found
    split
    · refine ⟨.detach server each trivial, fun client there named => ?_⟩
      rw [detach_leaves distinct there named]
      exact fun attached => Bool.false_ne_true attached.1
    · rename_i elsewhere
      refine ⟨.refl server, fun client there named => ?_⟩
      have only := Data.find_of_mem distinct there
      obtain rfl := Option.some.inj (found.symm.trans (named ▸ only))
      exact elsewhere

/-- Some clients taken out of a session, one after another. -/
theorem detach_all (distinct : (server.clients.map Client.id).Nodup) (id : SessionId)
    (reason : Proto.DetachReason) (text : Bytes) (ids : List ClientId) :
    let left := ids.foldl (fun server each =>
      match server.client each with
      | none => server
      | some client =>
          if client.attached ∧ client.session = id then server.detach each reason text
          else server) server
    Tells (fun _ _ => True) Eq server left ∧
      ∀ client ∈ left.clients, client.id ∈ ids → ¬(client.attached = true ∧ client.session = id) := by
  induction ids generalizing server with
  | nil => exact ⟨.refl server, fun _ _ among => absurd among List.not_mem_nil⟩
  | cons each ids ih =>
      obtain ⟨first, gone⟩ := detach_one distinct id reason text each
      have still := distinct
      rw [← Data.paired_same (fun _ _ hears => hears.id) first.clients] at still
      obtain ⟨rest, none⟩ := ih still
      refine ⟨first.next rest, fun client there among => ?_⟩
      rcases List.mem_cons.mp among with here | later
      · obtain ⟨one, was, hears⟩ := Data.paired_before rest.clients there
        rintro ⟨attached, home⟩
        exact gone one was (hears.id.symm.trans here)
          ⟨hears.stays attached, hears.session.symm.trans home⟩
      · exact none client there later

/-- Whoever was in a session that is forgotten is in it no longer. -/
theorem Lodged.forgetSession (lodged : server.Lodged) (id : SessionId)
    (reason : Proto.DetachReason) (text : Bytes) :
    (server.forgetSession id reason text).Lodged := by
  obtain ⟨left, is⟩ : ∃ left, left = (server.clients.map Client.id).foldl (fun server each =>
    match server.client each with
    | none => server
    | some client =>
        if client.attached ∧ client.session = id then server.detach each reason text else server)
    server := ⟨_, rfl⟩
  obtain ⟨told, gone⟩ := detach_all lodged.distinct id reason text (server.clients.map Client.id)
  rw [← is] at told gone
  have here := lodged.tells told
  have forgotten : ({ left with
      sessions := left.sessions.filter fun session => session.id ≠ id } : Server).Lodged := by
    refine ⟨here.distinct, fun client there attached => ?_⟩
    obtain ⟨home, listed, named⟩ := here.housed client there attached
    refine ⟨home, List.mem_filter.mpr ⟨listed, decide_eq_true fun same => ?_⟩, named⟩
    obtain ⟨one, was, hears⟩ := Data.paired_before told.clients there
    have among := List.mem_map_of_mem (f := Client.id) was
    exact gone client there (hears.id ▸ among) ⟨attached, named.symm.trans same⟩
  have broadcast : Tells (fun _ _ => True) Eq _ (Server.broadcastSessionList { left with
      sessions := left.sessions.filter fun session => session.id ≠ id } none) :=
    .broadcastSessionList _ none fun _ _ => trivial
  have forgets : server.forgetSession id reason text =
      let told := Server.broadcastSessionList { left with
        sessions := left.sessions.filter fun session => session.id ≠ id } none
      if told.sessions.isEmpty ∧ told.aSessionHasExisted then { told with running := false }
      else told := by
    rw [is]
    rfl
  have housed := forgotten.tells broadcast
  rw [forgets]
  dsimp only
  split
  · exact ⟨housed.distinct, housed.housed⟩
  · exact housed

/-! ### Sitting down -/

/-- A session attached to is there, if it had to be made. -/
theorem attachSession_listed {request : Proto.Attach} {session : Session} {made : Server}
    (asked : server.attachSession request = (some session, made)) : session ∈ made.sessions := by
  unfold Server.attachSession at asked
  split at asked
  · rename_i found
    cases asked
    exact List.mem_of_find?_eq_some found
  · split at asked
    · cases asked
    · split at asked
      · rename_i held
        cases asked
        rw [held]
        exact List.mem_cons_self
      · cases asked
        exact List.mem_append_right _ (List.mem_singleton.mpr rfl)

/-- No session goes when one is attached to. -/
theorem attachSession_keeps {request : Proto.Attach} {session : Option Session} {made : Server}
    (asked : server.attachSession request = (session, made)) :
    ∀ home ∈ server.sessions, ∃ later ∈ made.sessions, later.id = home.id := by
  have kept : server.sessions ⊆ made.sessions := by
    unfold Server.attachSession at asked
    split at asked
    · cases asked
      exact fun _ listed => listed
    · split at asked
      · cases asked
        exact fun _ listed => listed
      · split at asked
        · cases asked
          exact fun _ listed => listed
        · cases asked
          exact fun _ listed => List.mem_append_left _ listed
  exact fun home listed => ⟨home, kept listed, rfl⟩

/-- A server in which somebody is about to sit down in a session. -/
theorem seat_eq (server : Server) (id : ClientId) (request : Proto.Attach) (session : Session) :
    ∃ granted, Tells (fun _ message => states message = false) Eq
        (server.setSession session.id fun session =>
        { session with
          desktop := server.arrivingDesktop session ⟨request.columns.toNat, request.rows.toNat⟩ })
        granted ∧
      server.seat id request session = granted.setClient id (settle request session.id) := by
  obtain ⟨sized, is⟩ : ∃ sized, sized = server.setSession session.id fun session =>
      { session with
        desktop := server.arrivingDesktop session ⟨request.columns.toNat, request.rows.toNat⟩ } :=
    ⟨_, rfl⟩
  have taken : Tells (fun _ message => states message = false) Eq sized
      (sized.takeOver id session.id) := by
    unfold Server.takeOver
    split
    · exact .refl sized
    · split
      · exact .refl sized
      · exact .detach sized _ rfl
  unfold Server.seat
  dsimp only
  rw [← is]
  split
  · exact ⟨_, taken, rfl⟩
  · exact ⟨_, .refl sized, rfl⟩

/-- Whoever is there when somebody has sat down was there before. -/
theorem seat_clients {id : ClientId} {request : Proto.Attach} {session : Session} {client : Client}
    (there : client ∈ (server.seat id request session).clients) :
    ∃ one ∈ server.clients, one.Hushed client ∧ client.focused = one.focused ∧
      if client.id = id then client.session = session.id
      else one.attached = true ∧ client.session = one.session ∨ client.attached = false := by
  obtain ⟨granted, told, is⟩ := seat_eq server id request session
  rw [is] at there
  obtain ⟨one, was, rfl⟩ := List.mem_map.mp there
  obtain ⟨once, early, hears⟩ := Data.paired_before told.clients was
  refine ⟨once, early, ?_⟩
  split
  · rename_i named
    have hushed := hears.hushed fun _ => places_of_states
    refine ⟨⟨hushed.id, hushed.failed, hushed.sent⟩, hears.focused, ?_⟩
    rw [if_pos (by exact named)]
    rfl
  · rename_i other
    refine ⟨hears.hushed fun _ => places_of_states, hears.focused, ?_⟩
    by_cases attached : one.attached = true
    · exact .inl ⟨hears.stays attached, hears.session⟩
    · exact .inr (Bool.eq_false_of_not_eq_true attached)

/-- A client seated in a listed session is lodged. -/
theorem Lodged.seat (lodged : server.Lodged) {id : ClientId} {request : Proto.Attach}
    {session : Session} (listed : session ∈ server.sessions) :
    (server.seat id request session).Lodged := by
  have still : ∀ home ∈ server.sessions,
      ∃ later ∈ (server.seat id request session).sessions, later.id = home.id := by
    intro home here
    obtain ⟨_, _, sessions⟩ := seat_terminals server id request session
    rw [sessions]
    refine ⟨_, List.mem_map_of_mem here, ?_⟩
    split <;> rfl
  refine ⟨?_, fun client there attached => ?_⟩
  · obtain ⟨granted, told, is⟩ := seat_eq server id request session
    have ids : (granted.clients.map Client.id).Nodup := by
      rw [Data.paired_same (fun _ _ hears => hears.id) told.clients]
      exact lodged.distinct
    have same : (granted.setClient id (settle request session.id)).clients.map Client.id =
        granted.clients.map Client.id := by
      refine List.map_map.trans (List.map_congr_left fun client _ => ?_)
      dsimp only [Function.comp]
      split <;> rfl
    rw [is, same]
    exact ids
  · obtain ⟨one, was, _, _, home⟩ := seat_clients there
    split at home
    · obtain ⟨later, here, named⟩ := still session listed
      exact ⟨later, here, named.trans home.symm⟩
    · rcases home with ⟨attached, same⟩ | away
      · obtain ⟨home, here, named⟩ := lodged.housed one was attached
        obtain ⟨later, there, kept⟩ := still home here
        exact ⟨later, there, (kept.trans named).trans same.symm⟩
      · exact absurd (away.symm.trans attached) Bool.false_ne_true

namespace Lodged

/-- A session changed but for its id keeps its lodgers. -/
theorem setSession (lodged : server.Lodged) (id : SessionId) {change : Session → Session}
    (kept : ∀ session, (change session).id = session.id) : (server.setSession id change).Lodged := by
  refine lodged.congr rfl fun home listed => ⟨_, List.mem_map_of_mem listed, ?_⟩
  split
  · exact kept home
  · rfl

/-- Typing moves nobody. -/
theorem input (lodged : server.Lodged) (id : ClientId) (given : Proto.Input) :
    (server.input id given).Lodged := by
  have typed : ((server.setTerminal given.term fun terminal =>
      terminal.ask (.input given.bytes)).setClient id fun client =>
        { client with focused := given.term }).Lodged := by
    refine ⟨?_, fun client there attached => ?_⟩
    · have same : ((server.setTerminal given.term fun terminal =>
          terminal.ask (.input given.bytes)).setClient id fun client =>
            { client with focused := given.term }).clients.map Client.id =
              server.clients.map Client.id := by
        refine List.map_map.trans (List.map_congr_left fun client _ => ?_)
        dsimp only [Function.comp]
        split <;> rfl
      rw [same]
      exact lodged.distinct
    · obtain ⟨one, was, rfl⟩ := List.mem_map.mp there
      have still : one.attached = true := by
        revert attached
        split <;> exact fun attached => attached
      obtain ⟨home, listed, named⟩ := lodged.housed one was still
      refine ⟨home, listed, named.trans ?_⟩
      split <;> rfl
  unfold Server.input
  split
  · exact lodged
  · dsimp only
    split
    · exact typed
    · exact typed.setSession _ fun _ => rfl

/-- Opening a terminal moves nobody. -/
theorem openTerminal [Emulator] (lodged : server.Lodged) {id : SessionId} {home : Session}
    (found : server.sessionFor id = some home) (spec : TerminalSpec) :
    (server.openTerminal id spec).2.Lodged := by
  have opened : ({ server with
      terminals := server.terminals ++ [Terminal.opened server.nextTerminal spec]
      nextTerminal := server.nextTerminal + 1 } : Server).Lodged :=
    ⟨lodged.distinct, lodged.housed⟩
  rw [openTerminal_eq found]
  exact opened.setSession home.id fun _ => rfl

/-- Another size for the desktop moves nobody. -/
theorem changeDesktop (lodged : server.Lodged) (session : Session) (wanted : Size) :
    (server.changeDesktop session wanted).Lodged := by
  unfold Server.changeDesktop
  split
  · exact lodged
  · have sized : (server.setSession session.id fun session =>
        { session with desktop := wanted }).Lodged := lodged.setSession _ fun _ => rfl
    exact sized.tells (Tells.announceLayout _ session.id)

/-- A snapshot moves nobody. -/
theorem sendSnapshot [Emulator] (lodged : server.Lodged) (id : ClientId) :
    (server.sendSnapshot id).Lodged := by
  cases found : server.client id with
  | none =>
      unfold Server.sendSnapshot
      rw [found]
      exact lodged
  | some client => exact lodged.tells (Tells.sendSnapshot found)

/-- Whoever is attached is somewhere, whatever a server does. -/
theorem act [CkVision] [Emulator] (sound : origin.Sound) (kept : before.ledger.Kept)
    (act : Act origin event before after) (lodged : before.Lodged) : after.Lodged := by
  cases act with
  | speak told => exact lodged.tells told
  | fetch => exact lodged.tells (Tells.sendChunks ..)
  | connect =>
      refine ⟨sound.connect.distinct, fun client there attached => ?_⟩
      rcases List.mem_append.mp there with was | new
      · exact lodged.housed client was attached
      · rw [List.mem_singleton.mp new] at attached
        cases attached
  | sweep =>
      refine ⟨lodged.distinct.sublist (List.filter_sublist.map _), fun client there => ?_⟩
      exact lodged.housed client (List.mem_of_mem_filter there)
  | wait | closes | kills | respawn | lose | deed | kill | policies | observed =>
      exact ⟨lodged.distinct, lodged.housed⟩
  | create =>
      exact lodged.congr rfl fun home listed => ⟨home, List.mem_append_left _ listed, rfl⟩
  | @rename _ _ session => exact lodged.setSession session.id fun _ => rfl
  | @print _ id => exact lodged.setSession id fun _ => rfl
  | reshape => exact lodged.changeDesktop ..
  | forget => exact lodged.forgetSession ..
  | @bury _ session =>
      have closed : (session.terminals.foldl closeTerminal before).Lodged := by
        have clients : (session.terminals.foldl closeTerminal before).clients = before.clients :=
          foldl_keeps Server.clients session.terminals (by exact fun _ _ => rfl) before
        have sessions : (session.terminals.foldl closeTerminal before).sessions = before.sessions :=
          foldl_keeps Server.sessions session.terminals (by exact fun _ _ => rfl) before
        exact lodged.congr clients fun home listed => ⟨home, sessions ▸ listed, rfl⟩
      exact closed.forgetSession ..
  | spawn asked made found first => exact lodged.openTerminal found _
  | @opens _ home spec columns rows _ _ asked found first =>
      exact (lodged.openTerminal found spec).tells (Tells.tellOpened _ home.id _)
  | @respawnIn _ terminal home _ _ columns rows =>
      have again : (before.relaunch terminal.id).Lodged := ⟨lodged.distinct, lodged.housed⟩
      exact again.tells (Tells.tellOpened _ home.id _)
  | @rehome _ term source target =>
      have left : (before.setSession source.id fun session =>
          { session with terminals := session.terminals.filter fun id => id ≠ term }).Lodged :=
        lodged.setSession _ fun _ => rfl
      have placed : ((before.setSession source.id fun session =>
          { session with terminals := session.terminals.filter fun id => id ≠ term }).setSession
            target.id fun session =>
              { session with terminals := session.terminals ++ [term] }).Lodged :=
        left.setSession _ fun _ => rfl
      exact ⟨placed.distinct, placed.housed⟩
  | @takeOut _ term home =>
      have closed : (before.closeTerminal term).Lodged := ⟨lodged.distinct, lodged.housed⟩
      exact closed.setSession home.id fun _ => rfl
  | types => exact lodged.input ..
  | @welcome _ id request session asked found =>
      exact (lodged.seat (attachSession_listed found)).sendSnapshot id
  | @heal _ client => exact lodged.sendSnapshot client.id
  | @news _ terminal => exact lodged.tells (Tells.announceNews kept.distinct terminal fun _ _ => places_of_tidings)
  | @layout _ session => exact lodged.tells (Tells.announceSessionLayout before session false)

end Lodged

/-! ### Steps -/

/-- A step cut in two: what is done, and then what is told of it. -/
structure Settles (origin : Server) (event : ServerEvent) (middle after : Server) : Prop where
  lodged : middle.Lodged
  clients : ∀ client ∈ middle.clients, ∃ one, (one ∈ origin.clients ∨ one.Unaddressed) ∧
    one.Hushed client ∧ (one.Stays (origin.Types event client.id) client ∨
      one ∈ origin.clients ∧ origin.Seats event client.id client.session ∧
        client.focused = one.focused)
  told : Tells middle.Places Terminal.Noted middle after

/-- A step in which nobody is told of a place. -/
theorem Settles.quiet (quiet : Quiet origin event origin after) (lodged : after.Lodged) :
    Settles origin event after after where
  lodged := lodged
  clients client there := by
    obtain ⟨one, was, hushed, stays⟩ := quiet client there
    exact ⟨one, was, hushed, .inl stays⟩
  told := (Tells.refl after).noting Terminal.Noted.refl

/-- A desktop changed, and then told of. -/
theorem changeDesktop_settles (apart : (server.sessions.map Session.id).Nodup) (home : Session)
    (wanted : Size) :
    ∃ sized, Tells sized.Places Terminal.Flagged sized (server.changeDesktop home wanted) ∧
      sized.clients = server.clients ∧
      ∀ home ∈ server.sessions, ∃ later ∈ sized.sessions, later.id = home.id := by
  unfold Server.changeDesktop
  split
  · exact ⟨server, (Tells.refl server).noting Terminal.Flagged.refl, rfl,
      fun home listed => ⟨home, listed, rfl⟩⟩
  · refine ⟨_, Tells.placesLayout ?_ home.id, rfl, fun other listed => ?_⟩
    · have same : (server.setSession home.id fun session =>
          { session with desktop := wanted }).sessions.map Session.id =
            server.sessions.map Session.id := by
        refine List.map_map.trans (List.map_congr_left fun session _ => ?_)
        dsimp only [Function.comp]
        split <;> rfl
      rw [same]
      exact apart
    · refine ⟨_, List.mem_map_of_mem listed, ?_⟩
      split <;> rfl

/-- A desktop resized settles. -/
theorem Settles.resized (lodged : origin.Lodged) {measured : Server}
    (measures : Tells Unplaced Eq origin measured) (apart : (origin.sessions.map Session.id).Nodup)
    (home : Session) (wanted : Size) :
    ∃ middle, Settles origin event middle (measured.changeDesktop home wanted) := by
  obtain ⟨sized, told, clients, sessions⟩ :=
    @changeDesktop_settles measured (measures.sessions.symm ▸ apart) home wanted
  refine ⟨sized, (lodged.tells measures).congr clients sessions, fun client there => ?_,
    told.mono (fun _ _ placed => placed) fun _ _ => Terminal.Flagged.noted⟩
  have quiet : Quiet origin event origin sized :=
    (Quiet.tells (fun _ _ unplaced => unplaced) measures).trans (.same clients)
  obtain ⟨one, was, hushed, stays⟩ := quiet client there
  exact ⟨one, was, hushed, .inl stays⟩

/-- An attachment settles. -/
theorem Settles.attach [Emulator] (lodged : origin.Lodged) {id : ClientId} {request : Proto.Attach}
    (asks : origin.Asks event id (.attach request)) :
    ∃ middle, Settles origin event middle (origin.attach id request) := by
  unfold Server.attach
  split
  · rename_i made asked
    have same : made = origin := by
      unfold Server.attachSession at asked
      split at asked
      · cases asked
      · split at asked
        · exact (congrArg Prod.snd asked).symm
        · split at asked <;> cases asked
    have told : Tells Unplaced Eq origin
        (origin.refuse id .noSuchSession (utf8 "Attach") (utf8 "no such session")) :=
      .say origin id rfl rfl
    rw [same]
    exact ⟨_, .quiet (.tells (fun _ _ unplaced => unplaced) told) (lodged.tells told)⟩
  · rename_i session made asked
    obtain ⟨clients, _, _⟩ := attachSession_same asked
    have made_lodged : made.Lodged := lodged.congr clients (attachSession_keeps asked)
    have seated : (made.seat id request session).Lodged :=
      made_lodged.seat (attachSession_listed asked)
    obtain ⟨client, found, _⟩ := asks.2
    have there := @seat_client made id client (by rwa [Server.client, clients]) request session
    have told : Tells (made.seat id request session).Places Terminal.Flagged
        (made.seat id request session) ((made.seat id request session).sendSnapshot id) :=
      .wholeSession there rfl
    have dirtied : Tells (made.seat id request session).Places Terminal.Flagged
        (made.seat id request session)
        { (made.seat id request session).sendSnapshot id with sessionListDirty := true } :=
      told.also (.beside rfl rfl rfl)
    refine ⟨_, seated, fun other among => ?_, dirtied.mono (fun _ _ placed => placed)
      fun _ _ => Terminal.Flagged.noted⟩
    obtain ⟨one, was, hushed, focus, where_⟩ := seat_clients among
    rw [clients] at was
    refine ⟨one, .inl was, hushed, ?_⟩
    split at where_
    · rename_i named
      rw [where_, named]
      exact .inr ⟨was, ⟨request, session, made, asks, asked, rfl⟩, focus⟩
    · left
      intro attached
      rcases where_ with ⟨still, home⟩ | away
      · exact ⟨still, home, .inl focus⟩
      · exact absurd (away.symm.trans attached) Bool.false_ne_true

/-- A client's resize settles. -/
theorem Settles.clientResize (lodged : origin.Lodged) (apart : (origin.sessions.map Session.id).Nodup)
    (id : ClientId) (resize : Proto.ClientResize) :
    ∃ middle, Settles origin event middle (origin.clientResize id resize) := by
  have measures : Tells Unplaced Eq origin (origin.setClient id (measure resize)) :=
    .idle origin id fun _ => rfl
  have still : ∃ middle, Settles origin event middle (origin.setClient id (measure resize)) :=
    ⟨_, .quiet (.tells (fun _ _ unplaced => unplaced) measures) (lodged.tells measures)⟩
  rw [clientResize_eq]
  split
  · exact still
  · dsimp only
    split
    · exact still
    · exact Settles.resized lodged measures apart _ _

/-- A desktop set to a size settles. -/
theorem Settles.setDesktopSize (lodged : origin.Lodged) (apart : (origin.sessions.map Session.id).Nodup)
    (id : ClientId) (fit : Proto.SetDesktopSize) :
    ∃ middle, Settles origin event middle (origin.setDesktopSize id fit) := by
  unfold Server.setDesktopSize
  split
  · exact ⟨_, .quiet (.same rfl) lodged⟩
  · exact Settles.resized lodged (.refl origin) apart _ _

variable [CkVision] [Emulator]

/-- What any number of acts keep of the ledger, and of who is where. -/
theorem Acts.lodged (filed : origin.Filed) (unspent : origin.Unspent) (sound : origin.Sound)
    (lodged : origin.Lodged) (acts : Acts origin event origin after) :
    origin.Moved after ∧ after.Lodged :=
  @Acts.along _ _ (fun server => origin.Moved server ∧ server.Lodged) _ _ _
    (fun _ _ _ kept act => ⟨kept.1.file unspent filed (Files.act kept.1.filed act),
      Lodged.act sound kept.1.filed act kept.2⟩)
    ⟨⟨filed.kept, .refl .., .refl ..⟩, lodged⟩ acts

/-- Every step is cut in two. -/
theorem step_settles (filed : origin.Filed) (unspent : origin.Unspent) (sound : origin.Sound)
    (lodged : origin.Lodged) (event : ServerEvent) :
    ∃ middle, Settles origin event middle (origin.step event) := by
  have apart : (origin.sessions.map Session.id).Nodup := ledger_keys origin ▸ filed.kept.apart
  have after : (origin.step event).Lodged :=
    (Acts.lodged filed unspent sound lodged (Acts.step origin event)).2
  by_cases ticks : event = .tick
  · subst ticks
    obtain ⟨moved, housed⟩ := Acts.lodged filed unspent sound lodged (Acts.noticed rfl)
    have quiet : Quiet origin .tick origin origin.noticed :=
      .heard (fun _ _ unplaced => unplaced) (Heard.noticed origin)
    refine ⟨origin.noticed, housed, fun client there => ?_, ?_⟩
    · obtain ⟨one, was, hushed, stays⟩ := quiet client there
      exact ⟨one, was, hushed, .inl stays⟩
    · exact Tells.flushTick (ledger_keys _ ▸ moved.filed.apart) moved.filed.distinct
  by_cases attaches : ∃ id request, origin.Asks event id (.attach request)
  · obtain ⟨id, request, asks⟩ := attaches
    have step : origin.step event = origin.attach id request := by
      rw [asks.1]
      exact Obeys.handle asks.2
    rw [step]
    exact Settles.attach lodged asks
  by_cases resizes : ∃ id resize, origin.Asks event id (.clientResize resize)
  · obtain ⟨id, resize, rfl, obeys⟩ := resizes
    have step : origin.step (.message id (.clientResize resize)) = origin.clientResize id resize :=
      Obeys.handle obeys
    rw [step]
    exact Settles.clientResize lodged apart id resize
  by_cases fits : ∃ id fit, origin.Asks event id (.setDesktopSize fit)
  · obtain ⟨id, fit, rfl, obeys⟩ := fits
    have step : origin.step (.message id (.setDesktopSize fit)) = origin.setDesktopSize id fit :=
      Obeys.handle obeys
    rw [step]
    exact Settles.setDesktopSize lodged apart id fit
  · have quiet : Quiet origin event origin (origin.step event) :=
      @Acts.keep _ _ (fun server => Quiet origin event origin server) _ _
        (fun _ _ _ quiet act => quiet.trans (Quiet.act ticks
          (fun id request asks => attaches ⟨id, request, asks⟩)
          (fun id resize asks => resizes ⟨id, resize, asks⟩)
          (fun id fit asks => fits ⟨id, fit, asks⟩) act)) (.same rfl)
    exact ⟨_, .quiet quiet after⟩

/-! ### Every reachable server -/

/-- What every server is like that is reached while there are numbers left: its clients, its
ledger, and who is where. -/
structure Orderly (server : Server) : Prop where
  sound : server.Sound
  filed : server.Filed
  lodged : server.Lodged

/-- A fresh server is orderly. -/
theorem Orderly.start {server : Server} (fresh : serverSystem.initial server) : server.Orderly := by
  refine ⟨reachable_sound (.start fresh), .start fresh, ?_⟩
  obtain ⟨settings, kernel, now, rfl⟩ := fresh
  exact ⟨.nil, fun _ there => absurd there List.not_mem_nil⟩

/-- Every event leaves the server orderly. -/
theorem Orderly.step (orderly : server.Orderly) (allowed : numberedSystem.allows server event) :
    (server.step event).Orderly where
  sound := orderly.sound.step event allowed.1
  filed := (orderly.filed.step allowed.2 event).2
  lodged := (Acts.lodged orderly.filed allowed.2 orderly.sound orderly.lodged
    (Acts.step server event)).2

/-- Every event of an orderly server settles at last. -/
theorem Orderly.settles (orderly : server.Orderly) (allowed : numberedSystem.allows server event) :
    ∃ middle, Settles server event middle (server.step event) :=
  step_settles orderly.filed allowed.2 orderly.sound orderly.lodged event

end Server

end Ckmux
