import Mathlib
import Ckmux.Server.Placing

/-!
# Who loses its session

Most of what a server does leaves everybody attached who was: a client loses its session with
its connection, or is told that it is detached. Of the passes that come first in a tick each
detaches only readers of a session that it ends.
-/

namespace Ckmux

open Grammar (Bytes)
open Proto (Message)

/-- Whether a message leaves its reader attached, and with what it may do. -/
def steady : Message → Bool
  | .detached _ | .readerMode _ => false
  | _ => true

/-- What is calm is steady. -/
theorem steady_of_calm {message : Message} (said : calm message = true) : steady message = true := by
  cases message <;> first | rfl | cases said

namespace Server

/-- Whatever is told is steady. -/
abbrev Steadily (_ : ClientId) (message : Message) : Prop := steady message = true

/-- What may be told while some clients go: of them each that it is detached. -/
def Parting (goes : ClientId → Prop) (id : ClientId) : Message → Prop
  | .detached _ => goes id
  | .readerMode _ => False
  | _ => True

/-- Whether a client reads one of some sessions. -/
def Reads (server : Server) (ended : SessionId → Prop) (id : ClientId) : Prop :=
  ∃ client, server.client id = some client ∧ client.attached = true ∧ ended client.session

/-- A session left by everybody who reads it. -/
def vacate (server : Server) (id : SessionId) (reason : Proto.DetachReason) (text : Bytes) : Server :=
  (server.clients.map Client.id).foldl (fun server each =>
    match server.client each with
    | none => server
    | some client =>
        if client.attached ∧ client.session = id then server.detach each reason text else server)
    server

variable {server before middle after : Server} {news : ClientId → Message → Prop}
variable {ended wider : SessionId → Prop}

/-- What is steady detaches nobody. -/
theorem parting_of_steady {goes : ClientId → Prop} {id : ClientId} {message : Message}
    (said : steady message = true) : Parting goes id message := by
  cases message <;> trivial

/-- Whoever may be told to go may be told when more may. -/
theorem Parting.mono {goes leaves : ClientId → Prop} (widens : ∀ id, goes id → leaves id)
    {id : ClientId} {message : Message} (said : Parting goes id message) :
    Parting leaves id message := by
  cases message with
  | detached => exact widens id said
  | readerMode => exact said
  | _ => trivial

namespace Tells

/-- A session vacated tells its readers to go. -/
theorem vacate (server : Server) (id : SessionId) (reason : Proto.DetachReason) (text : Bytes) :
    Tells (Parting (server.Reads (· = id))) Eq server (server.vacate id reason text) := by
  refine foldl _ (fun _ => rfl) (fun _ _ _ same again => same.trans again) fun middle told each _ => ?_
  split
  · exact refl middle
  · rename_i client found
    split
    · rename_i reads
      obtain ⟨one, was, hears⟩ := told.was found
      have here : one.session = id := hears.session.symm.trans reads.2
      exact detach middle each ⟨one, was, hears.stays reads.1, here⟩
    · exact refl middle

/-- That a session is forgotten is told, and nothing more. -/
theorem forgotten (server : Server) (id : SessionId) (reason : Proto.DetachReason) (text : Bytes) :
    Tells Calmly Eq { server.vacate id reason text with
        sessions := (server.vacate id reason text).sessions.filter fun session => session.id ≠ id }
      (server.forgetSession id reason text) := by
  obtain ⟨left, leaves⟩ : ∃ left, left = { server.vacate id reason text with
      sessions := (server.vacate id reason text).sessions.filter fun session => session.id ≠ id } :=
    ⟨_, rfl⟩
  have listed : Tells Calmly Eq left (left.broadcastSessionList none) :=
    broadcastSessionList left none fun _ _ => rfl
  have is : server.forgetSession id reason text =
      if (left.broadcastSessionList none).sessions.isEmpty ∧
          (left.broadcastSessionList none).aSessionHasExisted then
        { left.broadcastSessionList none with running := false }
      else left.broadcastSessionList none := by
    rw [leaves]
    rfl
  rw [is, ← leaves]
  split
  · exact listed.next (beside rfl rfl rfl)
  · exact listed

end Tells

namespace Heard

/-- A client found afterwards is one that was there. -/
theorem was (heard : Heard news before after) {id : ClientId} {client : Client}
    (found : after.client id = some client) :
    ∃ one, before.client id = some one ∧ Client.Hears False (news one.id) one client := by
  have paired := @Data.paired_find _ _ _ Client.id _ _ _ (fun _ _ hears => hears.id) heard id
  unfold Server.client at found ⊢
  rw [found] at paired
  generalize before.clients.find? (fun client => client.id = id) = earlier at paired
  cases paired with
  | some hears => exact ⟨_, rfl, hears⟩

/-- What is told calmly is told steadily. -/
theorem calmly {notes : Terminal → Terminal → Prop} (tells : Tells Calmly notes before after) :
    Heard Steadily before after :=
  told tells fun _ _ => steady_of_calm

/-- Who reads an ended session read it before. -/
theorem reads (heard : Heard news before middle) (widens : ∀ id, ended id → wider id)
    {id : ClientId} (reads : middle.Reads ended id) : before.Reads wider id := by
  obtain ⟨client, found, attached, gone⟩ := reads
  obtain ⟨one, there, hears⟩ := heard.was found
  exact ⟨one, there, hears.stays attached, hears.session ▸ widens _ gone⟩

/-- Only readers of a session that is forgotten are detached. -/
theorem forgets (server : Server) (id : SessionId) (reason : Proto.DetachReason) (text : Bytes) :
    Heard (Parting (server.Reads (· = id))) server (server.forgetSession id reason text) := by
  have left : Heard (Parting (server.Reads (· = id))) server
      { server.vacate id reason text with
        sessions := (server.vacate id reason text).sessions.filter fun session => session.id ≠ id } :=
    (Tells.vacate server id reason text).clients.imp fun _ _ hears => hears.weaken
  exact left.trans (told (Tells.forgotten server id reason text) fun _ _ said =>
    parting_of_steady (steady_of_calm said))

end Heard

/-! ### Sessions ending -/

/-- A server some of whose sessions have ended, and with them who read them. -/
structure Wanes (before after : Server) : Prop where
  heard : Heard (Parting (before.Reads fun home =>
    (before.sessionFor home).isSome ∧ after.sessionFor home = none)) before after
  gone : ∀ home, before.sessionFor home = none → after.sessionFor home = none

namespace Wanes

/-- What wanes in two steps wanes. -/
theorem trans (first : Wanes before middle) (second : Wanes middle after) :
    Wanes before after where
  gone home none_there := second.gone home (first.gone home none_there)
  heard := by
    refine Heard.trans (first.heard.imp fun _ _ hears => hears.mono fun message said => ?_)
      (second.heard.imp fun _ _ hears => hears.mono fun message said => ?_)
    · refine Parting.mono (fun id => Heard.reads (Heard.refl before : Heard Steadily _ _) ?_) said
      exact fun home ended => ⟨ended.1, second.gone home ended.2⟩
    · refine Parting.mono (fun id => first.heard.reads fun home ended => ⟨?_, ended.2⟩) said
      by_contra none_there
      rw [first.gone home (Option.not_isSome_iff_eq_none.mp none_there)] at ended
      exact absurd ended.1 (by decide)

/-- Nobody is detached, and the sessions are the same ones. -/
theorem steadily (heard : Heard Steadily before after)
    (ids : after.sessions.map Session.id = before.sessions.map Session.id) : Wanes before after where
  heard := heard.imp fun _ _ hears => hears.mono fun _ => parting_of_steady
  gone home none_there := by
    rw [Server.sessionFor, List.find?_eq_none] at none_there ⊢
    intro session listed
    have named : session.id ∈ before.sessions.map Session.id := ids ▸ List.mem_map_of_mem listed
    obtain ⟨other, among, same⟩ := List.mem_map.mp named
    have differs := none_there other among
    rwa [same] at differs

/-- The same clients and sessions have not waned. -/
theorem same (clients : after.clients = before.clients)
    (sessions : after.sessions = before.sessions) : Wanes before after :=
  steadily (.same clients) (by rw [sessions])

/-- Nothing happened. -/
theorem refl (server : Server) : Wanes server server := same rfl rfl

/-- Telling calmly ends no session. -/
theorem calmly {notes : Terminal → Terminal → Prop} (tells : Tells Calmly notes before after) :
    Wanes before after :=
  steadily (.calmly tells) (by rw [tells.sessions])

/-- What lets things wane item by item lets them wane. -/
theorem foldl {Item : Type} (items : List Item) {act : Server → Item → Server}
    (each : ∀ middle, ∀ item, Wanes middle (act middle item)) :
    Wanes before (items.foldl act before) := by
  refine List.foldlRecOn items act (motive := fun middle => Wanes before middle) (.refl before) ?_
  exact fun middle wanes item _ => wanes.trans (each middle item)

theorem broadcastSessionList (server : Server) (requester : Option ClientId) :
    Wanes server (server.broadcastSessionList requester) :=
  calmly (.broadcastSessionList server requester fun _ _ => rfl)

/-- What is said calmly to a session ends none. -/
theorem sayAll (server : Server) (id : SessionId) {message : Message}
    (said : calm message = true) :
    Wanes server (server.forEachAttached id fun server each => server.send each message) :=
  calmly (.forEachAttached id fun middle _ each =>
    .say middle each said (whole_of_places (places_of_calm said)))

/-- A session forgotten with everybody in it. -/
theorem forgetSession (server : Server) {id : SessionId} (there : (server.sessionFor id).isSome)
    (reason : Proto.DetachReason) (text : Bytes) :
    Wanes server (server.forgetSession id reason text) := by
  have sessions : (server.forgetSession id reason text).sessions =
      server.sessions.filter fun session => session.id ≠ id := by
    rw [(Tells.forgotten server id reason text).sessions]
    dsimp only
    rw [(Tells.vacate server id reason text).sessions]
  constructor
  · refine (Heard.forgets server id reason text).imp fun _ _ hears => hears.mono fun _ said => ?_
    refine Parting.mono (fun each => Heard.reads (Heard.refl server : Heard Steadily _ _) ?_) said
    rintro home rfl
    refine ⟨there, ?_⟩
    rw [Server.sessionFor, sessions, List.find?_eq_none]
    intro session listed same
    exact absurd (of_decide_eq_true same) (of_decide_eq_true (List.mem_filter.mp listed).2)
  · intro home none_there
    rw [Server.sessionFor, List.find?_eq_none] at none_there ⊢
    rw [sessions]
    exact fun session listed => none_there session (List.mem_filter.mp listed).1

/-- What lets things wane client by client lets them wane. -/
theorem forEachClient {act : Server → Client → Server}
    (each : ∀ middle client, Wanes middle (act middle client)) :
    Wanes before (before.forEachClient act) := by
  refine foldl _ fun middle id => ?_
  split
  · exact .refl middle
  · exact each middle _

/-- A session changed in anything but its number has not ended. -/
theorem setSession (server : Server) (id : SessionId) {change : Session → Session}
    (kept : ∀ session, (change session).id = session.id) :
    Wanes server (server.setSession id change) := by
  refine steadily (.same rfl) ?_
  rw [Server.setSession, List.map_map]
  refine List.map_congr_left fun session _ => ?_
  dsimp only [Function.comp_apply]
  split
  · exact kept session
  · rfl

/-! ### What a tick ends -/

/-- Dropping who does not fit only takes away. -/
theorem dropMismatched (server : Server) : Wanes server server.dropMismatched := by
  refine forEachClient fun middle client => ?_
  split
  · have dropped : Tells Calmly Eq middle (middle.drop client.id) := .drop middle client.id
    exact calmly dropped
  · exact .refl middle

/-- A session's end takes its readers away. -/
theorem advanceKill (server : Server) (pending : PendingKill) :
    Wanes server (server.advanceKill pending).1 := by
  unfold Server.advanceKill
  split
  · exact .refl server
  · rename_i session found
    dsimp only
    repeat' split
    · exact .refl server
    · exact same (foldl_keeps Server.clients _ (by exact fun _ _ => rfl) server)
        (foldl_keeps Server.sessions _ (by exact fun _ _ => rfl) server)
    · exact .refl server
    · exact broadcastSessionList server none
    · have clients := foldl_keeps Server.clients session.terminals
        (show ∀ server id, (closeTerminal server id).clients = server.clients from fun _ _ => rfl) server
      have sessions := foldl_keeps Server.sessions session.terminals
        (show ∀ server id, (closeTerminal server id).sessions = server.sessions from fun _ _ => rfl)
        server
      refine (same clients sessions).trans (forgetSession _ ?_ ..)
      rw [sessionFor_id found, Server.sessionFor, sessions]
      exact Option.isSome_iff_exists.mpr ⟨session, found⟩

/-- Sessions' ends take their readers away. -/
theorem advanceKills (server : Server) : Wanes server server.advanceKills := by
  have cleared : Wanes server { server with kills := [] } := same rfl rfl
  exact cleared.trans (foldl _ fun middle pending => (advanceKill middle pending).trans (same rfl rfl))

/-- A session with nothing left in it is forgotten, or stays. -/
theorem forgetEmptied (server : Server) (id : SessionId) (reason : Proto.DetachReason)
    (text : Bytes) :
    Wanes server (if (((server.sessionFor id).map fun session => session.terminals.isEmpty).getD
        false) ∧ server.settings.killEmptySession then server.forgetSession id reason text
      else server) := by
  split
  · rename_i emptied
    refine forgetSession server ?_ reason text
    cases found : server.sessionFor id with
    | none =>
        rw [found] at emptied
        exact absurd emptied.1 (by decide)
    | some session => rfl
  · exact .refl server

/-- A terminal removed may end its session. -/
theorem removeTerminal (server : Server) (id : TerminalId) (exited : Bool) :
    Wanes server (server.removeTerminal id exited) := by
  have closed : Wanes server
      ({ server with forgotten := server.forgotten ++ [id] }.closeTerminal id) := same rfl rfl
  unfold Server.removeTerminal
  dsimp only
  split
  · exact closed
  · rename_i home _
    have left : Wanes server
        (({ server with forgotten := server.forgotten ++ [id] }.closeTerminal id).setSession home.id
          fun session =>
            { session with terminals := session.terminals.filter fun held => held ≠ id }) :=
      closed.trans (setSession _ home.id fun _ => rfl)
    refine ((left.trans (sayAll _ home.id (by rfl))).trans
      (broadcastSessionList _ none)).trans (forgetEmptied ..)

/-- A terminal's end may end its session. -/
theorem advanceClose (server : Server) (pending : PendingClose) :
    Wanes server (server.advanceClose pending).1 := by
  unfold Server.advanceClose
  repeat' split
  · exact .refl server
  · exact .refl server
  · exact same rfl rfl
  · exact .refl server
  · exact .refl server
  · exact removeTerminal ..

theorem advanceCloses (server : Server) : Wanes server server.advanceCloses := by
  have cleared : Wanes server { server with closes := [] } := same rfl rfl
  exact cleared.trans (foldl _ fun middle pending => (advanceClose middle pending).trans (same rfl rfl))

theorem flushReaderCounts (server : Server) : Wanes server server.flushReaderCounts := by
  unfold Server.flushReaderCounts
  dsimp only
  have round : ∀ told : Server × Bool, Wanes server told.1 →
      Wanes server { told.1 with sessionListDirty := !told.2 } :=
    fun _ wanes => wanes.trans (same rfl rfl)
  refine round _ (List.foldlRecOn (server.clients.map Client.id) _
    (motive := fun told : Server × Bool => Wanes server told.1) (.refl server) ?_)
  intro told sofar each _
  split
  · exact sofar
  · split
    · exact sofar
    · split
      · exact sofar
      · have listed : Tells Calmly Eq told.1 (told.1.sendSessionList each) :=
          .sendSessionList told.1 each fun _ => rfl
        exact sofar.trans (calmly listed)

/-- Ends noticed may end sessions. -/
theorem noticeExits (server : Server) : Wanes server server.noticeExits := by
  refine foldl _ fun middle id => ?_
  split
  · exact .refl middle
  · rename_i terminal _
    dsimp only
    split
    · exact .refl middle
    · split
      · exact same rfl rfl
      · have marked : Wanes middle (middle.setTerminal terminal.id fun _ =>
            { terminal.observeExit with exitAnnounced := true }) := same rfl rfl
        split
        · exact marked.trans (removeTerminal ..)
        · split
          · exact marked
          · exact marked.trans (sayAll _ _ (by rfl))

/-- Until every end has been noticed, whoever is detached loses a session that ends. -/
theorem noticed (server : Server) : Wanes server server.noticed := by
  have observed : Wanes server server.dropMismatched.observeExits :=
    (dropMismatched server).trans (same rfl rfl)
  have ended : Wanes server server.ended := (observed.trans (advanceKills _)).trans (advanceCloses _)
  unfold Server.noticed
  split
  · exact (ended.trans (flushReaderCounts _)).trans (noticeExits _)
  · exact ended.trans (noticeExits _)

end Wanes

end Server

end Ckmux
