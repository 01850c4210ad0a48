import Mathlib
import Ckmux.Server.Partition

/-!
# Saying where a reader is

Two messages place a reader: its session sent whole, and the windows of its session announced.
A step sends them last: whatever it does to sessions, terminals and readers it does before, and
what it then says of them is so.
-/

namespace Ckmux

open Grammar (Bytes)
open Proto (Message)

/-- What a client has heard, whatever became of its socket. -/
theorem Client.Hears.weaken {unfailing : Prop} {news : Message → Prop} {before after : Client}
    (hears : Hears unfailing news before after) : Hears False news before after :=
  { hears with works := fun absurd => absurd.elim }

namespace Server

/-- What has become of the clients, of whom each heard only news. -/
def Heard (news : ClientId → Message → Prop) (before after : Server) : Prop :=
  List.Forall₂ (fun one each => Client.Hears False (news one.id) one each) before.clients
    after.clients

/-- Whether a desktop told is a session's own. -/
def StatesDesktop (server : Server) (id : SessionId) (columns rows : UInt16) : Prop :=
  ∀ home, server.sessionFor id = some home → home.desktop.positive →
    columns = UInt16.ofNat home.desktop.width ∧ rows = UInt16.ofNat home.desktop.height

/-- The terminal a client is told that it is in: its own, or the last reader's. -/
def focusOf (server : Server) (client : Client) : UInt64 :=
  if client.focused ≠ 0 then client.focused
  else ((server.sessionFor client.session).map Session.lastFocused).getD 0

/-- Whether what a message says of where its reader is, is so. -/
def Places (server : Server) (id : ClientId) : Message → Prop
  | .attached attached => ∃ client, server.client id = some client ∧ client.attached = true ∧
      attached.session = client.session ∧
      attached.snapshot.focusedTerm = server.focusOf client ∧
      server.StatesDesktop client.session attached.snapshot.desktopColumns
        attached.snapshot.desktopRows
  | .layoutDelta layout => ∃ client, server.client id = some client ∧ client.attached = true ∧
      layout.session = client.session ∧ layout.focusedTerm = client.focused ∧
      server.StatesDesktop client.session layout.desktopColumns layout.desktopRows
  | _ => True

/-- A message that places nothing may be said at any time. -/
theorem places_unplaced {server : Server} {id : ClientId} {message : Message}
    (unplaced : places message = false) : server.Places id message := by
  cases message <;> trivial

variable {server before middle after : Server} {news more : ClientId → Message → Prop}

namespace Heard

/-- Where the clients are the same, nothing was said. -/
theorem same (clients : after.clients = before.clients) : Heard news before after := by
  unfold Heard
  rw [clients]
  exact List.forall₂_same.mpr fun client _ => .refl client

/-- Nothing said. -/
theorem refl (server : Server) : Heard news server server := same rfl

/-- Said in two halves. -/
theorem trans (first : Heard news before middle) (second : Heard news middle after) :
    Heard news before after := by
  refine Data.paired_trans ?_ first second
  intro one other third here there
  rw [here.id] at there
  exact here.trans there

/-- What was told was heard, if it is among the news. -/
theorem told {notes : Terminal → Terminal → Prop} (tells : Tells more notes before after)
    (wider : ∀ id message, more id message → news id message) : Heard news before after :=
  tells.clients.imp fun _ _ hears => hears.weaken.mono (wider _)

/-- Item after item, each heard. -/
theorem foldl {Item : Type} (items : List Item) {act : Server → Item → Server}
    (each : ∀ middle, ∀ item, Heard news middle (act middle item)) :
    Heard news before (items.foldl act before) := by
  refine List.foldlRecOn items act (motive := fun middle => Heard news before middle) (.refl before) ?_
  exact fun middle heard item _ => heard.trans (each middle item)

/-- Terminal after terminal. -/
theorem forEachTerminal {act : Server → Terminal → Server}
    (each : ∀ middle terminal, Heard news middle (act middle terminal)) :
    Heard news before (before.forEachTerminal act) := by
  refine foldl _ fun middle id => ?_
  split
  · exact .refl middle
  · exact each middle _

/-- Client after client. -/
theorem forEachClient {act : Server → Client → Server}
    (each : ∀ middle client, Heard news middle (act middle client)) :
    Heard news before (before.forEachClient act) := by
  refine foldl _ fun middle id => ?_
  split
  · exact .refl middle
  · exact each middle _

end Heard

/-! ### What is over, is over first -/

/-- Telling of what is over places nobody. -/
abbrev Unplaced (_ : ClientId) (message : Message) : Prop := places message = false

namespace Heard

/-- News that states nothing places nothing. -/
theorem unstated {notes : Terminal → Terminal → Prop}
    (tells : Tells (fun _ message => states message = false) notes before after) :
    Heard Unplaced before after :=
  told tells fun _ _ => places_of_states

/-- Forgetting a session places nothing. -/
theorem forgetSession (server : Server) (id : SessionId) (reason : Proto.DetachReason)
    (text : Bytes) : Heard Unplaced server (server.forgetSession id reason text) := by
  obtain ⟨left, leaves, forgets⟩ := Tells.forgetSession server id reason text
  have gone : Heard Unplaced left
      { left with sessions := left.sessions.filter fun session => session.id ≠ id } := same rfl
  exact ((unstated leaves).trans gone).trans (unstated forgets)

/-- Closing terminals places nothing. -/
theorem closeTerminals (server : Server) (ids : List TerminalId) :
    Heard Unplaced server (ids.foldl closeTerminal server) :=
  same (foldl_keeps Server.clients ids (by exact fun _ _ => rfl) server)

/-- The session list places nothing. -/
theorem broadcastSessionList (server : Server) (requester : Option ClientId) :
    Heard Unplaced server (server.broadcastSessionList requester) := by
  have listed : Tells Unplaced Eq server (server.broadcastSessionList requester) :=
    .broadcastSessionList server requester fun _ _ => rfl
  exact told listed fun _ _ said => said

/-- The same message to everyone attached, where the message places nothing. -/
theorem sayAll (server : Server) (id : SessionId) (message : Message)
    (unplaced : places message = false) : Heard Unplaced server
      (server.forEachAttached id fun server each => server.send each message) := by
  have said : Tells Unplaced Eq server
      (server.forEachAttached id fun server each => server.send each message) :=
    .forEachAttached id fun middle _ each =>
      .say middle each unplaced (whole_of_places unplaced)
  exact told said fun _ _ said => said

/-- Dropping the mismatched clients places nothing. -/
theorem dropMismatched (server : Server) : Heard Unplaced server server.dropMismatched := by
  refine forEachClient fun middle client => ?_
  split
  · have dropped : Tells Unplaced Eq middle (middle.drop client.id) := .drop middle client.id
    exact told dropped fun _ _ said => said
  · exact .refl middle

/-- One kill carried on places nothing. -/
theorem advanceKill (server : Server) (pending : PendingKill) :
    Heard Unplaced server (server.advanceKill pending).1 := by
  unfold Server.advanceKill
  split
  · exact .refl server
  · rename_i session _
    dsimp only
    repeat' split
    · exact .refl server
    · exact same (foldl_keeps Server.clients _ (by exact fun _ _ => rfl) server)
    · exact .refl server
    · exact broadcastSessionList server none
    · exact (closeTerminals server session.terminals).trans (forgetSession ..)

/-- A session with nothing left in it is forgotten, or stays. -/
theorem forgetEmptied (server : Server) (id : SessionId) (reason : Proto.DetachReason)
    (text : Bytes) (emptied : Prop) [Decidable emptied] :
    Heard Unplaced server (if emptied then server.forgetSession id reason text else server) := by
  split
  · exact forgetSession ..
  · exact .refl server

/-- Removing a terminal places nothing. -/
theorem removeTerminal (server : Server) (id : TerminalId) (exited : Bool) :
    Heard Unplaced server (server.removeTerminal id exited) := by
  have closed : Heard Unplaced server
      ({ server with forgotten := server.forgotten ++ [id] }.closeTerminal id) := same rfl
  unfold Server.removeTerminal
  dsimp only
  split
  · exact closed
  · rename_i home _
    have left : Heard Unplaced server
        (({ server with forgotten := server.forgotten ++ [id] }.closeTerminal id).setSession home.id
          fun session =>
            { session with terminals := session.terminals.filter fun held => held ≠ id }) := same rfl
    refine ((left.trans (sayAll _ home.id (.termClosed _) rfl)).trans
      (broadcastSessionList _ none)).trans (forgetEmptied ..)

/-- One close carried on places nothing. -/
theorem advanceClose (server : Server) (pending : PendingClose) :
    Heard Unplaced server (server.advanceClose pending).1 := by
  unfold Server.advanceClose
  repeat' split
  · exact .refl server
  · exact .refl server
  · exact same rfl
  · exact .refl server
  · exact .refl server
  · exact removeTerminal ..

/-- The counts of readers place nothing. -/
theorem flushReaderCounts (server : Server) : Heard Unplaced server server.flushReaderCounts := by
  unfold Server.flushReaderCounts
  dsimp only
  have round : ∀ told : Server × Bool, Heard Unplaced server told.1 →
      Heard Unplaced server { told.1 with sessionListDirty := !told.2 } :=
    fun _ heard => heard.trans (same rfl)
  refine round _ (List.foldlRecOn (server.clients.map Client.id) _
    (motive := fun told : Server × Bool => Heard Unplaced server told.1) (.refl server) ?_)
  intro told sofar each _
  split
  · exact sofar
  · split
    · exact sofar
    · split
      · exact sofar
      · have listed : Tells Unplaced Eq told.1 (told.1.sendSessionList each) :=
          .sendSessionList told.1 each fun _ => rfl
        exact sofar.trans (Heard.told listed fun _ _ said => said)

/-- Exits noticed place nothing. -/
theorem noticeExits (server : Server) : Heard Unplaced server server.noticeExits := by
  refine forEachTerminal fun middle terminal => ?_
  dsimp only
  split
  · exact .refl middle
  · split
    · exact same rfl
    · have marked : Heard Unplaced middle (middle.setTerminal terminal.id fun _ =>
          { terminal.observeExit with exitAnnounced := true }) := same rfl
      split
      · exact marked.trans (removeTerminal ..)
      · split
        · exact marked
        · exact marked.trans (sayAll _ _ (.termClosed _) rfl)

/-- The kills carried on place nothing. -/
theorem advanceKills (server : Server) : Heard Unplaced server server.advanceKills := by
  have cleared : Heard Unplaced server { server with kills := [] } := same rfl
  refine cleared.trans (foldl _ fun middle pending => ?_)
  exact (advanceKill middle pending).trans (same rfl)

/-- The closes carried on place nothing. -/
theorem advanceCloses (server : Server) : Heard Unplaced server server.advanceCloses := by
  have cleared : Heard Unplaced server { server with closes := [] } := same rfl
  refine cleared.trans (foldl _ fun middle pending => ?_)
  exact (advanceClose middle pending).trans (same rfl)

/-- A session that has ended places nothing. -/
theorem ended (server : Server) : Heard Unplaced server server.ended := by
  have observed : Heard Unplaced server server.dropMismatched.observeExits :=
    (dropMismatched server).trans (same rfl)
  exact (observed.trans (advanceKills _)).trans (advanceCloses _)

/-- What the tick notices first places nothing. -/
theorem noticed (server : Server) : Heard Unplaced server server.noticed := by
  unfold Server.noticed
  split
  · exact ((ended server).trans (flushReaderCounts _)).trans (noticeExits _)
  · exact (ended server).trans (noticeExits _)

end Heard

/-! ### What is told, is told of what there is -/

/-- Telling the clients changes no session. -/
theorem Tells.sessionFor {notes : Terminal → Terminal → Prop} (tells : Tells news notes before after)
    (id : SessionId) : after.sessionFor id = before.sessionFor id := by
  rw [Server.sessionFor, tells.sessions]
  rfl

/-- Where a reader is said to be once something was told, it was before. -/
theorem Tells.backwards {notes : Terminal → Terminal → Prop} (tells : Tells news notes before after)
    {id : ClientId} {message : Message} (placed : after.Places id message) :
    before.Places id message := by
  have desktop : ∀ id columns rows, after.StatesDesktop id columns rows →
      before.StatesDesktop id columns rows := by
    intro id columns rows states home found
    exact states home ((tells.sessionFor id).trans found)
  cases message with
  | attached attached =>
      obtain ⟨client, found, still, session, focus, sized⟩ := placed
      obtain ⟨was, there, hears⟩ := tells.was found
      refine ⟨was, there, hears.stays still, session.trans hears.session, focus.trans ?_, ?_⟩
      · rw [focusOf, focusOf, tells.sessionFor, hears.focused, hears.session]
      · exact hears.session ▸ desktop _ _ _ sized
  | layoutDelta layout =>
      obtain ⟨client, found, still, session, focus, sized⟩ := placed
      obtain ⟨was, there, hears⟩ := tells.was found
      refine ⟨was, there, hears.stays still, session.trans hears.session,
        focus.trans hears.focused, ?_⟩
      exact hears.session ▸ desktop _ _ _ sized
  | _ => trivial

/-- What is said after something was told places whom it is said to as before it. -/
theorem Tells.placed {notes later composed : Terminal → Terminal → Prop}
    (composes : ∀ one other third : Terminal, notes one other → later other third →
      composed one third)
    (first : Tells before.Places notes before middle)
    (second : Tells middle.Places later middle after) :
    Tells before.Places composed before after :=
  first.trans composes (second.mono (fun _ _ placed => first.backwards placed) fun _ _ noted => noted)

/-- Whatever places nobody. -/
theorem Tells.unplaced {notes : Terminal → Terminal → Prop}
    (tells : Tells (fun _ message => places message = false) notes before after) :
    Tells server.Places notes before after :=
  tells.mono (fun _ _ => places_unplaced) fun _ _ noted => noted

/-- Telling of it leaves everybody where it is. -/
abbrev Calmly (_ : ClientId) (message : Message) : Prop := calm message = true

/-- What is told calmly is told where the terminal is placed. -/
theorem Tells.calmly {notes : Terminal → Terminal → Prop} (tells : Tells Calmly notes before after) :
    Tells server.Places notes before after :=
  tells.mono (fun _ _ said => places_unplaced (places_of_calm said)) fun _ _ noted => noted

/-- A session sent whole says where its reader is. -/
theorem attachedMessage_places {id : ClientId} {client : Client}
    (found : server.client id = some client) (attached : client.attached = true) :
    server.Places id ((server.clean id).attachedMessage client) := by
  refine ⟨client, found, attached, rfl, rfl, fun home there positive => ?_⟩
  have same : (server.clean id).sessionFor client.session = some home := there
  have sized : home.desktop.width > 0 ∧ home.desktop.height > 0 := by
    simpa [Size.positive] using positive
  dsimp only [wholeSnapshot, fillHistories, bareSnapshot, snapshotFrame]
  rw [same]
  dsimp only
  rw [if_pos sized]
  exact ⟨rfl, rfl⟩

/-- The whole session is sent to a client that is attached to it. -/
theorem Tells.wholeSession [Emulator] {id : ClientId} {client : Client}
    (found : server.client id = some client) (attached : client.attached = true) :
    Tells server.Places Terminal.Flagged server (server.sendSnapshot id) := by
  refine (Tells.sendSnapshot found).mono ?_ fun _ _ flagged => flagged
  rintro told message ⟨rfl, rfl | ⟨reason, text, rfl⟩⟩
  · exact attachedMessage_places found attached
  · trivial

/-- A layout announced says where its readers are. -/
theorem layoutNews_places (apart : (server.sessions.map Session.id).Nodup) {session : Session}
    (listed : session ∈ server.sessions) {id : ClientId} {message : Message}
    (said : Tells.layoutNews server session id message) : server.Places id message := by
  obtain ⟨layout, client, rfl, found, reads, named, focus, sized⟩ := said
  simp only [Client.reads, Bool.and_eq_true, decide_eq_true_eq] at reads
  refine ⟨client, found, reads.1.1, named.trans reads.2.symm, focus, fun home there positive => ?_⟩
  have only := Data.find_of_mem apart listed
  obtain rfl : session = home := Option.some.inj (only.symm.trans (reads.2 ▸ there))
  exact sized positive

/-- A layout is announced to those attached to its session. -/
theorem Tells.placesLayout (apart : (server.sessions.map Session.id).Nodup) (force : SessionId) :
    Tells server.Places Terminal.Flagged server (server.announceLayout force) := by
  refine .foldl _ Terminal.Flagged.refl (fun _ _ _ first second => first.trans second)
    fun middle told session listed => ?_
  refine (Tells.announceSessionLayout middle session _).mono (fun id message said => ?_)
    fun _ _ flagged => flagged
  rw [← told.sessions] at apart listed
  exact told.backwards (layoutNews_places apart listed said)

/-! ### What a tick tells -/

namespace Tells

/-- Item after item, each told. -/
theorem round {Item : Type} (items : List Item) {act : Server → Item → Server}
    (each : ∀ middle item, Tells news Eq middle (act middle item)) :
    Tells news Eq server (items.foldl act server) :=
  foldl items (fun _ => rfl) (fun _ _ _ same again => same.trans again)
    fun middle _ item _ => each middle item

/-- A heal sends whole sessions to those attached to them. -/
theorem heal [Emulator] (server : Server) :
    Tells server.Places Terminal.Flagged server server.heal := by
  refine foldl _ Terminal.Flagged.refl (fun _ _ _ first second => first.trans second)
    fun middle told each _ => ?_
  have still : Tells server.Places Terminal.Flagged middle middle :=
    (refl middle).noting Terminal.Flagged.refl
  split
  · exact still
  · rename_i client found
    have named := client_id found
    dsimp only
    split
    · exact still
    · rename_i behind
      obtain ⟨attached, _⟩ := not_or.mp behind
      have flushed : Tells server.Places Eq middle (middle.flush client.id) := flush middle client.id
      split
      · let flushing := fun client : Client =>
          { client with stream := client.stream.flush (middle.kernel middle.writes) }
        have there : (middle.flush client.id).client client.id = some (flushing client) :=
          @setClient_found { middle with writes := middle.writes + 1 } client.id client flushing
            (named.symm ▸ found) fun _ => rfl
        have whole := wholeSession there (not_not.mp attached)
        refine flushed.next (whole.mono (fun _ _ placed => ?_) fun _ _ flagged => flagged)
        exact told.backwards (flushed.backwards placed)
      · exact flushed.noting Terminal.Flagged.refl

/-- What drips to one client is calm. -/
theorem dripTo (server : Server) (id : ClientId) (more : Nat) :
    Tells Calmly Eq server (server.dripTo id more) := by
  induction more generalizing server with
  | zero => exact refl server
  | succ more ih =>
      rw [Server.dripTo]
      split
      · exact refl server
      · split
        · exact refl server
        · split
          · exact refl server
          · rename_i op _ _
            have counted : Tells Calmly Eq server (server.setClient id fun client =>
                { client with owed := { client.owed with sent := client.owed.sent + 1 } }) :=
              idle server id fun _ => rfl
            refine (counted.next (say _ id ?_ ?_)).next (ih _)
            · cases op <;> rfl
            · cases op <;> rfl

/-- What drips to all of them is calm. -/
theorem drip (server : Server) : Tells Calmly Eq server server.drip := by
  refine round _ fun middle each => ?_
  split
  · exact refl middle
  · dsimp only
    split
    · exact refl middle
    · refine (dripTo ..).next (idle _ _ fun client => ?_)
      split <;> rfl

/-- The terminals' news is calm. -/
theorem announceTerminalNews (distinct : (server.terminals.map Terminal.id).Nodup) :
    Tells Calmly Terminal.Noted server server.announceTerminalNews := by
  rw [announceTerminalNews_eq]
  refine foldl _ Terminal.Noted.refl (fun _ _ _ first second => first.trans second)
    fun middle told each _ => ?_
  split
  · exact (refl middle).noting Terminal.Noted.refl
  · refine announceNews ?_ _ fun _ _ => calm_of_tidings
    rwa [Data.paired_same (fun _ _ noted => noted.id) told.terminals]

variable [CkVision]

/-- What the terminals have put out is calm. -/
theorem flushTerminals [Emulator] (server : Server) (ids : List TerminalId) :
    Tells Calmly Terminal.Noted server (server.flushTerminals ids).2 := by
  induction ids generalizing server with
  | nil => exact (refl server).noting Terminal.Noted.refl
  | cons id ids ih =>
      have first : Tells Calmly Terminal.Noted server (server.flushTerminal id).2 := by
        unfold Server.flushTerminal
        split
        · exact (refl server).noting Terminal.Noted.refl
        · dsimp only
          split
          · exact (refl server).noting Terminal.Noted.refl
          · refine Tells.next ?_ (setTerminal _ id (fun _ => rfl) Terminal.Noted.refl)
            exact beside rfl rfl rfl
      exact first.trans (fun _ _ _ one other => one.trans other) (ih _)

omit [CkVision] in
/-- Marking who is flooded says nothing that places. -/
theorem markFlooded (server : Server) : Tells Calmly Eq server server.markFlooded := by
  refine round _ fun middle each => ?_
  split
  · exact refl middle
  · dsimp only
    split
    · exact refl middle
    · split
      · exact refl middle
      · exact forEachAttached _ fun middle _ each => fallBehind middle each

omit [CkVision] in
/-- A picture shown is calm. -/
theorem showPicture (server : Server) (id : ClientId) (owes : Bool) (op : PictureOp) :
    Tells Calmly Eq server (server.showPicture id owes op) := by
  unfold Server.showPicture
  split
  · exact idle server id fun _ => rfl
  · refine say server id ?_ ?_
    · cases op <;> rfl
    · cases op <;> rfl

omit [CkVision] in
/-- The screens fanned out are calm. -/
theorem fanOut (server : Server) (screens : Screens) :
    Tells Calmly Eq server (server.fanOut screens) := by
  unfold Server.fanOut
  split
  · exact refl server
  · refine round _ fun middle each => ?_
    split
    · exact refl middle
    · rename_i client _
      unfold Server.show_
      dsimp only
      have drained : ∀ draining, Tells Calmly Eq middle (middle.setClient client.id fun client =>
          { client with drainingHeal := draining }) :=
        fun _ => idle middle client.id fun _ => rfl
      split
      · exact refl middle
      · split
        · exact refl middle
        · split
          · exact (drained _).next (fallBehind ..)
          · refine ((drained _).next (round _ fun middle delta => ?_)).next
              (round _ fun middle image => showPicture middle client.id _ _)
            exact say middle client.id rfl rfl

/-- Once every end has been noticed, a tick tells what there is. -/
theorem flushTick [Emulator] (apart : (server.noticed.sessions.map Session.id).Nodup)
    (distinct : (server.noticed.terminals.map Terminal.id).Nodup) :
    Tells server.noticed.Places Terminal.Noted server.noticed server.flushTick := by
  obtain ⟨noticed, is⟩ : ∃ noticed, noticed = server.noticed := ⟨_, rfl⟩
  rw [← is] at apart distinct ⊢
  have flagged : ∀ one each : Terminal, one.Flagged each → one.Noted each :=
    fun _ _ => Terminal.Flagged.noted
  have composes : ∀ one other third : Terminal, one.Noted other → other.Noted third →
      one.Noted third := fun _ _ _ => Terminal.Noted.trans
  have healed := (heal noticed).mono (fun _ _ placed => placed) flagged
  have dripped : Tells noticed.Places Terminal.Noted noticed noticed.heal.drip :=
    healed.also (drip noticed.heal).calmly
  have distinct : (noticed.heal.drip.terminals.map Terminal.id).Nodup := by
    rwa [Data.paired_same (fun _ _ noted => noted.id) dripped.terminals]
  have marked : Tells noticed.Places Terminal.Noted noticed
      noticed.heal.drip.announceTerminalNews :=
    dripped.trans composes (announceTerminalNews distinct).calmly
  obtain ⟨announced, announces⟩ : ∃ announced,
      announced = noticed.heal.drip.announceTerminalNews.announceLayout 0 := ⟨_, rfl⟩
  have laid : Tells noticed.Places Terminal.Noted noticed announced := by
    rw [announces]
    refine marked.placed (fun _ _ _ one other => one.trans (flagged _ _ other)) ?_
    exact placesLayout (by rwa [marked.sessions]) 0
  have flushed := laid.trans composes
    (flushTerminals announced (announced.terminals.map Terminal.id)).calmly
  have told := (flushed.also (markFlooded _).calmly).also
    (fanOut _ (announced.flushTerminals (announced.terminals.map Terminal.id)).1).calmly
  have ticks : server.flushTick =
      (announced.flushTerminals (announced.terminals.map Terminal.id)).2.markFlooded.fanOut
        (announced.flushTerminals (announced.terminals.map Terminal.id)).1 := by
    rw [announces, is]
    rfl
  rw [ticks]
  exact told

end Tells

end Server

end Ckmux
