import Mathlib
import Ckmux.Server.SendLaws
import Ckmux.Server.Tick

/-!
# Telling

Most of what a server does to its clients is to tell them something. Whoever is told is who
and where it was; it may lose its attachment, and what has been sent to it goes on with some
of what is said. The sessions are as they were, and of the terminals it is noted at most what
has been said of them.
-/

namespace Ckmux

open Grammar (Bytes)
open Proto (Message)

/-- Whether a message says where its reader is: the desktop, and the terminal it was in. -/
def places : Message → Bool
  | .attached _ | .layoutDelta _ => true
  | _ => false

/-- Whether a message states something of a session or a terminal that is not stated again
until it changes, or is asked for. -/
def states : Message → Bool
  | .attached _ | .layoutDelta _ | .termOpened _ | .termMeta _ | .printState _
  | .printJobAdded _ | .printJobData _ => true
  | _ => false

/-- Whether a message is a session whole. -/
def whole : Message → Bool
  | .attached _ => true
  | _ => false

/-- A message that places nothing is no whole session. -/
theorem whole_of_places {message : Message} (unplaced : places message = false) :
    whole message = false := by
  cases message <;> first | rfl | cases unplaced

/-- A message that states nothing places nothing. -/
theorem places_of_states {message : Message} (unstated : states message = false) :
    places message = false := by
  cases message <;> first | rfl | cases unstated

/-- Whether a message leaves its reader where it is, and with what it may do: it neither places
nor detaches it, nor says what it may do from now on. -/
def calm : Message → Bool
  | .attached _ | .layoutDelta _ | .detached _ | .readerMode _ => false
  | _ => true

/-- Whether a message is of what a reader is told unasked: it is calm, and no part of a print job. -/
def tidings : Message → Bool
  | .printJobData _ => false
  | message => calm message

/-- News is calm. -/
theorem calm_of_tidings {message : Message} (said : tidings message = true) :
    calm message = true := by
  cases message <;> first | rfl | exact said

/-- What is calm places nothing. -/
theorem places_of_calm {message : Message} (said : calm message = true) :
    places message = false := by
  cases message <;> first | rfl | cases said

/-- News places nothing. -/
theorem places_of_tidings {message : Message} (said : tidings message = true) :
    places message = false := places_of_calm (calm_of_tidings said)

/-- Whether a client's connection takes nothing more. -/
def Client.gone (client : Client) : Bool := !client.stream.isOpen || client.stream.writeFailed

/-- What has become of a connection, if it took nothing more before: it takes nothing now, and
nothing has been put on it. -/
def Client.Mutes (before after : Client) : Prop :=
  before.gone = true → after.gone = true ∧ after.stream.sent = before.stream.sent

namespace Client.Mutes

variable {before middle after : Client}

/-- The same stream is as mute as it was. -/
theorem same (stream : after.stream = before.stream) : before.Mutes after := by
  intro gone
  rw [Client.gone, stream]
  exact ⟨gone, rfl⟩

/-- Mute through two steps. -/
theorem trans (first : before.Mutes middle) (second : middle.Mutes after) : before.Mutes after := by
  intro gone
  obtain ⟨still, quiet⟩ := first gone
  obtain ⟨yet, silent⟩ := second still
  exact ⟨yet, silent.trans quiet⟩

/-- A connection closed. -/
theorem close (client : Client) : client.Mutes client.close := by
  intro _
  exact ⟨rfl, rfl⟩

/-- A connection that is open takes nothing more only because a write failed. -/
theorem failed (isOpen : before.stream.isOpen = true)
    (stream : before.stream.writeFailed = true → after.stream = before.stream) :
    before.Mutes after := by
  intro gone
  rw [Client.gone, isOpen] at gone
  exact same (stream gone) (by rw [Client.gone, isOpen]; exact gone)

end Client.Mutes

/-- What goes on behind a failed write leaves the socket as it is. -/
theorem Socket.send_failed {socket : Socket} (failed : socket.writeFailed = true) (message : Message)
    (length : Nat) (taken : Option Nat) : socket.send message length taken = socket := by
  unfold Socket.send
  rw [if_pos failed]

/-- Writing puts nothing on a socket that was not on it, and opens none. -/
theorem Socket.flush_keeps (socket : Socket) (taken : Option Nat) :
    (socket.flush taken).isOpen = socket.isOpen ∧ (socket.flush taken).sent = socket.sent ∧
      (socket.writeFailed = true → (socket.flush taken).writeFailed = true) := by
  unfold Socket.flush
  split
  · exact ⟨rfl, rfl, id⟩
  · split
    · exact ⟨rfl, rfl, fun _ => rfl⟩
    · exact ⟨rfl, rfl, id⟩

/-- Who a client is, and where. -/
def Client.seat (client : Client) : ClientId × SessionId × UInt64 :=
  (client.id, client.session, client.focused)

/-- What may have become of a client that was told something. `unfailing` is that no write to
a socket fails. -/
structure Client.Hears (unfailing : Prop) (news : Message → Prop) (before after : Client) :
    Prop where
  seat : after.seat = before.seat
  stays : after.attached = true → before.attached = true
  left : before.attached = true → after.attached = false → after.closing = false →
    ∃ said, news (.detached said)
  mode : after.mode = before.mode ∨ ∃ said, news (.readerMode said)
  closed : before.closing = true → after.closing = true
  works : unfailing → before.stream.writeFailed = false → after.stream.writeFailed = false
  failed : before.stream.writeFailed = true → after.stream.writeFailed = true
  sent : ∃ fresh, after.stream.sent = before.stream.sent ++ fresh ∧ ∀ message ∈ fresh, news message

namespace Client.Hears

variable {unfailing : Prop} {news : Message → Prop} {before middle after : Client}

/-- Hearing keeps a client's number. -/
theorem id (hears : Hears unfailing news before after) : after.id = before.id :=
  congrArg Prod.fst hears.seat

/-- Hearing keeps its session. -/
theorem session (hears : Hears unfailing news before after) : after.session = before.session :=
  congrArg (fun seat => seat.2.1) hears.seat

/-- Hearing keeps its focus. -/
theorem focused (hears : Hears unfailing news before after) : after.focused = before.focused :=
  congrArg (fun seat => seat.2.2) hears.seat

/-- A client that may have left and has been sent nothing. -/
theorem quiet (seat : after.seat = before.seat) (mode : after.mode = before.mode)
    (stays : after.attached = true → before.attached = true)
    (left : before.attached = true → after.attached = false → after.closing = false →
      ∃ said, news (.detached said))
    (closed : before.closing = true → after.closing = true)
    (stream : after.stream.writeFailed = before.stream.writeFailed ∧
      after.stream.sent = before.stream.sent) : Hears unfailing news before after where
  seat := seat
  mode := .inl mode
  stays := stays
  left := left
  closed := closed
  works _ was := stream.1.trans was
  failed was := stream.1.trans was
  sent := ⟨[], stream.2.trans (List.append_nil _).symm, fun _ among => absurd among List.not_mem_nil⟩

/-- A client of whom something changes that is beside the point. -/
theorem idle (seat : (after.seat, after.mode, after.attached, after.closing, after.stream) =
    (before.seat, before.mode, before.attached, before.closing, before.stream)) :
    Hears unfailing news before after := by
  injection seat with seat rest
  injection rest with mode rest
  injection rest with attached rest
  injection rest with closing stream
  exact quiet seat mode (fun still => attached ▸ still)
    (fun was gone => absurd (was.symm.trans (attached.symm.trans gone)) (by decide))
    (fun was => closing ▸ was) ⟨congrArg Socket.writeFailed stream, congrArg Socket.sent stream⟩

/-- A client that may do something else from now on, and may be told so. -/
theorem moded {said : Proto.ReaderMode} (told : news (.readerMode said))
    (rest : (after.seat, after.attached, after.closing, after.stream) =
      (before.seat, before.attached, before.closing, before.stream)) :
    Hears unfailing news before after := by
  injection rest with seat rest
  injection rest with attached rest
  injection rest with closing stream
  have same : Hears unfailing news before { after with mode := before.mode } :=
    idle (by rw [Client.seat, Client.seat] at seat; simp only [Client.seat, seat, attached, closing, stream])
  exact { same with mode := .inr ⟨said, told⟩ }

/-- Nothing heard. -/
theorem refl (client : Client) : Hears unfailing news client client := idle rfl

/-- Heard in two halves. -/
theorem trans (first : Hears unfailing news before middle) (second : Hears unfailing news middle after) :
    Hears unfailing news before after where
  seat := second.seat.trans first.seat
  stays still := first.stays (second.stays still)
  left was gone open_ := by
    by_cases still : middle.attached = true
    · exact second.left still gone open_
    · refine first.left was (Bool.eq_false_of_not_eq_true still) ?_
      exact Bool.eq_false_of_not_eq_true fun shut => absurd (second.closed shut) (by rw [open_]; decide)
  mode := by
    rcases second.mode with same | said
    · exact first.mode.imp_left same.trans
    · exact .inr said
  closed was := second.closed (first.closed was)
  works sound was := second.works sound (first.works sound was)
  failed was := second.failed (first.failed was)
  sent := by
    obtain ⟨fresh, grown, said⟩ := first.sent
    obtain ⟨later, further, told⟩ := second.sent
    refine ⟨fresh ++ later, by rw [further, grown, List.append_assoc], fun message among => ?_⟩
    rcases List.mem_append.mp among with now | later
    · exact said message now
    · exact told message later

/-- What is heard of less news is heard of more. -/
theorem mono {more : Message → Prop} (wider : ∀ message, news message → more message)
    (hears : Hears unfailing news before after) : Hears unfailing more before after :=
  { hears with
    left := fun was gone open_ => (hears.left was gone open_).imp fun _ => wider _
    mode := hears.mode.imp_right fun ⟨said, told⟩ => ⟨said, wider _ told⟩
    sent := by
      obtain ⟨fresh, grown, said⟩ := hears.sent
      exact ⟨fresh, grown, fun message among => wider message (said message among)⟩ }

/-- Whoever reads a session after it was told something read it before. -/
theorem reads (hears : Hears unfailing news before after) {id : SessionId}
    (reads : after.reads id = true) : before.reads id = true := by
  simp only [Client.reads, Bool.and_eq_true, Bool.not_eq_true', decide_eq_true_eq] at reads ⊢
  obtain ⟨⟨still, stays⟩, here⟩ := reads
  refine ⟨⟨hears.stays still, ?_⟩, hears.session ▸ here⟩
  by_contra closing
  exact absurd (hears.closed (Bool.eq_true_of_not_eq_false closing)) (by rw [stays]; decide)

end Client.Hears

/-- What is noted of a terminal once its session has been told of it. -/
def Terminal.Flagged (before after : Terminal) : Prop :=
  ∃ layout marks title, after = { before with
    layoutAnnounced := layout
    marksAnnounced := marks
    customTitleAnnounced := title }

/-- A terminal is flagged as it is. -/
theorem Terminal.Flagged.refl (terminal : Terminal) : terminal.Flagged terminal := ⟨_, _, _, rfl⟩

/-- Flagged twice. -/
theorem Terminal.Flagged.trans {before middle after : Terminal} (first : before.Flagged middle)
    (second : middle.Flagged after) : before.Flagged after := by
  obtain ⟨_, _, _, rfl⟩ := first
  obtain ⟨layout, marks, title, rfl⟩ := second
  exact ⟨layout, marks, title, rfl⟩

/-- What may have become of a terminal there was news of. Where its window is and what was
asked of its child it keeps. -/
def Terminal.Noted (before after : Terminal) : Prop :=
  (after.id, after.layout, after.asked, after.program.state) =
    (before.id, before.layout, before.asked, before.program.state)

/-- A terminal is noted as it is. -/
theorem Terminal.Noted.refl (terminal : Terminal) : terminal.Noted terminal := rfl

/-- Noted twice. -/
theorem Terminal.Noted.trans {before middle after : Terminal} (first : before.Noted middle)
    (second : middle.Noted after) : before.Noted after := Eq.trans second first

/-- Noting keeps a terminal's number. -/
theorem Terminal.Noted.id {before after : Terminal} (noted : before.Noted after) :
    after.id = before.id := congrArg Prod.fst noted

/-- What only flags a terminal notes it. -/
theorem Terminal.Flagged.noted {before after : Terminal} (flagged : before.Flagged after) :
    before.Noted after := by
  obtain ⟨_, _, _, rfl⟩ := flagged
  rfl

namespace Server

/-- A server whose sockets take what they are given. -/
def Unfailing (server : Server) : Prop := ∀ write, (server.kernel write).isSome = true

/-- What telling is no concern of. -/
structure Untold where
  sessions : List Session
  nextClient : ClientId
  nextTerminal : TerminalId
  nextSession : SessionId
  kills : List PendingKill
  closes : List PendingClose
  kernel : Nat → Option Nat
  nowNanos : Int

/-- A server's part that telling is no concern of. -/
def untold (server : Server) : Untold where
  sessions := server.sessions
  nextClient := server.nextClient
  nextTerminal := server.nextTerminal
  nextSession := server.nextSession
  kills := server.kills
  closes := server.closes
  kernel := server.kernel
  nowNanos := server.nowNanos

/-- What may have become of a server that told its clients something, and noted something of
its terminals. -/
structure Tells (news : ClientId → Message → Prop) (notes : Terminal → Terminal → Prop)
    (before after : Server) : Prop where
  clients : List.Forall₂ (fun one each => Client.Hears before.Unfailing (news one.id) one each)
    before.clients after.clients
  mute : ∀ id client, before.client id = some client →
    ∃ later, after.client id = some later ∧ client.Mutes later
  terminals : List.Forall₂ notes before.terminals after.terminals
  rest : after.untold = before.untold

variable {server before middle after : Server} {news : ClientId → Message → Prop}
  {notes : Terminal → Terminal → Prop}

namespace Tells

/-- Every client has heard nothing. -/
theorem same_clients (server : Server) :
    List.Forall₂ (fun one each => Client.Hears server.Unfailing (news one.id) one each)
      server.clients server.clients :=
  List.forall₂_same.mpr fun client _ => .refl client

/-- Every client found is as mute as it was. -/
theorem same_mute (clients : after.clients = before.clients) (id : ClientId) (client : Client)
    (found : before.client id = some client) :
    ∃ later, after.client id = some later ∧ client.Mutes later := by
  refine ⟨client, ?_, .same rfl⟩
  rw [Server.client, clients]
  exact found

/-- Telling keeps the sessions. -/
theorem sessions (tells : Tells news notes before after) : after.sessions = before.sessions :=
  congrArg Untold.sessions tells.rest

/-- Telling keeps what the sockets take. -/
theorem kernel (tells : Tells news notes before after) : after.kernel = before.kernel :=
  congrArg Untold.kernel tells.rest

/-- Telling keeps the sockets unfailing. -/
theorem unfailing (tells : Tells news notes before after) :
    after.Unfailing = before.Unfailing := by
  rw [Unfailing, tells.kernel]
  rfl

/-- What is done beside clients, terminals and sessions. -/
theorem beside (clients : after.clients = before.clients)
    (terminals : after.terminals = before.terminals) (rest : after.untold = before.untold) :
    Tells news Eq before after where
  clients := by
    rw [clients]
    exact same_clients before
  mute := same_mute clients
  terminals := by
    rw [terminals]
    exact List.forall₂_same.mpr fun _ _ => rfl
  rest := rest

/-- Nothing told. -/
theorem refl (server : Server) : Tells news Eq server server := beside rfl rfl rfl

/-- Told in two halves. -/
theorem trans {later composed : Terminal → Terminal → Prop}
    (composes : ∀ first second third, notes first second → later second third →
      composed first third)
    (first : Tells news notes before middle) (second : Tells news later middle after) :
    Tells news composed before after where
  clients := by
    refine Data.paired_trans ?_ first.clients second.clients
    intro one other third here there
    rw [first.unfailing, here.id] at there
    exact here.trans there
  mute id client found := by
    obtain ⟨other, there, quiet⟩ := first.mute id client found
    obtain ⟨later, last, silent⟩ := second.mute id other there
    exact ⟨later, last, quiet.trans silent⟩
  terminals := Data.paired_trans composes first.terminals second.terminals
  rest := second.rest.trans first.rest

/-- Something told before. -/
theorem next (first : Tells news Eq before middle) (second : Tells news notes middle after) :
    Tells news notes before after := by
  have composes : ∀ one other third : Terminal, one = other → notes other third →
      notes one third := by
    rintro one _ third rfl noted
    exact noted
  exact first.trans composes second

/-- Something told afterwards. -/
theorem also (first : Tells news notes before middle) (second : Tells news Eq middle after) :
    Tells news notes before after := by
  have composes : ∀ one other third : Terminal, notes one other → other = third →
      notes one third := by
    rintro one _ _ noted rfl
    exact noted
  exact first.trans composes second

/-- What is noted of no terminal. -/
theorem noting (same : ∀ terminal, notes terminal terminal) (tells : Tells news Eq before after) :
    Tells news notes before after :=
  { tells with
    terminals := tells.terminals.imp fun one _ still => still ▸ same one }

/-- What is told of less news is told of more. -/
theorem mono {more : ClientId → Message → Prop} {further : Terminal → Terminal → Prop}
    (wider : ∀ id message, news id message → more id message)
    (weaker : ∀ one each, notes one each → further one each)
    (tells : Tells news notes before after) : Tells more further before after :=
  { tells with
    clients := tells.clients.imp fun _ _ hears => hears.mono (wider _)
    terminals := tells.terminals.imp weaker }

/-- One client that hears something. -/
theorem setClient (server : Server) (id : ClientId) {change : Client → Client}
    (hears : ∀ client, client.id = id →
      Client.Hears server.Unfailing (news id) client (change client))
    (mutes : ∀ client, server.client id = some client → client.Mutes (change client)) :
    Tells news Eq server (server.setClient id change) where
  clients := by
    refine Data.paired_map fun client _ => ?_
    split
    · rename_i same
      exact same ▸ hears client same
    · exact .refl client
  mute other client found := by
    have paired : List.Forall₂ (fun one each => each.id = one.id ∧
        each = if one.id = id then change one else one) server.clients
          (server.setClient id change).clients := by
      refine Data.paired_map fun one _ => ⟨?_, rfl⟩
      split
      · rename_i same
        exact (hears one same).id
      · rfl
    have become := @Data.paired_find _ _ _ Client.id _ _ _ (fun _ _ both => both.1) paired other
    unfold Server.client at found ⊢
    rw [found] at become
    generalize (server.setClient id change).clients.find? (fun client => client.id = other) = later
      at become
    cases become with
    | some both =>
        refine ⟨_, rfl, ?_⟩
        rw [both.2]
        split
        · rename_i same
          have named := client_id found
          exact mutes client (same ▸ named ▸ found)
        · exact .same rfl
  terminals := List.forall₂_same.mpr fun _ _ => rfl
  rest := rfl

/-- A client of whom something changes, and nothing that is on its connection. -/
theorem keep (server : Server) (id : ClientId) {change : Client → Client}
    (hears : ∀ client, client.id = id →
      Client.Hears server.Unfailing (news id) client (change client))
    (same : ∀ client, (change client).stream = client.stream) :
    Tells news Eq server (server.setClient id change) :=
  setClient server id hears fun client _ => .same (same client)

/-- A client of whom something changes that is beside the point. -/
theorem idle (server : Server) (id : ClientId) {change : Client → Client}
    (same : ∀ client, ((change client).seat, (change client).mode, (change client).attached,
        (change client).closing, (change client).stream) =
      (client.seat, client.mode, client.attached, client.closing, client.stream)) :
    Tells news Eq server (server.setClient id change) :=
  keep server id (fun client _ => .idle (same client)) fun client =>
    congrArg (fun all => all.2.2.2.2) (same client)

/-- One client marked as having heard. -/
theorem hear (server : Server) (id : ClientId) (message : Message) :
    Tells news Eq server (server.setClient id (Client.hear message)) := by
  refine idle server id fun client => ?_
  rw [Client.hear_eq]
  rfl

/-- One client dropped. -/
theorem drop (server : Server) (id : ClientId) : Tells news Eq server (server.drop id) := by
  unfold Server.drop
  split
  · exact refl server
  · rename_i client _
    have released : Tells news Eq server { server with
        released := server.released ++ [id]
        sessionListDirty := server.sessionListDirty || client.attached } :=
      beside rfl rfl rfl
    exact released.next (setClient _ id
      (fun client _ => .quiet rfl rfl (fun still => absurd still Bool.false_ne_true)
        (fun _ _ (open_ : true = false) => absurd open_ (by decide)) (fun _ => rfl) ⟨rfl, rfl⟩)
      fun client _ => .close client)

/-- One frame queued. -/
theorem queue (server : Server) (id : ClientId) (message : Message) (frame : Bytes)
    (said : news id message)
    (isOpen : ∀ client, server.client id = some client → client.stream.isOpen = true) :
    Tells news Eq server (server.queue id message frame) := by
  have counted : Tells news Eq server { server with writes := server.writes + 1 } :=
    beside rfl rfl rfl
  refine counted.next (setClient _ id (fun client _ =>
    { seat := rfl, mode := .inl rfl, stays := fun still => still,
      left := fun was gone _ => absurd (was.symm.trans gone) (by decide),
      closed := fun was => was, works := ?_, failed := ?_, sent := ?_ })
    fun client found => .failed (isOpen client found) fun failed =>
      Socket.send_failed failed message frame.length _)
  · intro unfailing works
    obtain ⟨taken, answered⟩ := Option.isSome_iff_exists.mp (unfailing server.writes)
    dsimp only at answered ⊢
    rw [answered, Socket.send, works, if_neg Bool.false_ne_true]
  · intro gone
    dsimp only
    unfold Socket.send
    rw [if_pos gone]
    exact gone
  · dsimp only
    unfold Socket.send
    split
    · exact ⟨[], (List.append_nil _).symm, fun _ among => absurd among List.not_mem_nil⟩
    · split
      · exact ⟨[], (List.append_nil _).symm, fun _ among => absurd among List.not_mem_nil⟩
      · exact ⟨[message], rfl, fun _ among => List.mem_singleton.mp among ▸ said⟩

/-- A message on its way. What is done where no frame can carry it matters only there. -/
theorem deliverOr (server : Server) (id : ClientId) {message : Message} (said : news id message)
    {refused : Server → Server}
    (refuses : Proto.encode message = [] → ∀ heard, Tells news Eq heard (refused heard)) :
    Tells news Eq server (server.deliver id message refused) := by
  have heard : Tells news Eq server _ := hear server id message
  unfold Server.deliver
  split
  · exact refl server
  · rename_i client found
    split
    · exact refl server
    · rename_i isOpen
      dsimp only
      split
      · rename_i empty
        exact heard.next (refuses (List.isEmpty_iff.mp empty) _)
      · split
        · exact heard.next (drop ..)
        · refine heard.next (queue _ _ _ _ said fun each there => ?_)
          have hears := setClient_found found (Client.Told.hear message).id
          obtain rfl : client.hear message = each := Option.some.inj (hears.symm.trans there)
          rw [Client.stream_hear]
          exact Decidable.not_not.mp isOpen

/-- One message delivered, or refused. -/
theorem deliver (server : Server) (id : ClientId) {message : Message} (said : news id message)
    {refused : Server → Server} (refuses : ∀ heard, Tells news Eq heard (refused heard)) :
    Tells news Eq server (server.deliver id message refused) :=
  deliverOr server id said fun _ => refuses

/-- One client that falls behind. -/
theorem fallBehind (server : Server) (id : ClientId) :
    Tells news Eq server (server.setClient id Client.fallBehind) :=
  idle server id fun _ => rfl

/-- One message told. -/
theorem tell (server : Server) (id : ClientId) {message : Message} (said : news id message) :
    Tells news Eq server (server.tell id message) :=
  deliver server id said fun heard => fallBehind heard id

/-- One client told that it is detached. -/
theorem detach (server : Server) (id : ClientId) {reason : Proto.DetachReason} {text : Bytes}
    (said : news id (.detached ⟨reason, text⟩)) :
    Tells news Eq server (server.detach id reason text) := by
  unfold Server.detach
  split
  · exact refl server
  · split
    · exact refl server
    · have left : Tells news Eq server (server.setClient id Client.leave) :=
        keep server id (fun _ _ =>
          .quiet rfl rfl (fun still => absurd still Bool.false_ne_true) (fun _ _ _ => ⟨_, said⟩)
            (fun was => was) ⟨rfl, rfl⟩) fun _ => rfl
      refine left.next ((tell _ id said).next ?_)
      exact beside rfl rfl rfl

/-- A message sent. A session that cannot be said has its client detached. -/
theorem send (server : Server) (id : ClientId) {message : Message} (said : news id message)
    (instead : ∀ attached, message = .attached attached → ∀ reason text,
      news id (.detached ⟨reason, text⟩)) :
    Tells news Eq server (server.send id message) := by
  unfold Server.send
  split
  · exact deliver server id said fun heard => detach heard id (instead _ rfl ..)
  · exact tell server id said

/-- Anything but a session whole. -/
theorem say (server : Server) (id : ClientId) {message : Message} (said : news id message)
    (part : whole message = false) : Tells news Eq server (server.send id message) := by
  refine send server id said fun attached same => ?_
  rw [same] at part
  cases part

/-- What a client is sent of a print job it fetched. -/
def chunkNews (id : ClientId) (chunks : List Proto.PrintJobData) (told : ClientId)
    (message : Message) : Prop :=
  told = id ∧ ∃ chunk ∈ chunks, message = .printJobData chunk

/-- One queue flushed. -/
theorem flush (server : Server) (id : ClientId) : Tells news Eq server (server.flush id) := by
  have counted : Tells news Eq server { server with writes := server.writes + 1 } :=
    beside rfl rfl rfl
  refine counted.next (setClient _ id (fun client _ =>
    { seat := rfl, mode := .inl rfl, stays := fun still => still,
      left := fun was gone _ => absurd (was.symm.trans gone) (by decide),
      closed := fun was => was, works := ?_, failed := ?_, sent := ?_ }) fun client _ gone => ?_)
  · intro unfailing works
    obtain ⟨taken, answered⟩ := Option.isSome_iff_exists.mp (unfailing server.writes)
    dsimp only at answered ⊢
    rw [answered, Socket.flush, works, if_neg Bool.false_ne_true]
  · exact (Socket.flush_keeps client.stream _).2.2
  · have same := (Socket.flush_keeps client.stream (server.kernel server.writes)).2.1
    exact ⟨[], same.trans (List.append_nil _).symm, fun _ among => absurd among List.not_mem_nil⟩
  · obtain ⟨opens, same, fails⟩ := Socket.flush_keeps client.stream (server.kernel server.writes)
    refine ⟨?_, same⟩
    simp only [Client.gone, Bool.or_eq_true, Bool.not_eq_true'] at gone ⊢
    exact gone.imp opens.trans fails

/-- One terminal noted. -/
theorem setTerminal (server : Server) (id : TerminalId) {change : Terminal → Terminal}
    (noted : ∀ terminal, notes terminal (change terminal)) (same : ∀ terminal, notes terminal terminal) :
    Tells news notes server (server.setTerminal id change) where
  clients := same_clients server
  mute := same_mute rfl
  terminals := by
    refine Data.paired_map fun terminal _ => ?_
    split
    · exact noted terminal
    · exact same terminal
  rest := rfl

/-- A round of things said, each to a server that has come from the first by what was said
before. -/
theorem foldl {Item : Type} (items : List Item) {act : Server → Item → Server}
    (same : ∀ terminal, notes terminal terminal)
    (composes : ∀ first second third, notes first second → notes second third → notes first third)
    (each : ∀ middle, Tells news notes before middle → ∀ item ∈ items,
      Tells news notes middle (act middle item)) :
    Tells news notes before (items.foldl act before) := by
  refine List.foldlRecOn items act (motive := fun middle => Tells news notes before middle) ?_ ?_
  · exact (refl before).noting same
  · exact fun middle told item among => told.trans composes (each middle told item among)

/-- A print job's chunks, said to whoever fetched it. -/
theorem sendChunks (server : Server) (id : ClientId) (chunks : List Proto.PrintJobData) :
    Tells (chunkNews id chunks) Eq server (server.sendChunks id chunks) := by
  refine foldl chunks (fun _ => rfl) (fun _ _ _ same again => same.trans again) ?_
  exact fun middle _ chunk among => say middle id ⟨rfl, chunk, among, rfl⟩ rfl

/-- A client found afterwards has heard something as the client it was. -/
theorem was (tells : Tells news notes before after) {id : ClientId} {client : Client}
    (found : after.client id = some client) :
    ∃ one, before.client id = some one ∧ Client.Hears before.Unfailing (news one.id) one client := by
  have paired := @Data.paired_find _ _ _ Client.id _ _ _ (fun _ _ hears => hears.id) tells.clients id
  unfold Server.client at found ⊢
  rw [found] at paired
  generalize before.clients.find? (fun client => client.id = id) = earlier at paired
  cases paired with
  | some hears => exact ⟨_, rfl, hears⟩

/-- Something told to everybody attached to a session, whoever reads it. -/
theorem forEachReader (id : SessionId) {act : Server → ClientId → Server}
    (each : ∀ middle, Tells news Eq before middle → ∀ client,
      middle.client client.id = some client → client.reads id = true →
        Tells news Eq middle (act middle client.id)) :
    Tells news Eq before (before.forEachAttached id act) := by
  refine foldl _ (fun _ => rfl) (fun _ _ _ same again => same.trans again) fun middle told other _ => ?_
  split
  · exact refl middle
  · rename_i client found
    split
    · rename_i reads
      have named := client_id found
      have read := each middle told client (named.symm ▸ found) reads
      rwa [named] at read
    · exact refl middle

/-- Something told to everybody attached to a session. -/
theorem forEachAttached (id : SessionId) {act : Server → ClientId → Server}
    (each : ∀ middle, Tells news Eq before middle → ∀ client,
      Tells news Eq middle (act middle client)) :
    Tells news Eq before (before.forEachAttached id act) :=
  forEachReader id fun middle told client _ _ => each middle told client.id

/-- The session list told to one client. -/
theorem sendSessionList (server : Server) (id : ClientId) (said : ∀ list, news id (.sessionList list)) :
    Tells news Eq server (server.sendSessionList id) := by
  refine (say server id (said _) rfl).next (keep _ id (fun client _ => ?_) fun client => ?_)
  · split
    · exact .idle rfl
    · exact .refl client
  · split <;> rfl

/-- The session list told to all. -/
theorem broadcastSessionList (server : Server) (requester : Option ClientId)
    (said : ∀ id list, news id (.sessionList list)) :
    Tells news Eq server (server.broadcastSessionList requester) := by
  have clean : Tells news Eq server { server with sessionListDirty := false } :=
    beside rfl rfl rfl
  refine clean.next (foldl _ (fun _ => rfl) (fun _ _ _ same again => same.trans again) fun server _ each _ => ?_)
  split
  · exact refl server
  · split
    · exact sendSessionList server each (said each)
    · exact refl server

/-- What a client is sent when its session is sent whole, or cannot be. -/
def wholeNews (server : Server) (id : ClientId) (client : Client) (told : ClientId)
    (message : Message) : Prop :=
  told = id ∧ (message = (server.clean id).attachedMessage client ∨
    ∃ reason text, message = .detached ⟨reason, text⟩)

/-- Terminals put in a snapshot are flagged. -/
theorem snapshotTerminals (server : Server) (held : List TerminalId) (index : UInt16) :
    Tells news Terminal.Flagged server (server.snapshotTerminals held index).2 := by
  induction held generalizing server index with
  | nil => exact (refl server).noting Terminal.Flagged.refl
  | cons id ids ih =>
      rw [Server.snapshotTerminals]
      split
      · exact ih server index
      · rename_i terminal _
        have believed : Tells news Eq server { server with
            diffs := Function.update server.diffs id
              ((server.differ id).snapshot id terminal.session).2 } :=
          beside rfl rfl rfl
        have composes : ∀ one other third : Terminal, one.Flagged other → other.Flagged third →
            one.Flagged third := fun _ _ _ => Terminal.Flagged.trans
        refine Tells.trans composes (believed.next ?_) (ih _ _)
        exact setTerminal _ id (fun _ => ⟨true, true, true, rfl⟩) Terminal.Flagged.refl

/-- The whole session told to one client. -/
theorem sendSnapshot [Emulator] {server : Server} {id : ClientId} {client : Client}
    (found : server.client id = some client) :
    Tells (wholeNews server id client) Terminal.Flagged server (server.sendSnapshot id) := by
  obtain ⟨owed, sent⟩ := sendSnapshot_eq found
  have cleaned : Tells (wholeNews server id client) Eq server (server.clean id) :=
    idle server id fun _ => rfl
  have listed := cleaned.next (snapshotTerminals (server.clean id)
      ((((server.clean id).sessionFor client.session).map Session.terminals).getD []) 0)
  rw [sent]
  split
  · exact listed.also (detach _ id ⟨rfl, .inr ⟨_, _, rfl⟩⟩)
  · refine listed.also ((deliver _ id ⟨rfl, .inl rfl⟩ fun heard => ?_).next
      (idle _ id fun _ => rfl))
    exact detach heard id ⟨rfl, .inr ⟨_, _, rfl⟩⟩

/-! ### Layouts -/

/-- What a session's readers are sent when its layout is announced: its own desktop, if it
has one, and to each what that client was last in. -/
def layoutNews (server : Server) (session : Session) (told : ClientId) (message : Message) : Prop :=
  ∃ layout client, message = .layoutDelta layout ∧ server.client told = some client ∧
    client.reads session.id = true ∧ layout.session = session.id ∧
    layout.focusedTerm = client.focused ∧
    (session.desktop.positive → layout.desktopColumns = UInt16.ofNat session.desktop.width ∧
      layout.desktopRows = UInt16.ofNat session.desktop.height)

/-- A layout told to those who read the session. -/
theorem announceSessionLayout (server : Server) (session : Session) (forced : Bool) :
    Tells (layoutNews server session) Terminal.Flagged server
      (server.announceSessionLayout session forced) := by
  have still : Tells (layoutNews server session) Terminal.Flagged server server :=
    (refl server).noting Terminal.Flagged.refl
  unfold Server.announceSessionLayout
  dsimp only
  split
  · exact still
  · split
    · exact still
    · refine Tells.next (forEachReader session.id fun middle told reader found reads => ?_) (foldl _
        Terminal.Flagged.refl (fun _ _ _ first second => first.trans second) fun middle _ id _ => ?_)
      · obtain ⟨client, was, hears⟩ := told.was found
        refine say middle reader.id
          ⟨_, client, rfl, was, hears.reads reads, rfl, ?_, fun positive => ?_⟩ rfl
        · rw [found]
          exact hears.focused
        · rw [if_pos (by simpa [Size.positive] using positive)]
          exact ⟨rfl, rfl⟩
      · exact setTerminal middle id (fun terminal => ⟨true, _, _, rfl⟩) Terminal.Flagged.refl

/-- One reader leaves a session, if it is in it. -/
def leaveSession (id : SessionId) (reason : Proto.DetachReason) (text : Bytes) (server : Server)
    (each : ClientId) : Server :=
  match server.client each with
  | none => server
  | some client =>
      if client.attached ∧ client.session = id then server.detach each reason text else server

/-- A session is left by whoever was in it, and forgotten. -/
theorem forgetSession (server : Server) (id : SessionId) (reason : Proto.DetachReason)
    (text : Bytes) :
    ∃ left, Tells (fun _ message => states message = false) Eq server left ∧
      Tells (fun _ message => states message = false) Eq
        { left with sessions := left.sessions.filter fun session => session.id ≠ id }
        (server.forgetSession id reason text) := by
  refine ⟨(server.clients.map Client.id).foldl (leaveSession id reason text) server, ?_, ?_⟩
  · refine foldl _ (fun _ => rfl) (fun _ _ _ same again => same.trans again) fun middle _ each _ => ?_
    rw [leaveSession]
    split
    · exact refl middle
    · split
      · exact detach middle each rfl
      · exact refl middle
  · unfold Server.forgetSession
    dsimp only
    split
    · exact (broadcastSessionList _ none fun _ _ => rfl).next (beside rfl rfl rfl)
    · exact broadcastSessionList _ none fun _ _ => rfl

/-! ### News -/

/-- A terminal's marks told. -/
theorem announceMarks (server : Server) (id : TerminalId) (home : Session) (watcher : ClientId)
    (said : ∀ message, tidings message = true → news watcher message) :
    Tells news Terminal.Noted server
      (server.announceMarks id home watcher) := by
  unfold Server.announceMarks
  split
  · exact (refl server).noting Terminal.Noted.refl
  · split
    · exact (refl server).noting Terminal.Noted.refl
    · rename_i terminal _ _
      exact (say server watcher (said _ rfl) rfl).next
        (setTerminal _ id (fun _ => rfl) Terminal.Noted.refl)

/-- Its clipboard told. -/
theorem announceClipboard (server : Server) (id : TerminalId) (watcher : ClientId)
    (said : ∀ message, tidings message = true → news watcher message) :
    Tells news Eq server
      (server.announceClipboard id watcher) := by
  unfold Server.announceClipboard
  split
  · exact refl server
  · split
    · exact say server watcher (said _ rfl) rfl
    · exact refl server

/-- Its diagnostics told. -/
theorem announceDiagnostic (server : Server) (id : TerminalId) (watcher : ClientId)
    (said : ∀ message, tidings message = true → news watcher message) :
    Tells news Eq server
      (server.announceDiagnostic id watcher) := by
  unfold Server.announceDiagnostic
  split
  · exact refl server
  · split
    · exact refl server
    · split
      · exact refl server
      · exact say server watcher (said _ rfl) rfl

/-- A terminal changed that is found. -/
theorem replace (server : Server) {id : TerminalId} {terminal : Terminal} {change : Terminal → Terminal}
    (distinct : (server.terminals.map Terminal.id).Nodup)
    (found : server.terminal id = some terminal) (noted : notes terminal (change terminal))
    (same : ∀ terminal, notes terminal terminal) :
    Tells news notes server (server.setTerminal id change) where
  clients := same_clients server
  mute := same_mute rfl
  terminals := by
    refine Data.paired_map fun other there => ?_
    split
    · rename_i named
      have only := Data.find_of_mem distinct there
      rw [named] at only
      obtain rfl : other = terminal := Option.some.inj (only.symm.trans found)
      exact noted
    · exact same other
  rest := rfl

/-- Printing announced, whatever is noted of the terminal that keeps its new jobs. -/
theorem printing {server : Server} (id : TerminalId) (watcher : ClientId)
    (same : ∀ terminal, notes terminal terminal)
    (keeps : ∀ terminal, server.terminal id = some terminal → ∀ news', Tells news notes server
      (server.setTerminal id fun _ =>
        { (terminal.collectPrintJobs server.nowNanos).2 with printerNews := news' }))
    (said : ∀ message, tidings message = true → news watcher message) :
    Tells news notes server (server.announcePrinting id watcher) := by
  unfold Server.announcePrinting
  split
  · exact (refl server).noting same
  · rename_i terminal found
    split
    · exact (refl server).noting same
    · have kept := keeps terminal found
        (if terminal.program.printer then terminal.printerNews else false)
      have told : ∀ (jobs : List HeldJob) (server : Server),
          Tells news Eq server
            (jobs.foldl (fun server job => server.send watcher (.printJobAdded ⟨id, job.info⟩))
              server) :=
        fun jobs server => foldl jobs (fun _ => rfl) (fun _ _ _ same again => same.trans again)
          fun middle _ job _ => say middle watcher (said _ rfl) rfl
      exact kept.also ((told _ _).next (say _ watcher (said _ rfl) rfl))

/-- Its printing told. -/
theorem announcePrinting {server : Server} (distinct : (server.terminals.map Terminal.id).Nodup)
    (id : TerminalId) (watcher : ClientId)
    (said : ∀ message, tidings message = true → news watcher message) :
    Tells news Terminal.Noted server (server.announcePrinting id watcher) :=
  printing id watcher Terminal.Noted.refl
    (fun _ found _ => replace server distinct found rfl Terminal.Noted.refl) said

end Tells

end Server

end Ckmux
