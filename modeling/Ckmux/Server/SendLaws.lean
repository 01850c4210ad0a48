import Mathlib
import Ckmux.Server.Spares
import Ckmux.Server.SnapshotLaws

/-!
# What reaches a client

A message reaches its client when the socket is open, no write to it has failed, this
one does not either, and there is room for the frame. A client whose queue has no room
is dropped.
-/

namespace Ckmux

open Grammar (Bytes)
open Proto (Message kSnapshotPayloadBudget)

/-- Whether a frame of some length gets on a socket, given what the other end answers. -/
def Socket.takes (socket : Socket) (length : Nat) (taken : Option Nat) : Bool :=
  socket.queued + length ≤ kHardLimitBytes && !socket.writeFailed && taken.isSome

/-- With room in the queue, a message is sent if the socket takes it. -/
theorem Socket.send_sent (socket : Socket) (message : Message) (length : Nat) (taken : Option Nat)
    (room : socket.queued + length ≤ kHardLimitBytes) :
    (socket.send message length taken).sent =
      socket.sent ++ if socket.takes length taken then [message] else [] := by
  unfold Socket.send Socket.takes
  cases failed : socket.writeFailed <;> cases taken <;> simp [room]

/-- Hearing a message changes at most the mark on the dead statistics. -/
theorem Client.hear_eq (message : Message) (client : Client) :
    client.hear message =
      { client with statsDeadAnnounced := (client.hear message).statsDeadAnnounced } := by
  unfold Client.hear
  split <;> try rfl
  split <;> rfl

/-- Hearing keeps the stream. -/
@[simp] theorem Client.stream_hear (message : Message) (client : Client) :
    (client.hear message).stream = client.stream := by rw [Client.hear_eq]

/-- Hearing keeps whether the client is attached. -/
@[simp] theorem Client.attached_hear (message : Message) (client : Client) :
    (client.hear message).attached = client.attached := by rw [Client.hear_eq]

/-- Hearing keeps the session. -/
@[simp] theorem Client.session_hear (message : Message) (client : Client) :
    (client.hear message).session = client.session := by rw [Client.hear_eq]

namespace Server

variable {server : Server} {id : ClientId} {client : Client}

/-- What a message does to the client it is for: it is dropped if there is no room, and
else the frame is on its socket unless a write fails. -/
theorem deliver_own (found : server.client id = some client) (isOpen : client.stream.isOpen = true)
    {message : Message} (framed : Proto.encode message ≠ []) (refused : Server → Server) :
    ∃ told, (server.deliver id message refused).client id = some told ∧
      told.stream.sent = client.stream.sent ++
        (if client.stream.takes (Proto.encode message).length (server.kernel server.writes) then
          [message] else []) ∧
      told.attached = (client.attached &&
        client.stream.queued + (Proto.encode message).length ≤ kHardLimitBytes) ∧
      told.session = client.session := by
  have heard : (server.setClient id (Client.hear message)).client id =
      some (client.hear message) := setClient_found found (Client.Told.hear message).id
  have unframed : ¬(Proto.encode message).isEmpty := by simpa using framed
  unfold Server.deliver
  rw [found]
  dsimp only
  rw [if_neg (not_not.mpr isOpen), if_neg unframed]
  by_cases full : client.stream.queued + (Proto.encode message).length > kHardLimitBytes
  · rw [if_pos full, Server.drop, heard]
    dsimp only
    refine ⟨_, setClient_found heard (by exact fun _ => rfl), ?_, ?_, ?_⟩
    · simp [Client.close, Socket.takes, Nat.not_le.mpr full]
    · simp [Client.close, Nat.not_le.mpr full]
    · simp [Client.close]
  · have room := Nat.not_lt.mp full
    rw [if_neg full, Server.queue]
    refine ⟨_, setClient_found heard (by exact fun _ => rfl), ?_, ?_, ?_⟩
    · rw [Client.stream_hear]
      exact Socket.send_sent client.stream message _ _ room
    · simp [room]
    · simp

/-- A client that is detached is told so, unless it cannot be told. -/
theorem detach_own (found : server.client id = some client) (attached : client.attached = true)
    (isOpen : client.stream.isOpen = true) {reason : Proto.DetachReason} {text : Bytes}
    (framed : Proto.encode (.detached ⟨reason, text⟩) ≠ []) :
    ∃ gone, (server.detach id reason text).client id = some gone ∧ gone.attached = false ∧
      gone.stream.sent = client.stream.sent ++
        if client.stream.takes (Proto.encode (.detached ⟨reason, text⟩)).length
            (server.kernel server.writes) then [.detached ⟨reason, text⟩]
        else [] := by
  unfold Server.detach
  rw [found]
  dsimp only
  rw [if_neg (not_not.mpr attached)]
  obtain ⟨gone, told, sent, still, _⟩ := deliver_own
    (@setClient_found _ _ _ Client.leave found fun _ => rfl) isOpen framed
    fun heard => heard.setClient id Client.fallBehind
  exact ⟨gone, told, still.trans (Bool.false_and _), sent⟩

/-! ### A session whole -/

/-- Putting the terminals in a snapshot changes no client. -/
@[simp] theorem snapshotTerminals_clients (server : Server) (held : List TerminalId)
    (index : UInt16) : (server.snapshotTerminals held index).2.clients = server.clients := by
  induction held generalizing server index with
  | nil => rfl
  | cons id ids ih =>
      rw [Server.snapshotTerminals]
      split
      · exact ih ..
      · exact ih ..

/-- Putting the terminals in a snapshot writes nothing. -/
@[simp] theorem snapshotTerminals_writes (server : Server) (held : List TerminalId)
    (index : UInt16) : (server.snapshotTerminals held index).2.writes = server.writes := by
  induction held generalizing server index with
  | nil => rfl
  | cons id ids ih =>
      rw [Server.snapshotTerminals]
      split
      · exact ih ..
      · exact ih ..

/-- Putting the terminals in a snapshot leaves the kernel alone. -/
@[simp] theorem snapshotTerminals_kernel (server : Server) (held : List TerminalId)
    (index : UInt16) : (server.snapshotTerminals held index).2.kernel = server.kernel := by
  induction held generalizing server index with
  | nil => rfl
  | cons id ids ih =>
      rw [Server.snapshotTerminals]
      split
      · exact ih ..
      · exact ih ..

/-- The terminals of a client's session as they stand, and the server that has told of
them. -/
def listSession (server : Server) (client : Client) : List Proto.TerminalState × Server :=
  server.snapshotTerminals
    (((server.sessionFor client.session).map Session.terminals).getD []) 0

/-- What a client's session has to be sent whole, its histories aside. -/
def bareSnapshot (server : Server) (client : Client) : Proto.Snapshot :=
  server.snapshotFrame client (server.listSession client).1

/-- What a client is sent of its session. -/
def wholeSnapshot (server : Server) (client : Client) : Proto.Snapshot :=
  ((server.listSession client).2.fillHistories (server.bareSnapshot client)).1

/-- What a client's attachment is answered with. -/
def attachedMessage (server : Server) (client : Client) : Message :=
  .attached ⟨client.session, server.wholeSnapshot client⟩

/-- Whether a client's session can be sent it: the screens are within the budget and
every text of it can be said. -/
def Sendable (server : Server) (client : Client) : Prop :=
  spent (server.bareSnapshot client) ≤ kSnapshotPayloadBudget ∧
    Proto.encode (server.attachedMessage client) ≠ []

instance (server : Server) (client : Client) : Decidable (server.Sendable client) :=
  inferInstanceAs (Decidable (_ ∧ _))

/-- The server a session is sent from: its client is dirty no longer. -/
def clean (server : Server) (id : ClientId) : Server :=
  server.setClient id Client.catchUp

/-- Only the one it is sent to notices that a session is sent. -/
theorem sendSnapshot_client [Emulator] (server : Server) {id other : ClientId}
    (another : other ≠ id) : (server.sendSnapshot id).client other = server.client other := by
  unfold Server.sendSnapshot
  split
  · rfl
  · have caught : Client.Told Client.catchUp := .beside (fun _ => rfl) fun _ still => still
    have clean : (server.setClient id Client.catchUp).client other = server.client other :=
      (Spares.setClient server id caught).client another
    have listed : ∀ (server : Server) held,
        (server.snapshotTerminals held 0).2.client other = server.client other := by
      intro server held
      rw [Server.client, snapshotTerminals_clients]
      rfl
    dsimp only
    split
    · rw [(Spares.detach ..).client another, listed, clean]
    · refine ((Spares.setClient _ id (.beside (fun _ => ?_) fun _ still => ?_)).client another).trans ?_
      · rfl
      · exact still
      rw [(Spares.send ..).client another, listed, clean]

/-- What a session is sent from: the terminals are listed, and either the screens are too
many or it goes, with its pictures to follow. -/
theorem sendSnapshot_eq [Emulator] (found : server.client id = some client) :
    ∃ owed, server.sendSnapshot id =
      if spent ((server.clean id).bareSnapshot client) > kSnapshotPayloadBudget then
        ((server.clean id).listSession client).2.detach id .sessionKilled
          (utf8 ("this session is too large for one snapshot; the screens alone are past the " ++
            "protocol's limit"))
      else
        (((server.clean id).listSession client).2.deliver id
          ((server.clean id).attachedMessage client) fun heard =>
            heard.detach id .sessionKilled (utf8 "this session is too large to send")).setClient id
          fun client => { client with owed := owed, drainingHeal := true } := by
  unfold Server.sendSnapshot
  rw [found]
  exact ⟨_, rfl⟩

/-- Listing a session's terminals leaves its clients as they are. -/
theorem listSession_client (found : server.client id = some client) :
    ((server.clean id).listSession client).2.client id = some client.catchUp := by
  rw [Server.client, listSession, snapshotTerminals_clients]
  exact @setClient_found _ _ _ Client.catchUp found fun _ => rfl

/-- A session that can be sent is, if the socket takes it; and its client stays, unless
its queue has no room. -/
theorem sendSnapshot_own [Emulator] (found : server.client id = some client)
    (isOpen : client.stream.isOpen = true) (sendable : (server.clean id).Sendable client) :
    let message := (server.clean id).attachedMessage client
    ∃ told, (server.sendSnapshot id).client id = some told ∧
      told.stream.sent = client.stream.sent ++
        (if client.stream.takes (Proto.encode message).length (server.kernel server.writes) then
          [message] else []) ∧
      told.attached = (client.attached &&
        client.stream.queued + (Proto.encode message).length ≤ kHardLimitBytes) ∧
      told.session = client.session := by
  obtain ⟨within, framed⟩ := sendable
  obtain ⟨owed, made⟩ := sendSnapshot_eq found
  obtain ⟨told, there, sent, attached, session⟩ := deliver_own (listSession_client found) isOpen
    framed fun heard => heard.detach id .sessionKilled (utf8 "this session is too large to send")
  rw [listSession, snapshotTerminals_writes, snapshotTerminals_kernel] at sent
  rw [made, if_neg (Nat.not_lt.mpr within)]
  exact ⟨_, setClient_found there (by exact fun _ => rfl), sent, attached, session⟩

/-- What a client is told that is detached for its session's size. -/
def TooLarge (message : Message) : Prop := ∃ text, message = .detached ⟨.sessionKilled, text⟩

/-- A client sent away with a text is told it on the way out. -/
theorem detach_tooLarge (text : Bytes) (found : server.client id = some client)
    (attached : client.attached = true) (isOpen : client.stream.isOpen = true)
    (framed : Proto.encode (.detached ⟨.sessionKilled, text⟩) ≠ []) :
    ∃ gone news, (server.detach id .sessionKilled text).client id = some gone ∧
      gone.attached = false ∧ gone.stream.sent = client.stream.sent ++ news ∧
      ∀ message ∈ news, TooLarge message := by
  obtain ⟨gone, there, left, sent⟩ := detach_own found attached isOpen framed
  refine ⟨gone, _, there, left, sent, ?_⟩
  intro message among
  split at among
  · exact ⟨text, List.mem_singleton.mp among⟩
  · cases among

/-- The text that refuses a session fits its frame. -/
theorem tooLarge_framed : Proto.encode (.detached ⟨.sessionKilled,
    utf8 "this session is too large to send"⟩) ≠ [] := by decide

/-- A client whose session cannot be sent is detached and not sent it. -/
theorem sendSnapshot_not [Emulator] (found : server.client id = some client)
    (isOpen : client.stream.isOpen = true) (attached : client.attached = true)
    (unsendable : ¬(server.clean id).Sendable client) :
    ∃ told news, (server.sendSnapshot id).client id = some told ∧ told.attached = false ∧
      told.stream.sent = client.stream.sent ++ news ∧ ∀ message ∈ news, TooLarge message := by
  obtain ⟨owed, made⟩ := sendSnapshot_eq found
  have listed := listSession_client found
  rw [made]
  by_cases past : spent ((server.clean id).bareSnapshot client) > kSnapshotPayloadBudget
  · rw [if_pos past]
    obtain ⟨gone, news, there, left, sent, large⟩ := detach_tooLarge
      (utf8 ("this session is too large for one snapshot; the screens alone are past the " ++
        "protocol's limit")) listed attached isOpen (by decide)
    exact ⟨gone, news, there, left, sent, large⟩
  · rw [if_neg past]
    have unframed : Proto.encode ((server.clean id).attachedMessage client) = [] := by
      by_contra framed
      exact unsendable ⟨Nat.not_lt.mp past, framed⟩
    obtain ⟨gone, news, there, left, sent, large⟩ := detach_tooLarge
      (utf8 "this session is too large to send") (setClient_found listed (Client.Told.hear ((server.clean id).attachedMessage client)).id)
      ((Client.attached_hear ..).trans attached)
      ((congrArg Socket.isOpen (Client.stream_hear ..)).trans isOpen) tooLarge_framed
    refine ⟨_, news, @setClient_found _ _ gone _ ?_ fun _ => rfl, left, ?_, large⟩
    · unfold Server.deliver
      rw [listed]
      dsimp only
      rw [if_neg (not_not.mpr (by exact isOpen)), unframed]
      exact there
    · rw [Client.stream_hear] at sent
      exact sent

end Server

end Ckmux
