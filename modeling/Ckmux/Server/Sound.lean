import Mathlib
import Ckmux.Server.Runs
import Ckmux.Server.StateLaws

/-!
# What every reachable server is like

Clients are told apart by their ids, whoever is attached has said hello on a
connection that is still open, and no name given to a terminal is longer than the
wire carries. Each function keeps this, and so does every run.
-/

namespace Ckmux

open Grammar (Bytes)
open Proto (Message)

/-- A client that may be attached: it said hello in our own words, and is still there. -/
structure Client.Ready (client : Client) : Prop where
  greeted : client.greeted = true
  matched : client.awaitingKillFromMismatchedCli = false
  stays : client.closing = false
  isOpen : client.stream.isOpen = true

/-- A client is ready when it has greeted, is not to be killed, is not closing and has its stream
open. -/
theorem Client.ready_iff (client : Client) : client.Ready ↔ client.greeted = true ∧
    client.awaitingKillFromMismatchedCli = false ∧ client.closing = false ∧
    client.stream.isOpen = true :=
  ⟨fun ready => ⟨ready.greeted, ready.matched, ready.stays, ready.isOpen⟩,
    fun ⟨greeted, matched, stays, isOpen⟩ => ⟨greeted, matched, stays, isOpen⟩⟩

instance (client : Client) : Decidable client.Ready := decidable_of_iff' _ client.ready_iff

/-- A client that is attached is one that may be. -/
def Client.Seated (client : Client) : Prop := client.attached = true → client.Ready

/-- What may become of a client without its being attached. -/
structure Client.Keeps (change : Client → Client) : Prop where
  id : ∀ client, (change client).id = client.id
  seated : ∀ client, client.Seated → (change client).Seated

/-- A terminal's title is no longer than the wire allows. -/
def Terminal.Titled (terminal : Terminal) : Prop :=
  terminal.customTitle.length ≤ Proto.kMaxTitleBytes

/-- What every reached server keeps of its clients and terminals. -/
structure Server.Sound (server : Server) : Prop where
  distinct : (server.clients.map Client.id).Nodup
  fresh : ∀ client ∈ server.clients, client.id < server.nextClient
  seated : ∀ client ∈ server.clients, client.Seated
  titled : ∀ terminal ∈ server.terminals, terminal.Titled

/-! ### Changes -/

/-- Sending closes no socket. -/
theorem Socket.send_isOpen (socket : Socket) (message : Message) (length : Nat)
    (taken : Option Nat) : (socket.send message length taken).isOpen = socket.isOpen := by
  unfold Socket.send
  split
  · rfl
  · split <;> rfl

/-- Flushing closes no socket. -/
theorem Socket.flush_isOpen (socket : Socket) (taken : Option Nat) :
    (socket.flush taken).isOpen = socket.isOpen := by
  unfold Socket.flush
  split
  · rfl
  · split <;> rfl

/-- A client of whom nothing changes that being seated is about. -/
theorem Client.Keeps.of_eq {change : Client → Client}
    (id : ∀ client, (change client).id = client.id)
    (attached : ∀ client, (change client).attached = client.attached)
    (greeted : ∀ client, (change client).greeted = client.greeted)
    (matched : ∀ client, (change client).awaitingKillFromMismatchedCli =
      client.awaitingKillFromMismatchedCli)
    (closing : ∀ client, (change client).closing = client.closing)
    (isOpen : ∀ client, (change client).stream.isOpen = client.stream.isOpen) :
    Client.Keeps change where
  id := id
  seated client seated still := by
    obtain ⟨hello, same, stays, there⟩ := seated ((attached client).symm.trans still)
    exact ⟨(greeted client).trans hello, (matched client).trans same, (closing client).trans stays,
      (isOpen client).trans there⟩

/-- What being sound is about of one client. -/
def Client.standing (client : Client) : ClientId × Bool × Bool × Bool × Bool × Bool :=
  (client.id, client.attached, client.greeted, client.awaitingKillFromMismatchedCli,
    client.closing, client.stream.isOpen)

/-- A change that keeps a client's standing keeps it sound. -/
theorem Client.Keeps.of_standing {change : Client → Client}
    (same : ∀ client, (change client).standing = client.standing) : Client.Keeps change := by
  simp only [Client.standing, Prod.mk.injEq] at same
  exact .of_eq (fun client => (same client).1) (fun client => (same client).2.1)
    (fun client => (same client).2.2.1) (fun client => (same client).2.2.2.1)
    (fun client => (same client).2.2.2.2.1) fun client => (same client).2.2.2.2.2

/-- A client that leaves. -/
theorem Client.Keeps.of_left {change : Client → Client}
    (id : ∀ client, (change client).id = client.id)
    (left : ∀ client, (change client).attached = false) : Client.Keeps change where
  id := id
  seated client _ still := absurd ((left client).symm.trans still) Bool.false_ne_true

/-- Hearing a message keeps a client sound. -/
theorem Client.Keeps.hear (message : Message) : Client.Keeps (Client.hear message) := by
  have each : ∀ client, Client.hear message client =
      { client with statsDeadAnnounced := (Client.hear message client).statsDeadAnnounced } := by
    intro client
    unfold Client.hear
    split <;> try rfl
    split <;> rfl
  refine .of_eq ?_ ?_ ?_ ?_ ?_ ?_ <;> intro client <;> rw [each]

namespace Server

variable {server : Server}

/-- Being sound is about the clients, the terminals and the next client's id. -/
theorem Sound.congr {before after : Server} (sound : before.Sound)
    (clients : after.clients = before.clients) (terminals : after.terminals = before.terminals)
    (next : after.nextClient = before.nextClient) : after.Sound where
  distinct := clients ▸ sound.distinct
  fresh := by
    rw [clients, next]
    exact sound.fresh
  seated := clients ▸ sound.seated
  titled := terminals ▸ sound.titled

/-- Sound on either side of a condition. -/
theorem Sound.ite {condition : Prop} [Decidable condition] {first second : Server}
    (held : first.Sound) (otherwise : second.Sound) :
    (if condition then first else second).Sound := by
  split
  · exact held
  · exact otherwise

/-- One client changed, who is seated as far as it is attached. -/
theorem Sound.changeClient (sound : server.Sound) {id : ClientId} {change : Client → Client}
    (kept : ∀ client, (change client).id = client.id)
    (seated : ∀ client ∈ server.clients, client.id = id → (change client).Seated) :
    (server.setClient id change).Sound where
  distinct := by
    have same : (server.setClient id change).clients.map Client.id =
        server.clients.map Client.id := by
      simp only [setClient, List.map_map]
      refine List.map_congr_left fun client _ => ?_
      dsimp only [Function.comp_apply]
      split
      · exact kept client
      · rfl
    rw [same]
    exact sound.distinct
  fresh := by
    intro client changed
    obtain ⟨before, there, rfl⟩ := List.mem_map.mp changed
    split
    · rw [kept]
      exact sound.fresh before there
    · exact sound.fresh before there
  seated := by
    intro client changed
    obtain ⟨before, there, rfl⟩ := List.mem_map.mp changed
    split
    · rename_i same
      exact seated before there same
    · exact sound.seated before there
  titled := sound.titled

/-- Sound with one client changed. -/
theorem Sound.setClient (sound : server.Sound) (id : ClientId) {change : Client → Client}
    (keeps : Client.Keeps change) : (server.setClient id change).Sound :=
  sound.changeClient keeps.id fun client there _ => keeps.seated client (sound.seated client there)

/-- A client of whom nothing changes that being sound is about. -/
theorem Sound.updateClient (sound : server.Sound) (id : ClientId) (change : Client → Client)
    (same : ∀ client, (change client).standing = client.standing) :
    (server.setClient id change).Sound :=
  sound.setClient id (.of_standing same)

/-- Sound with one terminal changed. -/
theorem Sound.setTerminal (sound : server.Sound) (id : TerminalId) (change : Terminal → Terminal)
    (titled : ∀ terminal, terminal.Titled → (change terminal).Titled) :
    (server.setTerminal id change).Sound :=
  { sound with
    titled := by
      intro terminal changed
      obtain ⟨before, there, rfl⟩ := List.mem_map.mp changed
      split
      · exact titled before (sound.titled before there)
      · exact sound.titled before there }

/-- Sound with one session changed. -/
theorem Sound.setSession (sound : server.Sound) (id : SessionId) (change : Session → Session) :
    (server.setSession id change).Sound := sound.congr rfl rfl rfl

/-! ### Sending -/

/-- Sound with a client dropped. -/
theorem Sound.drop (sound : server.Sound) (id : ClientId) : (server.drop id).Sound := by
  rw [Server.drop]
  split
  · exact sound
  · rename_i client _
    have released : Sound { server with
        released := server.released ++ [id]
        sessionListDirty := server.sessionListDirty || client.attached } := sound.congr rfl rfl rfl
    exact released.setClient id (.of_left (fun _ => rfl) fun _ => rfl)

/-- Sound with a frame queued. -/
theorem Sound.queue (sound : server.Sound) (id : ClientId) (message : Message) (frame : Bytes) :
    (server.queue id message frame).Sound := by
  have counted : Sound { server with writes := server.writes + 1 } := sound.congr rfl rfl rfl
  refine counted.updateClient id _ fun client => ?_
  simp only [Client.standing, Socket.send_isOpen]

/-- Sound with a message delivered or refused. -/
theorem Sound.deliver (sound : server.Sound) (id : ClientId) (message : Message)
    {refused : Server → Server} (refuses : ∀ heard, Sound heard → (refused heard).Sound) :
    (server.deliver id message refused).Sound := by
  have heard := sound.setClient id (Client.Keeps.hear message)
  rw [Server.deliver]
  split
  · exact sound
  · split
    · exact sound
    · dsimp only
      split
      · exact refuses _ heard
      · split
        · exact heard.drop id
        · exact heard.queue id message _

/-- Sound with a client told. -/
theorem Sound.tell (sound : server.Sound) (id : ClientId) (message : Message) :
    (server.tell id message).Sound :=
  sound.deliver id message fun _ heard => heard.updateClient id _ fun _ => rfl

/-- Sound with a client detached. -/
theorem Sound.detach (sound : server.Sound) (id : ClientId) (reason : Proto.DetachReason)
    (text : Bytes) : (server.detach id reason text).Sound := by
  rw [Server.detach]
  split
  · exact sound
  · split
    · exact sound
    · have leaves : Client.Keeps Client.leave := .of_left (fun _ => rfl) fun _ => rfl
      exact ((sound.setClient id leaves).tell id _).congr rfl rfl rfl

/-- Sound with a message sent. -/
theorem Sound.send (sound : server.Sound) (id : ClientId) (message : Message) :
    (server.send id message).Sound := by
  unfold Server.send
  split
  · exact sound.deliver id _ fun _ heard => heard.detach id ..
  · exact sound.tell id message

/-- Sound with a request refused. -/
theorem Sound.refuse (sound : server.Sound) (id : ClientId) (code : ErrorCode)
    (context human : Bytes) : (server.refuse id code context human).Sound := sound.send id _

/-- Sound with a client's queue flushed. -/
theorem Sound.flush (sound : server.Sound) (id : ClientId) : (server.flush id).Sound := by
  have counted : Sound { server with writes := server.writes + 1 } := sound.congr rfl rfl rfl
  refine counted.updateClient id _ fun client => ?_
  simp only [Client.standing, Socket.flush_isOpen]

/-! ### Everybody in turn -/

/-- Sound item after item. -/
theorem Sound.foldl {Item : Type} (sound : server.Sound) (items : List Item)
    {act : Server → Item → Server} (each : ∀ server item, Sound server → (act server item).Sound) :
    (items.foldl act server).Sound :=
  List.foldlRecOn items act sound fun server sound item _ => each server item sound

/-- Sound client after client. -/
theorem Sound.forEachClient (sound : server.Sound) {act : Server → Client → Server}
    (each : ∀ server client, Sound server → (act server client).Sound) :
    (server.forEachClient act).Sound := by
  refine sound.foldl _ fun server each_id sound => ?_
  split
  · exact sound
  · exact each _ _ sound

/-- Sound terminal after terminal. -/
theorem Sound.forEachTerminal (sound : server.Sound) {act : Server → Terminal → Server}
    (each : ∀ (server : Server) (id : TerminalId) (terminal : Terminal),
      server.terminal id = some terminal → Sound server → (act server terminal).Sound) :
    (server.forEachTerminal act).Sound := by
  refine sound.foldl _ fun server each_id sound => ?_
  split
  · exact sound
  · exact each _ _ _ ‹_› sound

/-- Sound attached client after attached client. -/
theorem Sound.forEachAttached (sound : server.Sound) (id : SessionId)
    (act : Server → ClientId → Server)
    (each : ∀ server client, Sound server → (act server client).Sound) :
    (server.forEachAttached id act).Sound := by
  refine sound.foldl _ fun server each_id sound => ?_
  split
  · exact sound
  · split
    · exact each _ _ sound
    · exact sound

end Server

end Ckmux
