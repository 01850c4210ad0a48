import Mathlib
import Ckmux.Server.Handle
import Ckmux.Server.StateLaws

/-!
# What is done to one client only

Sending, dropping, detaching and refusing are about one client: every other client,
every terminal and every session is as it was.
-/

namespace Ckmux

open Grammar (Bytes)
open Proto (Message)

/-- What becomes of a client that is told something: it is who it was, and is attached
only if it was. -/
structure Client.Told (change : Client → Client) : Prop where
  id : ∀ client, (change client).id = client.id
  greeted : ∀ client, (change client).greeted = client.greeted
  kind : ∀ client, (change client).kind = client.kind
  matched : ∀ client, (change client).awaitingKillFromMismatchedCli =
    client.awaitingKillFromMismatchedCli
  session : ∀ client, (change client).session = client.session
  mode : ∀ client, (change client).mode = client.mode
  stays : ∀ client, (change client).attached = true → client.attached = true

/-- Who a client is, and where it was last. -/
def Client.identity (client : Client) :
    ClientId × Bool × Proto.ClientKind × Bool × SessionId × AttachMode :=
  (client.id, client.greeted, client.kind, client.awaitingKillFromMismatchedCli, client.session,
    client.mode)

namespace Client.Told

/-- A client of whom something else changes. -/
theorem beside {change : Client → Client}
    (same : ∀ client, (change client).identity = client.identity)
    (stays : ∀ client, (change client).attached = true → client.attached = true) :
    Told change where
  id client := congrArg (·.1) (same client)
  greeted client := congrArg (·.2.1) (same client)
  kind client := congrArg (·.2.2.1) (same client)
  matched client := congrArg (·.2.2.2.1) (same client)
  session client := congrArg (·.2.2.2.2.1) (same client)
  mode client := congrArg (·.2.2.2.2.2) (same client)
  stays := stays

/-- Told twice. -/
theorem trans {earlier later : Client → Client} (first : Told earlier) (second : Told later) :
    Told fun client => later (earlier client) where
  id client := (second.id _).trans (first.id client)
  greeted client := (second.greeted _).trans (first.greeted client)
  kind client := (second.kind _).trans (first.kind client)
  matched client := (second.matched _).trans (first.matched client)
  session client := (second.session _).trans (first.session client)
  mode client := (second.mode _).trans (first.mode client)
  stays client still := first.stays client (second.stays _ still)

/-- Being marked as having heard is being told. -/
theorem hear (message : Message) : Told (Client.hear message) := by
  have each : ∀ client, Client.hear message client =
      { client with statsDeadAnnounced := (Client.hear message client).statsDeadAnnounced } := by
    intro client
    unfold Client.hear
    split <;> try rfl
    split <;> rfl
  constructor <;> intro client
  any_goals rw [each]
  intro still
  rw [each] at still
  exact still

end Client.Told

namespace Server

/-- Nothing has changed but one client, and what is noted beside the clients. -/
def Spares (id : ClientId) (before after : Server) : Prop :=
  ∃ (change : Client → Client) (dirty : Bool) (writes : Nat) (released : List ClientId),
    Client.Told change ∧
      after = { before with
        clients := before.clients.map fun client =>
          if client.id = id then change client else client
        sessionListDirty := dirty
        writes := writes
        released := released }

variable {server before middle after : Server} {id : ClientId}

namespace Spares

/-- A server left alone spares everything. -/
theorem refl (id : ClientId) (server : Server) : Spares id server server := by
  refine ⟨fun client => client, server.sessionListDirty, server.writes, server.released,
    .beside (fun _ => rfl) fun _ still => still, ?_⟩
  simp only [ite_self, List.map_id']

/-- Spared twice. -/
theorem trans (first : Spares id before middle) (second : Spares id middle after) :
    Spares id before after := by
  obtain ⟨earlier, _, _, _, told, rfl⟩ := first
  obtain ⟨later, dirty, writes, released, toldLater, rfl⟩ := second
  refine ⟨_, dirty, writes, released, told.trans toldLater, ?_⟩
  · have both : (before.clients.map fun client =>
          if client.id = id then earlier client else client).map
            (fun client => if client.id = id then later client else client) =
        before.clients.map fun client =>
          if client.id = id then later (earlier client) else client := by
      rw [List.map_map]
      refine List.map_congr_left fun client _ => ?_
      by_cases same : client.id = id
      · simp [same, told.id]
      · simp [same]
    simp only [both]

/-- A client told something spares what is shared. -/
theorem setClient (server : Server) (id : ClientId) {change : Client → Client}
    (told : Client.Told change) : Spares id server (server.setClient id change) :=
  ⟨change, _, _, _, told, rfl⟩

/-- Dropping the client itself spares the others. -/
theorem drop (server : Server) (id : ClientId) : Spares id server (server.drop id) := by
  unfold Server.drop
  split
  · exact refl ..
  · refine ⟨_, _, _, _, ?_, rfl⟩
    exact .beside (fun _ => rfl) fun _ still => absurd still Bool.false_ne_true

/-- A frame queued for it spares the others. -/
theorem queue (server : Server) (id : ClientId) (message : Message) (frame : Bytes) :
    Spares id server (server.queue id message frame) := by
  refine ⟨_, _, _, _, ?_, rfl⟩
  exact .beside (fun _ => rfl) fun _ still => still

theorem hear (server : Server) (id : ClientId) (message : Message) :
    Spares id server (server.setClient id (Client.hear message)) :=
  setClient server id (Client.Told.hear message)

/-- A message to it spares the others, delivered or refused. -/
theorem deliver (server : Server) (id : ClientId) (message : Message) {refused : Server → Server}
    (refuses : ∀ heard, Spares id heard (refused heard)) :
    Spares id server (server.deliver id message refused) := by
  have heard := hear server id message
  unfold Server.deliver
  split
  · exact refl ..
  · split
    · exact refl ..
    · dsimp only
      split
      · exact heard.trans (refuses _)
      · split
        · exact heard.trans (drop ..)
        · exact heard.trans (queue ..)

theorem tell (server : Server) (id : ClientId) (message : Message) :
    Spares id server (server.tell id message) :=
  deliver server id message fun heard => setClient heard id (.beside (fun _ => rfl) fun _ still => still)

theorem dirty (server : Server) (id : ClientId) (dirty : Bool) :
    Spares id server { server with sessionListDirty := dirty } := by
  refine ⟨fun client => client, dirty, server.writes, server.released,
    .beside (fun _ => rfl) fun _ still => still, ?_⟩
  simp only [ite_self, List.map_id']

/-- Detaching it spares the others. -/
theorem detach (server : Server) (id : ClientId) (reason : Proto.DetachReason) (text : Bytes) :
    Spares id server (server.detach id reason text) := by
  unfold Server.detach
  split
  · exact refl ..
  · split
    · exact refl ..
    · refine (setClient server id ?_).trans ((tell _ id _).trans (dirty _ id true))
      exact .beside (fun _ => rfl) fun _ still => absurd still Bool.false_ne_true

/-- Sending to it spares the others. -/
theorem send (server : Server) (id : ClientId) (message : Message) :
    Spares id server (server.send id message) := by
  unfold Server.send
  split
  · exact deliver server id _ fun heard => detach heard id ..
  · exact tell server id message

theorem refuse (server : Server) (id : ClientId) (code : ErrorCode) (context human : Bytes) :
    Spares id server (server.refuse id code context human) := send ..

/-- Item after item, each sparing. -/
theorem foldl {Item : Type} (items : List Item) {act : Server → Item → Server}
    (each : ∀ server item, Spares id server (act server item)) (server : Server) :
    Spares id server (items.foldl act server) := by
  induction items generalizing server with
  | nil => exact refl ..
  | cons item items ih => exact (each server item).trans (ih _)

theorem sendSessionList (server : Server) (id : ClientId) :
    Spares id server (server.sendSessionList id) := by
  refine (send server id _).trans (setClient _ id ?_)
  constructor <;> intro client <;> split
  any_goals rfl
  all_goals
    intro still
    exact still

theorem refuseWatcher (server : Server) (id : ClientId) (message : Message) :
    Spares id server (server.refuseWatcher id message) := by
  unfold Server.refuseWatcher
  split
  · exact refl ..
  · exact send ..
  · exact refuse ..

/-! ### What is as it was -/

/-- The terminals are spared. -/
theorem terminals (spares : Spares id before after) : after.terminals = before.terminals := by
  obtain ⟨_, _, _, _, _, rfl⟩ := spares
  rfl

/-- The sessions are spared. -/
theorem sessions (spares : Spares id before after) : after.sessions = before.sessions := by
  obtain ⟨_, _, _, _, _, rfl⟩ := spares
  rfl

/-- The settings are spared. -/
theorem settings (spares : Spares id before after) : after.settings = before.settings := by
  obtain ⟨_, _, _, _, _, rfl⟩ := spares
  rfl

/-- Another client is found as it was. -/
theorem client (spares : Spares id before after) {other : ClientId} (another : other ≠ id) :
    after.client other = before.client other := by
  obtain ⟨change, _, _, _, told, rfl⟩ := spares
  exact (client_setClient told.id).trans (if_neg another)

/-- The one it was about is who it was, as far as it is still there. -/
theorem own (spares : Spares id before after) :
    ∃ change, Client.Told change ∧ after.client id = (before.client id).map change := by
  obtain ⟨change, _, _, _, told, rfl⟩ := spares
  exact ⟨change, told, (client_setClient told.id).trans (if_pos rfl)⟩

/-- The clients are the same ones in the same order. -/
theorem ids (spares : Spares id before after) :
    after.clients.map Client.id = before.clients.map Client.id := by
  obtain ⟨change, _, _, _, told, rfl⟩ := spares
  rw [List.map_map]
  refine List.map_congr_left fun client _ => ?_
  dsimp only [Function.comp_apply]
  split
  · exact told.id client
  · rfl

/-- Of the other clients nothing has changed. -/
theorem others (spares : Spares id before after) :
    after.clients.filter (fun client => client.id ≠ id) =
      before.clients.filter fun client => client.id ≠ id := by
  obtain ⟨change, _, _, _, told, rfl⟩ := spares
  induction before.clients with
  | nil => rfl
  | cons client clients ih =>
      by_cases same : client.id = id
      · simpa [same, told.id] using ih
      · simpa [same] using ih

end Spares

end Server

end Ckmux
