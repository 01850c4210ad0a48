import Mathlib
import Ckmux.Server.SendLaws
import Ckmux.Server.SoundRuns

/-!
# Being seated

A client that attaches is seated in a session, and then sent it. Its seat is its own
business and that of those it takes the session from.
-/

namespace Ckmux

open Grammar (Bytes)
open Proto (Message)

namespace Server

variable {server made : Server} {id : ClientId} {client : Client}

/-- The server a session is found or made in has the same clients and the same sockets. -/
theorem attachSession_same {request : Proto.Attach} {session : Option Session} {made : Server}
    (asked : server.attachSession request = (session, made)) :
    made.clients = server.clients ∧ made.kernel = server.kernel ∧ made.writes = server.writes := by
  obtain rfl : made = (server.attachSession request).2 := by rw [asked]
  unfold Server.attachSession
  split
  · exact ⟨rfl, rfl, rfl⟩
  · split
    · exact ⟨rfl, rfl, rfl⟩
    · split <;> exact ⟨rfl, rfl, rfl⟩

/-- A client that is seated is the same client. -/
theorem settle_id (request : Proto.Attach) (session : SessionId) (client : Client) :
    (settle request session client).id = client.id := rfl

/-- A client that said hello has its attach carried out. -/
theorem handle_attach [Emulator] (found : server.client id = some client) (ready : client.Ready)
    (request : Proto.Attach) : server.handle id (.attach request) = server.attach id request := by
  unfold Server.handle
  rw [found]
  dsimp only
  rw [if_neg (Bool.not_eq_true _ ▸ ready.matched), if_neg (not_not.mpr ready.greeted),
    if_neg (by simp [Proto.typeOf, changesTheSession])]
  rfl

/-- Whoever sits down is found as it has settled. -/
theorem seat_client (found : made.client id = some client) (request : Proto.Attach)
    (session : Session) : (made.seat id request session).client id =
      some (settle request session.id client) := by
  refine setClient_found ?_ (settle_id request session.id)
  split
  · rw [takeOver_client]
    exact found
  · exact found

/-- Sitting down is of no concern to a terminal, its pictures or what a session holds. -/
theorem seat_terminals (server : Server) (id : ClientId) (request : Proto.Attach)
    (session : Session) :
    (server.seat id request session).terminals = server.terminals ∧
      (server.seat id request session).pictures = server.pictures ∧
      (server.seat id request session).sessions =
        (server.setSession session.id fun session =>
          { session with
            desktop := server.arrivingDesktop session
              ⟨request.columns.toNat, request.rows.toNat⟩ }).sessions := by
  unfold Server.seat
  dsimp only
  split
  · unfold Server.takeOver
    split
    · exact ⟨rfl, rfl, rfl⟩
    · split
      · exact ⟨rfl, rfl, rfl⟩
      · obtain ⟨_, _, _, _, _, same⟩ := Spares.detach (server.setSession session.id fun session =>
            { session with
              desktop := server.arrivingDesktop session
                ⟨request.columns.toNat, request.rows.toNat⟩ }) _ .takeover
            (utf8 "taken over by another client on this machine")
        rw [same]
        exact ⟨rfl, rfl, rfl⟩
  · exact ⟨rfl, rfl, rfl⟩

end Server

end Ckmux
