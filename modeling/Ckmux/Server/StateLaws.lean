import Mathlib
import Ckmux.Data.Keyed
import Ckmux.Server.Snapshot

/-!
# Looking things up after a change

A client, a terminal or a session changed is found again under its id, and the others
are found as they were.
-/

namespace Ckmux

open Proto (Message)

namespace Server

variable {server : Server}

/-- What each turn of a round keeps, the round keeps. -/
theorem foldl_keeps {Item Kept : Type} (view : Server → Kept) (items : List Item)
    {act : Server → Item → Server} (each : ∀ server item, view (act server item) = view server)
    (server : Server) : view (items.foldl act server) = view server := by
  induction items generalizing server with
  | nil => rfl
  | cons item items ih => exact (ih _).trans (each server item)

/-- What is there is what is found, whatever would be taken in its place. -/
theorem eq_some_getD {Held : Type} {held : Option Held} (there : held.isSome = true)
    (default : Held) : held = some (held.getD default) := by
  obtain ⟨each, rfl⟩ := Option.isSome_iff_exists.mp there
  rfl

/-- The client found is the one looked for. -/
theorem client_id {id : ClientId} {client : Client} (found : server.client id = some client) :
    client.id = id :=
  of_decide_eq_true (List.find?_some (p := fun client : Client => client.id = id) found)

/-- The terminal found is the one looked for. -/
theorem terminal_id {id : TerminalId} {terminal : Terminal}
    (found : server.terminal id = some terminal) : terminal.id = id :=
  of_decide_eq_true (List.find?_some (p := fun terminal : Terminal => terminal.id = id) found)

/-- The session found is the one looked for. -/
theorem sessionFor_id {id : SessionId} {session : Session}
    (found : server.sessionFor id = some session) : session.id = id :=
  of_decide_eq_true (List.find?_some (p := fun session : Session => session.id = id) found)

/-- The client found is one of the server's. -/
theorem client_mem {id : ClientId} {client : Client} (found : server.client id = some client) :
    client ∈ server.clients := List.mem_of_find?_eq_some found

/-- Who is found after one client has changed. -/
theorem client_setClient {id other : ClientId} {change : Client → Client}
    (kept : ∀ client, (change client).id = client.id) :
    (server.setClient id change).client other =
      if other = id then (server.client other).map change else server.client other :=
  Data.find_change kept server.clients

/-- A client changed is found as it has become. -/
theorem setClient_found {id : ClientId} {client : Client} {change : Client → Client}
    (found : server.client id = some client) (kept : ∀ client, (change client).id = client.id) :
    (server.setClient id change).client id = some (change client) := by
  rw [client_setClient kept, if_pos rfl, found, Option.map_some]

/-- Which terminal is found after one has changed. -/
theorem terminal_setTerminal {id other : TerminalId} {change : Terminal → Terminal}
    (kept : ∀ terminal, (change terminal).id = terminal.id) :
    (server.setTerminal id change).terminal other =
      if other = id then (server.terminal other).map change else server.terminal other :=
  Data.find_change kept server.terminals

/-- Which session is found after one has changed. -/
theorem sessionFor_setSession {id other : SessionId} {change : Session → Session}
    (kept : ∀ session, (change session).id = session.id) :
    (server.setSession id change).sessionFor other =
      if other = id then (server.sessionFor other).map change else server.sessionFor other :=
  Data.find_change kept server.sessions

end Server

end Ckmux
