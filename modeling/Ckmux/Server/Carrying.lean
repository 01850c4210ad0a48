import Mathlib
import Ckmux.Server.Settling

/-!
# What is put on a connection

Whatever a server does, what is on a client's connection stays there, and more is put behind it. A
part of a print job is put there in answer to the client's own fetch and no other way, and nothing at
all once the connection takes nothing more.
-/

namespace Ckmux

open Grammar (Bytes)
open Proto (Message typeOf)
open Semantics (System)

/-- Whether a message is no part of a print job. -/
def Plain (message : Message) : Prop := typeOf message ≠ .printJobData

/-- Tidings are no chunk of a print job. -/
theorem plain_of_tidings {message : Message} (said : tidings message = true) : Plain message := by
  cases message <;> first | exact Proto.MessageType.noConfusion | cases said

/-- What states no session is no chunk of a print job. -/
theorem plain_of_states {message : Message} (unstated : states message = false) : Plain message := by
  cases message <;> first | exact Proto.MessageType.noConfusion | cases unstated

/-- What has become of a client's connection: what was put on it is no part of a print job, and is
nothing if the connection took nothing more. -/
structure Client.Carried (before after : Client) : Prop where
  sent : ∃ fresh, after.stream.sent = before.stream.sent ++ fresh ∧ ∀ message ∈ fresh, Plain message
  mutes : before.Mutes after

namespace Client.Carried

variable {before middle after : Client}

/-- A stream that is the same has carried nothing. -/
theorem same (stream : after.stream = before.stream) : before.Carried after where
  sent := ⟨[], by rw [stream, List.append_nil], fun _ among => absurd among List.not_mem_nil⟩
  mutes := .same stream

/-- What is carried in two steps is carried. -/
theorem trans (first : before.Carried middle) (second : middle.Carried after) :
    before.Carried after where
  sent := by
    obtain ⟨fresh, grown, plain⟩ := first.sent
    obtain ⟨later, further, again⟩ := second.sent
    refine ⟨fresh ++ later, by rw [further, grown, List.append_assoc], fun message among => ?_⟩
    exact (List.mem_append.mp among).elim (plain message) (again message)
  mutes := first.mutes.trans second.mutes

end Client.Carried

namespace Server

/-- What has become of one client's connection: whoever still has it had it before, and no client
made since has its number. -/
structure Carries (id : ClientId) (before after : Server) : Prop where
  numbers : before.nextClient ≤ after.nextClient
  carried : id < before.nextClient → ∀ later, after.client id = some later →
    ∃ client, before.client id = some client ∧ client.Carried later

variable {origin before middle after server : Server} {id : ClientId} {event : ServerEvent}
variable {news : ClientId → Message → Prop} {notes : Terminal → Terminal → Prop}

/-- Whether a client fetches a print job that there is. -/
def Fetches (origin : Server) (event : ServerEvent) (id : ClientId) (request : Proto.PrintJobFetch)
    (held : HeldJob) : Prop :=
  origin.Asks event id (.printJobFetch request) ∧
    ∃ terminal, origin.terminal request.term = some terminal ∧
      terminal.printJob request.job = some held

namespace Carries

/-- What two steps carry they carry together. -/
theorem trans (first : Carries id before middle) (second : Carries id middle after) :
    Carries id before after where
  numbers := first.numbers.trans second.numbers
  carried known later found := by
    obtain ⟨between, there, again⟩ := second.carried (known.trans_le first.numbers) later found
    obtain ⟨client, here, once⟩ := first.carried known between there
    exact ⟨client, here, once.trans again⟩

/-- What is done beside the clients. -/
theorem same (clients : after.clients = before.clients)
    (numbers : after.nextClient = before.nextClient) : Carries id before after where
  numbers := numbers.ge
  carried _ later found := by
    refine ⟨later, ?_, .same rfl⟩
    rwa [Server.client, clients] at found

/-- Nothing happened, and nothing was carried. -/
theorem refl (server : Server) : Carries id server server := same rfl rfl

/-- A client changed whose connection stays as it is. -/
theorem setClient (server : Server) (other : ClientId) {change : Client → Client}
    (named : ∀ client, (change client).id = client.id)
    (stream : ∀ client, (change client).stream = client.stream) :
    Carries id server (server.setClient other change) where
  numbers := le_rfl
  carried _ later found := by
    rw [client_setClient named] at found
    split at found
    · obtain ⟨client, there, rfl⟩ := Option.map_eq_some_iff.mp found
      exact ⟨client, there, .same (stream client)⟩
    · exact ⟨later, found, .same rfl⟩

/-- What is told of everything but print jobs. -/
theorem tells (told : Tells news notes before after)
    (plain : ∀ message, news id message → Plain message) : Carries id before after where
  numbers := (congrArg Untold.nextClient told.rest).ge
  carried _ later found := by
    obtain ⟨client, here, hears⟩ := told.was found
    obtain ⟨other, there, mutes⟩ := told.mute id client here
    obtain rfl : later = other := Option.some.inj (found.symm.trans there)
    rw [client_id here] at hears
    obtain ⟨fresh, grown, said⟩ := hears.sent
    exact ⟨client, here, ⟨fresh, grown, fun message among => plain message (said message among)⟩, mutes⟩

/-- Somebody new leaves every other stream. -/
theorem connect (server : Server) : Carries id server server.connect where
  numbers := Nat.le_succ _
  carried known later found := by
    rw [Server.client, Server.connect, List.find?_append, Option.or_eq_some_iff] at found
    rcases found with here | ⟨_, new⟩
    · exact ⟨later, here, .same rfl⟩
    · have named : later.id = id := by simpa using List.find?_some new
      have number : later.id = server.nextClient :=
        congrArg Client.id (List.mem_singleton.mp (List.mem_of_find?_eq_some new))
      exact absurd (number.symm.trans named) known.ne'

/-- Sweeping out who is gone leaves every other stream. -/
theorem sweep (sound : server.Sound) : Carries id server server.sweep where
  numbers := le_rfl
  carried _ later found := by
    have there := List.mem_of_mem_filter (client_mem found)
    refine ⟨later, ?_, .same rfl⟩
    have only := Data.find_of_mem sound.distinct there
    rwa [client_id found] at only

/-- A session forgotten says nothing of print jobs. -/
theorem forgetSession (server : Server) (session : SessionId) (reason : Proto.DetachReason)
    (text : Bytes) : Carries id server (server.forgetSession session reason text) := by
  obtain ⟨left, leaves, forgets⟩ := Tells.forgetSession server session reason text
  have apart : Carries id left
      { left with sessions := left.sessions.filter fun home => home.id ≠ session } := same rfl rfl
  exact ((tells leaves fun _ => plain_of_states).trans apart).trans
    (tells forgets fun _ => plain_of_states)

/-- A snapshot says nothing of print jobs. -/
theorem sendSnapshot [Emulator] (server : Server) (other : ClientId) :
    Carries id server (server.sendSnapshot other) := by
  cases found : server.client other with
  | none =>
      unfold Server.sendSnapshot
      rw [found]
      exact refl server
  | some client =>
      refine tells (Tells.sendSnapshot found) ?_
      rintro _ ⟨_, rfl | ⟨_, _, rfl⟩⟩ <;> exact Proto.MessageType.noConfusion

/-- Seating a client says nothing. -/
theorem seat (server : Server) (other : ClientId) (request : Proto.Attach) (session : Session) :
    Carries id server (server.seat other request session) := by
  obtain ⟨granted, told, is⟩ := seat_eq server other request session
  have sized : Carries id server (server.setSession session.id fun session =>
      { session with
        desktop := server.arrivingDesktop session ⟨request.columns.toNat, request.rows.toNat⟩ }) :=
    same rfl rfl
  rw [is]
  have settled : Carries id granted (granted.setClient other (settle request session.id)) :=
    setClient granted other (settle_id request session.id) fun _ => rfl
  exact (sized.trans (tells told fun _ => plain_of_states)).trans settled

/-- Typing says nothing. -/
theorem input (server : Server) (other : ClientId) (given : Proto.Input) :
    Carries id server (server.input other given) := by
  unfold Server.input
  split
  · exact refl server
  · have asked : Carries id server
        (server.setTerminal given.term fun terminal => terminal.ask (.input given.bytes)) :=
      same rfl rfl
    have typed := asked.trans (@setClient id _ other
      (fun client => { client with focused := given.term }) (fun _ => rfl) fun _ => rfl)
    dsimp only
    split
    · exact typed
    · exact typed.trans (same rfl rfl)

/-- A terminal opened says nothing of print jobs. -/
theorem openTerminal [Emulator] {home : SessionId} {session : Session}
    (found : server.sessionFor home = some session) (spec : TerminalSpec) :
    Carries id server (server.openTerminal home spec).2 := by
  rw [openTerminal_eq found]
  exact same rfl rfl

/-- What every act does to the connection of a client that fetches nothing with it. -/
theorem act [CkVision] [Emulator] (sound : origin.Sound)
    (idle : ∀ request held, ¬origin.Fetches event id request held)
    (act : Act origin event before after) : Carries id before after := by
  cases act with
  | speak told => exact tells told fun _ => plain_of_states
  | @fetch other request terminal job asked known holds =>
      refine tells (Tells.sendChunks origin other (printJobData request.term job)) ?_
      rintro _ ⟨rfl, _⟩
      exact absurd ⟨asked, terminal, known, holds⟩ (idle request job)
  | connect => exact connect origin
  | sweep => exact sweep sound
  | wait | closes | kills | create | rename | print | respawn | rehome | takeOut | lose | deed | kill
  | policies | observed => exact same rfl rfl
  | @reshape _ session wanted =>
      unfold Server.changeDesktop
      split
      · exact same rfl rfl
      · have told := Tells.announceLayout
          (before.setSession session.id fun session => { session with desktop := wanted }) session.id
        have sized : Carries id before
            (before.setSession session.id fun session => { session with desktop := wanted }) :=
          same rfl rfl
        exact sized.trans (tells told fun _ kind => by rw [Plain, kind]; decide)
  | forget => exact forgetSession ..
  | @bury _ session =>
      have clients : (session.terminals.foldl closeTerminal before).clients = before.clients :=
        foldl_keeps Server.clients session.terminals (by exact fun _ _ => rfl) before
      have numbers : (session.terminals.foldl closeTerminal before).nextClient = before.nextClient :=
        foldl_keeps Server.nextClient session.terminals (by exact fun _ _ => rfl) before
      exact (same clients numbers).trans (forgetSession ..)
  | spawn asked made found => exact openTerminal found _
  | @opens _ home spec _ _ _ _ asked found =>
      exact (openTerminal found spec).trans
        (tells (Tells.tellOpened _ home.id _) fun _ said => said ▸ Proto.MessageType.noConfusion)
  | @respawnIn _ terminal home =>
      have again : Carries id before (before.relaunch terminal.id) := same rfl rfl
      exact again.trans
        (tells (Tells.tellOpened _ home.id _) fun _ said => said ▸ Proto.MessageType.noConfusion)
  | types => exact input ..
  | @welcome _ other request session => exact (seat before other request session).trans (sendSnapshot ..)
  | @heal _ client => exact sendSnapshot before client.id
  | @news _ terminal => exact tells (.newsOf before terminal fun _ _ => plain_of_tidings) fun _ said => said
  | @layout _ session =>
      refine tells (Tells.announceSessionLayout before session false) ?_
      rintro _ ⟨_, _, rfl, _⟩
      exact Proto.MessageType.noConfusion

end Carries

/-- A step puts no part of a print job on a connection, unless its reader fetches one with it. -/
theorem step_carries [CkVision] [Emulator] (sound : server.Sound)
    (idle : ∀ request held, ¬server.Fetches event id request held) :
    Carries id server (server.step event) :=
  Acts.keep (fun _ _ _ carries act => carries.trans (.act sound idle act)) (.refl server)

end Server

end Ckmux
