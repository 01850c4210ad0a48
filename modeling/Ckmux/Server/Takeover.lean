import Mathlib
import Ckmux.Server.AttachLaws
import Ckmux.Server.SoundRuns

/-!
# Taking a session over

Whoever takes a session over is promised it alone. The server looks for one reader to
detach, the first there is: so the promise is kept when there is no other reader, and
when there is one and it is the first, and can be told.
-/

namespace Ckmux

open Grammar (Bytes)
open Proto (Message)

/-- What a client is told whose session is taken over. -/
def takenOver : Message :=
  .detached ⟨.takeover, utf8 "taken over by another client on this machine"⟩

/-- The message to whoever is taken over from fits its frame. -/
theorem takenOver_framed : Proto.encode takenOver ≠ [] := by decide

namespace Server

variable {server : Server} {id : ClientId} {client : Client}

/-- Everybody else attached to a session. -/
def rivals (server : Server) (id : ClientId) (session : SessionId) : List Client :=
  server.clients.filter fun client =>
    client.id ≠ id && client.attached && client.session = session

/-- A session is one client's alone: it is attached, everybody else who was has been
detached and told so, and whoever was attached elsewhere is as it was. -/
structure TakenOver (before after : Server) (id : ClientId) (session : SessionId) : Prop where
  holds : ∃ client, after.client id = some client ∧ client.attached = true ∧
    client.session = session
  evicted : ∀ other client, other ≠ id → before.client other = some client →
    client.attached = true → client.session = session →
      ∃ gone text, after.client other = some gone ∧ gone.attached = false ∧
        gone.stream.sent = client.stream.sent ++ [.detached ⟨.takeover, text⟩]
  apart : ∀ other client, other ≠ id → before.client other = some client →
    client.attached = true → client.session ≠ session → after.client other = some client

/-- There is nobody else in a session; or there is one, whom the server comes upon first
and whose socket takes another message. -/
def Yields (server : Server) (id : ClientId) (session : SessionId) : Prop :=
  server.rivals id session = [] ∨
    ∃ rival, server.rivals id session = [rival] ∧
      server.clientAttachedTo session = some rival ∧
      rival.stream.takes (Proto.encode takenOver).length (server.kernel server.writes) = true

/-- A session that can be sent to a client, whose queue has room for it. -/
def Fits (server : Server) (client : Client) : Prop :=
  server.Sendable client ∧
    client.stream.queued + (Proto.encode (server.attachedMessage client)).length ≤ kHardLimitBytes

instance (server : Server) (client : Client) : Decidable (server.Fits client) :=
  inferInstanceAs (Decidable (_ ∧ _))

/-- The rivals are the others attached to the session. -/
theorem mem_rivals {session : SessionId} {other : Client} :
    other ∈ server.rivals id session ↔
      other ∈ server.clients ∧ other.id ≠ id ∧ other.attached = true ∧ other.session = session := by
  simp [rivals, and_assoc]

/-- A client that is attached reads its session: nobody attached is on the way out. -/
theorem Sound.reads (sound : server.Sound) {other : Client} (there : other ∈ server.clients)
    (attached : other.attached = true) : other.reads other.session = true := by
  have stays := (sound.seated other there attached).stays
  simp [Client.reads, attached, stays]

/-- Whoever reads a session is attached to it. -/
theorem Client.attached_of_reads {client : Client} {session : SessionId}
    (reads : client.reads session = true) :
    client.attached = true ∧ client.session = session := by
  simp only [Client.reads, Bool.and_eq_true, decide_eq_true_eq] at reads
  exact ⟨reads.1.1, reads.2⟩

/-- A list of different things that are all the same is of one thing. -/
theorem eq_singleton_of_forall {Item : Type} {items : List Item} {only : Item}
    (distinct : items.Nodup) (there : only ∈ items) (same : ∀ item ∈ items, item = only) :
    items = [only] := by
  cases items with
  | nil => cases there
  | cons first rest =>
      obtain rfl := same first List.mem_cons_self
      obtain ⟨another, _⟩ := List.nodup_cons.mp distinct
      cases rest with
      | nil => rfl
      | cons second rest =>
          obtain rfl := same second (List.mem_cons_of_mem _ List.mem_cons_self)
          exact absurd List.mem_cons_self another

section

variable [Emulator]

/-- A takeover, handled: of the others only those notice whom the server detaches. -/
theorem handle_takeover_client (found : server.client id = some client) (ready : client.Ready)
    {request : Proto.Attach} (mode : attachModeOf request = .takeOver) {session : Session}
    {made : Server} (asked : server.attachSession request = (some session, made)) :
    ∃ sized : Server, sized.clients = server.clients ∧ sized.kernel = server.kernel ∧
      sized.writes = server.writes ∧ ∀ other, other ≠ id →
        (server.handle id (.attach request)).client other =
          (sized.takeOver id session.id).client other := by
  obtain ⟨clients, kernel, writes⟩ := attachSession_same asked
  refine ⟨made.setSession session.id fun each => { each with
    desktop := made.arrivingDesktop each ⟨request.columns.toNat, request.rows.toNat⟩ },
    clients, kernel, writes, ?_⟩
  intro other another
  rw [handle_attach found ready, Server.attach, asked]
  refine (sendSnapshot_client _ another).trans ?_
  rw [seat, client_setClient (settle_id request session.id), if_neg another, if_pos mode]

/-- Whoever takes a session over has it, if it can be sent. -/
theorem handle_takeover_holds (found : server.client id = some client) (ready : client.Ready)
    {request : Proto.Attach} {session : Session} {made : Server}
    (asked : server.attachSession request = (some session, made))
    (fits : ((made.seat id request session).clean id).Fits (settle request session.id client)) :
    ∃ client, (server.handle id (.attach request)).client id = some client ∧
      client.attached = true ∧ client.session = session.id := by
  have before : made.client id = some client := by
    rw [Server.client, (attachSession_same asked).1]
    exact found
  have seated := seat_client before request session
  rw [handle_attach found ready, Server.attach, asked]
  obtain ⟨told, there, _, attached, same⟩ := sendSnapshot_own seated ready.isOpen fits.1
  refine ⟨told, there, attached.trans ?_, same⟩
  simpa [settle] using fits.2

end

/-- A takeover leaves everybody as they are if nobody is in the session, or the client
that takes it over is the first the server comes upon. -/
theorem takeOver_idle {session : SessionId}
    (idle : ∀ rival, server.clientAttachedTo session = some rival → rival.id = id) :
    server.takeOver id session = server := by
  unfold Server.takeOver
  split
  · rfl
  · rw [if_pos (idle _ ‹_›)]

/-- The first client of the session is the one that is taken over from. -/
theorem takeOver_first {session : SessionId} {rival : Client}
    (first : server.clientAttachedTo session = some rival) (another : rival.id ≠ id) :
    server.takeOver id session = server.detach rival.id .takeover
      (utf8 "taken over by another client on this machine") := by
  unfold Server.takeOver
  rw [first]
  exact if_neg another

section

variable [Emulator] {request : Proto.Attach} {session : Session} {made : Server}

/-- A takeover of a session whose first reader takes it over, or that has none, is noticed
by nobody else. -/
theorem handle_takeover_idle (found : server.client id = some client) (ready : client.Ready)
    (mode : attachModeOf request = .takeOver)
    (asked : server.attachSession request = (some session, made))
    (idle : ∀ rival, server.clientAttachedTo session.id = some rival → rival.id = id)
    {other : ClientId} (another : other ≠ id) :
    (server.handle id (.attach request)).client other = server.client other := by
  obtain ⟨sized, clients, _, _, notices⟩ := handle_takeover_client found ready mode asked
  have same_first : sized.clientAttachedTo session.id = server.clientAttachedTo session.id := by
    rw [Server.clientAttachedTo, clients]
    rfl
  rw [notices other another, takeOver_idle (same_first ▸ idle), Server.client, clients]
  rfl

/-- Otherwise its first reader is detached. -/
theorem handle_takeover_first (sound : server.Sound) (found : server.client id = some client)
    (ready : client.Ready) (mode : attachModeOf request = .takeOver)
    (asked : server.attachSession request = (some session, made)) {rival : Client}
    (first : server.clientAttachedTo session.id = some rival) (another : rival.id ≠ id) :
    ∃ gone, (server.handle id (.attach request)).client rival.id = some gone ∧
      gone.attached = false ∧
      gone.stream.sent = rival.stream.sent ++
        if rival.stream.takes (Proto.encode takenOver).length (server.kernel server.writes) then
          [takenOver] else [] := by
  obtain ⟨sized, clients, kernel, writes, notices⟩ := handle_takeover_client found ready mode asked
  have same_first : sized.clientAttachedTo session.id = server.clientAttachedTo session.id := by
    rw [Server.clientAttachedTo, clients]
    rfl
  have there := List.mem_of_find?_eq_some first
  obtain ⟨attached, _⟩ := Client.attached_of_reads
    (List.find?_some (p := fun client : Client => client.reads session.id) first)
  have known : sized.client rival.id = some rival := by
    rw [Server.client, clients]
    exact Data.find_of_mem sound.distinct there
  obtain ⟨gone, now, left, sent⟩ := detach_own known attached
    (sound.seated rival there attached).isOpen takenOver_framed
  rw [kernel, writes] at sent
  refine ⟨gone, ?_, left, sent⟩
  rw [notices _ another, takeOver_first (same_first.trans first) another]
  exact now

/-- And nobody but its first reader notices. -/
theorem handle_takeover_apart (found : server.client id = some client) (ready : client.Ready)
    (mode : attachModeOf request = .takeOver)
    (asked : server.attachSession request = (some session, made)) {rival : Client}
    (first : server.clientAttachedTo session.id = some rival) (rivals : rival.id ≠ id)
    {other : ClientId} (another : other ≠ id) (apart : other ≠ rival.id) :
    (server.handle id (.attach request)).client other = server.client other := by
  obtain ⟨sized, clients, _, _, notices⟩ := handle_takeover_client found ready mode asked
  have same_first : sized.clientAttachedTo session.id = server.clientAttachedTo session.id := by
    rw [Server.clientAttachedTo, clients]
    rfl
  rw [notices other another, takeOver_first (same_first.trans first) rivals,
    (Spares.detach ..).client apart, Server.client, clients]
  rfl

end

section

variable [CkVision] [Emulator]

/-- Taking over is exclusive exactly when the session yields. -/
theorem takeover_exclusive_iff (reached : serverSystem.Reachable server)
    (found : server.client id = some client) (ready : client.Ready) {request : Proto.Attach}
    (mode : attachModeOf request = .takeOver) {session : Session} {made : Server}
    (asked : server.attachSession request = (some session, made))
    (fits : ((made.seat id request session).clean id).Fits (settle request session.id client)) :
    TakenOver server (server.handle id (.attach request)) id session.id ↔
      server.Yields id session.id := by
  have sound := reachable_sound reached
  have holds := handle_takeover_holds found ready asked fits
  have met : ∀ other client, server.client other = some client → client.id = other :=
    fun _ _ there => client_id there
  by_cases idle : ∀ rival, server.clientAttachedTo session.id = some rival → rival.id = id
  · -- Nobody is detached, so nobody may have been there.
    have kept : ∀ other, other ≠ id →
        (server.handle id (.attach request)).client other = server.client other :=
      fun other another => handle_takeover_idle found ready mode asked idle another
    constructor
    · intro taken
      refine .inl (List.eq_nil_iff_forall_not_mem.mpr fun rival among => ?_)
      obtain ⟨there, another, attached, here⟩ := mem_rivals.mp among
      have known := Data.find_of_mem sound.distinct there
      obtain ⟨gone, _, now, left, _⟩ := taken.evicted rival.id rival another known attached here
      rw [kept _ another] at now
      obtain rfl := Option.some.inj (known.symm.trans now)
      exact absurd (attached.symm.trans left) Bool.false_ne_true.symm
    · rintro (alone | ⟨rival, only, first, _⟩)
      · refine ⟨holds, ?_, fun other client another known _ _ => (kept other another).trans known⟩
        intro other rival another known attached here
        have among : rival ∈ server.rivals id session.id :=
          mem_rivals.mpr ⟨client_mem known, met _ _ known ▸ another, attached, here⟩
        rw [alone] at among
        cases among
      · have among : rival ∈ server.rivals id session.id := only ▸ List.mem_singleton_self _
        exact absurd (idle rival first) (mem_rivals.mp among).2.1
  · -- One reader is detached, so there may have been no other.
    push Not at idle
    obtain ⟨rival, first, another⟩ := idle
    have there := List.mem_of_find?_eq_some first
    obtain ⟨attached, here⟩ := Client.attached_of_reads
      (List.find?_some (p := fun client : Client => client.reads session.id) first)
    have known := Data.find_of_mem sound.distinct there
    obtain ⟨gone, goes, left, sent⟩ :=
      handle_takeover_first sound found ready mode asked first another
    have kept : ∀ other, other ≠ id → other ≠ rival.id →
        (server.handle id (.attach request)).client other = server.client other :=
      fun other different apart =>
        handle_takeover_apart found ready mode asked first another different apart
    constructor
    · intro taken
      refine .inr ⟨rival, ?_, first, ?_⟩
      · refine eq_singleton_of_forall ?_ (mem_rivals.mpr ⟨there, another, attached, here⟩) ?_
        · exact (List.Nodup.of_map _ sound.distinct).filter _
        · intro other among
          obtain ⟨present, different, active, inside⟩ := mem_rivals.mp among
          by_contra distinct
          have apart : other.id ≠ rival.id := fun same =>
            distinct (Option.some.inj ((Data.find_of_mem sound.distinct present).symm.trans
              (same ▸ known)))
          have seen := Data.find_of_mem sound.distinct present
          obtain ⟨later, _, after, detached, _⟩ :=
            taken.evicted other.id other different seen active inside
          rw [kept _ different apart] at after
          obtain rfl := Option.some.inj (seen.symm.trans after)
          exact absurd (active.symm.trans detached) Bool.false_ne_true.symm
      · obtain ⟨later, text, after, _, told⟩ :=
          taken.evicted rival.id rival another known attached here
        obtain rfl := Option.some.inj (goes.symm.trans after)
        by_contra refused
        rw [if_neg refused, List.append_nil] at sent
        have longer := congrArg List.length (sent.symm.trans told)
        simp at longer
    · rintro (alone | ⟨only_one, only, same, takes⟩)
      · have among := mem_rivals.mpr ⟨there, another, attached, here⟩
        rw [alone] at among
        cases among
      · obtain rfl := Option.some.inj (first.symm.trans same)
        refine ⟨holds, ?_, ?_⟩
        · intro other client different seen active inside
          have among : client ∈ server.rivals id session.id :=
            mem_rivals.mpr ⟨client_mem seen, met _ _ seen ▸ different, active, inside⟩
          rw [only] at among
          obtain rfl := List.mem_singleton.mp among
          obtain rfl := met _ _ seen
          rw [if_pos takes] at sent
          exact ⟨gone, _, goes, left, sent⟩
        · intro other client different seen active outside
          refine (kept other different ?_).trans seen
          rintro rfl
          obtain rfl := Option.some.inj (known.symm.trans seen)
          exact outside here

end

end Server

/-! ### Three readers -/

/-- Three say hello, and the first of them makes itself a session. -/
def firstEvents : List ServerEvent :=
  [.connect, .connect, .connect, .message 1 hello, .message 2 hello, .message 3 hello,
    .message 1 (.attach { attachTo .takeOver with session := 0 })]

/-- And the second of them joins it. -/
def joinedEvents : List ServerEvent :=
  firstEvents ++ [.message 2 (.attach (attachTo .join))]

/-- The server with one in the session. -/
def firstAlone : Server := firstEvents.foldl (@serverSystem asciiVision blankEmulator).step freshServer

/-- The server with two in it. -/
def firstJoined : Server :=
  joinedEvents.foldl (@serverSystem asciiVision blankEmulator).step freshServer

/-- The first's coming is a run. -/
theorem firstEvents_allowed :
    (@serverSystem asciiVision blankEmulator).AllowsAll freshServer firstEvents := by
  decide +kernel

/-- So is the second's. -/
theorem joinedEvents_allowed :
    (@serverSystem asciiVision blankEmulator).AllowsAll freshServer joinedEvents := by
  decide +kernel

/-- The server with one is reached. -/
theorem firstAlone_reached : (@serverSystem asciiVision blankEmulator).Reachable firstAlone :=
  (@freshServer_reached asciiVision blankEmulator).follow firstEvents firstEvents_allowed

/-- The server with two is reached. -/
theorem firstJoined_reached : (@serverSystem asciiVision blankEmulator).Reachable firstJoined :=
  (@freshServer_reached asciiVision blankEmulator).follow joinedEvents joinedEvents_allowed

/-- The session the first makes itself. -/
def firstSession : Session := { id := 1, name := utf8 "session-1", desktop := ⟨80, 24⟩ }

namespace Server

/-- A session of one reader is taken over from it. -/
theorem takeover_exclusive_pair :
    TakenOver firstAlone (@Server.handle blankEmulator firstAlone 3 (.attach (attachTo .takeOver)))
      3 1 := by
  have found : firstAlone.client 3 = some (clientOf firstAlone 3) :=
    eq_some_getD (by decide +kernel) _
  have asked : firstAlone.attachSession (attachTo .takeOver) = (some firstSession, firstAlone) := by
    have there : firstAlone.sessionFor (attachTo .takeOver).session = some firstSession := by
      decide +kernel
    rw [attachSession, there]
  have ready : (clientOf firstAlone 3).Ready :=
    ⟨by decide +kernel, by decide +kernel, by decide +kernel, by decide +kernel⟩
  refine (@takeover_exclusive_iff _ _ _ asciiVision blankEmulator firstAlone_reached found ready _
    (by decide) _ _ asked (by decide +kernel)).mpr ?_
  obtain ⟨rival, only⟩ : ∃ rival, firstAlone.rivals 3 1 = [rival] :=
    List.length_eq_one_iff.mp (by decide +kernel)
  obtain ⟨first, there⟩ : ∃ first, firstAlone.clientAttachedTo 1 = some first :=
    Option.isSome_iff_exists.mp (by decide +kernel)
  have takes : ∀ each ∈ firstAlone.rivals 3 1,
      each.stream.takes (Proto.encode takenOver).length (firstAlone.kernel firstAlone.writes) =
        true := by decide +kernel
  have among : first ∈ firstAlone.rivals 3 1 := by
    obtain ⟨attached, here⟩ := Client.attached_of_reads
      (List.find?_some (p := fun client : Client => client.reads 1) there)
    have another : (firstAlone.clientAttachedTo 1).all fun client => client.id ≠ 3 := by
      decide +kernel
    rw [there] at another
    exact mem_rivals.mpr ⟨List.mem_of_find?_eq_some there, by simpa using another, attached, here⟩
  have same : first = rival := List.mem_singleton.mp (only ▸ among)
  exact .inr ⟨rival, only, same ▸ there, takes rival (only ▸ List.mem_singleton_self _)⟩

/-- Of two readers one stays, in a server that comes to that, with a snapshot that can
be sent. -/
theorem takeover_leaves_one :
    (@serverSystem asciiVision blankEmulator).Reachable firstJoined ∧
      attachModeOf (attachTo .takeOver) = .takeOver ∧
      (firstJoined.attachSession (attachTo .takeOver)).1 = some firstSession ∧
      ((firstJoined.seat 3 (attachTo .takeOver) firstSession).clean 3).Fits
        (settle (attachTo .takeOver) 1 (clientOf firstJoined 3)) ∧
      ¬TakenOver firstJoined
        (@Server.handle blankEmulator firstJoined 3 (.attach (attachTo .takeOver))) 3 1 := by
  refine ⟨firstJoined_reached, by decide, by decide +kernel, by decide +kernel, fun taken => ?_⟩
  have found : firstJoined.client 2 = some (clientOf firstJoined 2) :=
    eq_some_getD (by decide +kernel) _
  obtain ⟨gone, text, there, left, _⟩ := taken.evicted 2 _ (by decide) found (by decide +kernel)
    (by decide +kernel)
  have stays : ((@Server.handle blankEmulator firstJoined 3
      (.attach (attachTo .takeOver))).client 2).map Client.attached = some true := by decide +kernel
  rw [there, Option.map_some, left] at stays
  exact absurd (Option.some.inj stays) Bool.false_ne_true

end Server

end Ckmux
