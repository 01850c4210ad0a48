import Mathlib
import Ckmux.Server.SendLaws
import Ckmux.Server.SoundRuns

/-!
# Watching a session

A client that only watches is to leave no trace in its session. One gate refuses what
would change it; behind the gate two messages still can. A reader's wish about the
others is carried out whoever wishes it, and the desktop follows a screen whoever sits
at it. A watcher leaves no trace exactly as long as neither comes to anything.
-/

namespace Ckmux

open Grammar (Bytes)
open Proto (Message typeOf)

/-- Who a client is and where it sits. -/
def Client.seating (client : Client) : ClientId × Bool × SessionId × AttachMode :=
  (client.id, client.attached, client.session, client.mode)

/-- What the readers of a server share, as one of them leaves it to the others: the
terminals with what their children were given to read, the sessions, the settings, what
is about to end, and where everybody else sits. -/
structure Shared where
  terminals : List Terminal
  sessions : List Session
  settings : Settings
  kills : List PendingKill
  closes : List PendingClose
  pasted : List (ClientId × Proto.PasteChunk)
  running : Bool
  others : List (ClientId × Bool × SessionId × AttachMode)

/-- Whether a message is about its sender's own seat: it attaches, leaves or says what it
may do itself. -/
def takesSeat : Message → Bool
  | .attach _ | .detach _ => true
  | .setReaderMode wish => ReaderScope.ofWire wish.scope = some .me
  | _ => false

namespace Server

/-- What the readers share, as one of them leaves it. -/
def shared (server : Server) (id : ClientId) : Shared where
  terminals := server.terminals
  sessions := server.sessions
  settings := server.settings
  kills := server.kills
  closes := server.closes
  pasted := server.pasted
  running := server.running
  others := (server.clients.filter fun client => client.id ≠ id).map Client.seating

/-- A wish about the others that comes to nothing: there is nobody else to detach, or
nobody else whose mode would change. -/
def IdleWish (server : Server) (id : ClientId) (wish : Proto.SetReaderMode) : Prop :=
  match (server.client id).bind server.sessionOf, ReaderScope.ofWire wish.scope,
    AttachMode.ofWire wish.mode with
  | some session, some .others, some .takeOver =>
      ∀ other ∈ server.readers session.id, other.id = id
  | some session, some .others, some mode =>
      ∀ other ∈ server.readers session.id, other.id ≠ id → other.mode = mode
  | _, _, _ => True

/-- A screen that makes no other desktop of its session's. -/
def IdleResize (server : Server) (id : ClientId) (resize : Proto.ClientResize) : Prop :=
  ∀ home, ((server.client id).bind fun client => server.sessionFor client.session) = some home →
    let arriving : Size := ⟨resize.columns.toNat, resize.rows.toNat⟩
    arriving.positive → (server.resizedDesktop home arriving).positive →
      server.resizedDesktop home arriving = home.desktop

/-- A watcher's message that comes to nothing. -/
def Harmless (server : Server) (id : ClientId) : Message → Prop
  | .setReaderMode wish => server.IdleWish id wish
  | .clientResize resize => server.IdleResize id resize
  | _ => True

section

variable [Emulator]

/-- Messages of one client, one after another. -/
def hearing (server : Server) (id : ClientId) (messages : List Message) : Server :=
  messages.foldl (fun server message => server.handle id message) server

/-- Every message is harmless where it is sent. -/
def HarmlessAll (server : Server) (id : ClientId) : List Message → Prop
  | [] => True
  | message :: messages =>
      server.Harmless id message ∧ (server.handle id message).HarmlessAll id messages

/-- What is shared is as if no message had been sent, after each of them. -/
def Undisturbed (server : Server) (id : ClientId) (messages : List Message) : Prop :=
  ∀ heard, heard <+: messages → (server.hearing id heard).shared id = server.shared id

end

/-- A client that said hello in our own words and only watches. -/
def Watched (server : Server) (id : ClientId) : Prop :=
  ∃ client, server.client id = some client ∧ client.greeted = true ∧
    client.awaitingKillFromMismatchedCli = false ∧ client.mode = .watch

variable {server before after : Server} {id : ClientId}

/-! ### What is shared -/

/-- What is done to one client only is nothing to what is shared. -/
theorem Spares.shared (spares : Spares id before after) : after.shared id = before.shared id := by
  have others := spares.others
  obtain ⟨_, _, _, _, _, rfl⟩ := spares
  rw [Server.shared, others]
  rfl

/-- A client that watched still watches after what it is spared by. -/
theorem Spares.watched (spares : Spares id before after) (watched : before.Watched id) :
    after.Watched id := by
  obtain ⟨client, found, greeted, matched, watches⟩ := watched
  obtain ⟨change, told, same⟩ := spares.own
  refine ⟨change client, by rw [same, found, Option.map_some], ?_, ?_, ?_⟩
  · exact (told.greeted client).trans greeted
  · exact (told.matched client).trans matched
  · exact (told.mode client).trans watches

/-- If nothing shared has changed, everybody else sits where they sat. -/
theorem seating_of_shared (sound : after.Sound) (same : after.shared id = before.shared id)
    {other : ClientId} (another : other ≠ id) {client : Client}
    (found : before.client other = some client) :
    ∃ later, after.client other = some later ∧ later.seating = client.seating := by
  have others := congrArg Shared.others same
  obtain rfl := client_id found
  have there : client.seating ∈ (before.clients.filter fun client => client.id ≠ id).map
      Client.seating :=
    List.mem_map_of_mem (List.mem_filter.mpr ⟨client_mem found, by simpa using another⟩)
  rw [show (before.clients.filter fun client => client.id ≠ id).map Client.seating = _ from
    others.symm] at there
  obtain ⟨later, still, seated⟩ := List.mem_map.mp there
  have known := Data.find_of_mem sound.distinct (List.mem_of_mem_filter still)
  rw [show later.id = client.id from congrArg Prod.fst seated] at known
  exact ⟨later, known, seated⟩

/-- What holds of somebody after its turn in a round, and through another turn of its,
holds after the round. -/
theorem client_after_round {act : Server → ClientId → Server} {other : ClientId}
    {Good : Option Client → Prop}
    (apart : ∀ server each, each ≠ other → (act server each).client other = server.client other)
    (stays : ∀ server : Server, Good (server.client other) → Good ((act server other).client other))
    {start : Option Client}
    (turn : ∀ server : Server, server.client other = start → Good ((act server other).client other))
    {ids : List ClientId} (listed : other ∈ ids) (found : server.client other = start) :
    Good ((ids.foldl act server).client other) := by
  have through : ∀ (ids : List ClientId) (server : Server), Good (server.client other) →
      Good ((ids.foldl act server).client other) := by
    intro ids
    induction ids with
    | nil => exact fun _ good => good
    | cons each ids ih =>
        intro server good
        refine ih _ ?_
        by_cases same : each = other
        · exact same ▸ stays server good
        · rwa [apart server each same]
  induction ids generalizing server with
  | nil => cases listed
  | cons each ids ih =>
      rw [List.foldl_cons]
      by_cases same : each = other
      · exact through ids _ (same ▸ turn server found)
      · have later : other ∈ ids := (List.mem_cons.mp listed).resolve_left (Ne.symm same)
        exact ih later ((apart server each same).trans found)

/-! ### Harmless messages -/

/-- With nobody else reading, there is nobody to evict. -/
theorem evictOthers_alone {session : SessionId}
    (alone : ∀ other ∈ server.readers session, other.id = id) :
    server.evictOthers id session = server := by
  have going : ((server.readers session).map Client.id).filter (fun each => each ≠ id) = [] := by
    simpa [List.filter_eq_nil_iff] using alone
  rw [evictOthers, going]
  rfl

/-- With the others in that mode already, there is nothing to change. -/
theorem setOthersMode_already {session : SessionId} {mode : AttachMode}
    (already : ∀ other ∈ server.readers session, other.id ≠ id → other.mode = mode) :
    server.setOthersMode id session mode = server := by
  refine List.foldl_fixed' (fun each => ?_) _
  cases found : server.client each with
  | none => rfl
  | some client =>
      dsimp only
      split
      · rename_i reads
        have among : client ∈ server.readers session :=
          List.mem_filter.mpr ⟨client_mem found, reads⟩
        rw [found]
        refine if_pos ?_
        by_cases own : each = id
        · exact .inl own
        · exact .inr (already client among (client_id found ▸ own))
      · rfl

/-- Counting screens asks nothing of a client that its own size is about. -/
theorem resizedDesktop_setClient {change : Client → Client}
    (attached : ∀ client, (change client).attached = client.attached)
    (kind : ∀ client, (change client).kind = client.kind)
    (session : ∀ client, (change client).session = client.session) (home : Session)
    (arriving : Size) :
    (server.setClient id change).resizedDesktop home arriving =
      server.resizedDesktop home arriving := by
  have screens : (server.setClient id change).screens home.id = server.screens home.id := by
    rw [Server.screens, Server.screens, setClient, List.filter_map, List.length_map]
    refine congrArg List.length (List.filter_congr fun client _ => ?_)
    dsimp only [Function.comp_apply]
    split
    · rw [attached, kind, session]
    · rfl
  rw [resizedDesktop, resizedDesktop, screens]
  rfl

/-- A client's own idea of its screen. -/
def measure (resize : Proto.ClientResize) (client : Client) : Client :=
  { client with
    desktop := ⟨resize.columns.toNat, resize.rows.toNat⟩
    cellPixels := cellMetric resize.columns resize.rows resize.pixelWidth resize.pixelHeight }

/-- What a resize comes to. -/
theorem clientResize_eq (server : Server) (id : ClientId) (resize : Proto.ClientResize) :
    server.clientResize id resize =
      match (server.client id).bind fun client => server.sessionFor client.session with
      | none => server.setClient id (measure resize)
      | some home =>
          let arriving : Size := ⟨resize.columns.toNat, resize.rows.toNat⟩
          if ¬arriving.positive then server.setClient id (measure resize)
          else
            (server.setClient id (measure resize)).changeDesktop home
              (server.resizedDesktop home arriving) := by
  have own : (server.setClient id (measure resize)).client id =
      (server.client id).map (measure resize) :=
    (@client_setClient _ id id (measure resize) fun _ => rfl).trans (if_pos rfl)
  have same : ((server.setClient id (measure resize)).client id).bind (fun client =>
      (server.setClient id (measure resize)).sessionFor client.session) =
        (server.client id).bind fun client => server.sessionFor client.session := by
    rw [own]
    cases server.client id <;> rfl
  unfold Server.clientResize
  change (match ((server.setClient id (measure resize)).client id).bind (fun client =>
      (server.setClient id (measure resize)).sessionFor client.session) with
    | none => server.setClient id (measure resize)
    | some home => _) = _
  rw [same]
  split
  · rfl
  · dsimp only
    rw [← @resizedDesktop_setClient server id (measure resize) (fun _ => rfl) (fun _ => rfl)
      fun _ => rfl]
    rfl

/-- An idle resize spares everything. -/
theorem clientResize_harmless {resize : Proto.ClientResize}
    (harmless : server.IdleResize id resize) :
    Spares id server (server.clientResize id resize) := by
  have measured : Spares id server (server.setClient id (measure resize)) :=
    Spares.setClient server id (.beside (fun _ => rfl) fun _ still => still)
  rw [clientResize_eq]
  split
  · exact measured
  · rename_i home found
    dsimp only
    split
    · exact measured
    · rename_i positive
      rw [not_not] at positive
      rw [changeDesktop, if_pos]
      · exact measured
      · by_cases fits : (server.resizedDesktop home
            ⟨resize.columns.toNat, resize.rows.toNat⟩).positive
        · exact .inr (harmless home found positive fits)
        · exact .inl fits

/-- An idle wish about the others spares everything. -/
theorem handleSetReaderMode_harmless {wish : Proto.SetReaderMode}
    (others : takesSeat (.setReaderMode wish) = false)
    (harmless : server.IdleWish id wish) :
    Spares id server (server.handleSetReaderMode id wish) := by
  unfold Server.handleSetReaderMode
  unfold IdleWish at harmless
  cases found : server.client id with
  | none => exact Spares.refl ..
  | some client =>
      rw [found, Option.bind_some] at harmless
      have scope : ReaderScope.ofWire wish.scope ≠ some .me := by simpa [takesSeat] using others
      dsimp only
      split
      · exact Spares.refuse ..
      · exact Spares.refuse ..
      · exact Spares.refuse ..
      · exact absurd ‹_› scope
      · exact absurd ‹_› scope
      · rename_i home aimed wished
        rw [home, aimed, wished] at harmless
        rw [evictOthers_alone harmless]
        exact Spares.refl ..
      · rename_i mode share home aimed wished
        rw [home, aimed, wished] at harmless
        rw [setOthersMode_already]
        · exact Spares.refl ..
        · cases mode with
          | takeOver => exact absurd rfl share
          | join => exact harmless
          | watch => exact harmless

/-- Fetching a job spares everything. -/
theorem Spares.printJobFetch (server : Server) (id : ClientId) (request : Proto.PrintJobFetch) :
    Spares id server (server.printJobFetch id request) := by
  unfold Server.printJobFetch
  split
  · exact Spares.refuse ..
  · split
    · exact Spares.refuse ..
    · exact Spares.foldl _ (fun _ _ => Spares.send ..) _

/-- A watcher's message is refused at the gate or carried out. -/
theorem handle_watched [Emulator] (watched : server.Watched id) (message : Message) :
    server.handle id message =
      if changesTheSession (typeOf message) then server.refuseWatcher id message
      else server.act id message := by
  obtain ⟨client, found, greeted, matched, watches⟩ := watched
  unfold Server.handle
  rw [found]
  dsimp only
  rw [if_neg (by simp [matched]), if_neg (by simp [greeted])]
  simp [Client.watching, watches]

/-- A harmless message is one client's business. -/
theorem handle_harmless [Emulator] (watched : server.Watched id) {message : Message}
    (others : takesSeat message = false) (harmless : server.Harmless id message) :
    Spares id server (server.handle id message) := by
  rw [handle_watched watched]
  split
  · exact Spares.refuseWatcher ..
  · rename_i free
    rw [Bool.not_eq_true] at free
    unfold Server.act
    split
    -- What the gate refuses does not come this far, and its own seat is left alone.
    all_goals try exact Bool.noConfusion (show true = false from free)
    all_goals try exact Bool.noConfusion (show true = false from others)
    · exact Spares.send ..
    · exact Spares.setClient server id (.beside (fun _ => rfl) fun _ still => still)
    · exact Spares.drop ..
    · exact Spares.sendSessionList ..
    · exact Spares.printJobFetch ..
    · exact clientResize_harmless harmless
    · exact handleSetReaderMode_harmless others harmless
    · exact Spares.refuse ..

/-! ### Harm done -/

/-- The message to whoever is evicted fits its frame. -/
theorem evicted_framed : Proto.encode (.detached ⟨.takeover,
    utf8 "another reader took this session over"⟩) ≠ [] := by decide

/-- Somebody detached is not where they were. -/
theorem evictOthers_disturbs (sound : server.Sound) {session : SessionId} {other : Client}
    (there : other ∈ server.readers session) (another : other.id ≠ id) :
    (server.evictOthers id session).shared id ≠ server.shared id := by
  intro same
  obtain ⟨present, reads⟩ := List.mem_filter.mp there
  have found := Data.find_of_mem sound.distinct present
  have attached : other.attached = true := by
    simp only [Client.reads, Bool.and_eq_true] at reads
    exact reads.1.1
  obtain ⟨later, still, seated⟩ := seating_of_shared (sound.evictOthers id session) same another
    found
  have listed : other.id ∈ ((server.readers session).map Client.id).filter fun each => each ≠ id :=
    List.mem_filter.mpr ⟨List.mem_map_of_mem there, by simpa using another⟩
  have gone : ∃ now, (server.evictOthers id session).client other.id = some now ∧
      now.attached = false := by
    refine @client_after_round _ _ other.id
      (fun client => ∃ now, client = some now ∧ now.attached = false) ?_ ?_ (some other) ?_
      _ listed found
    · intro server each apart
      split
      · rfl
      · split
        · rfl
        · exact (Spares.detach ..).client apart.symm
    · rintro server ⟨now, known, left⟩
      refine ⟨now, ?_, left⟩
      rw [known]
      dsimp only
      split
      · exact known
      · rw [Server.detach, known]
        dsimp only
        rw [if_pos (by simp [left])]
        exact known
    · intro server known
      rw [known]
      dsimp only
      rw [if_neg (not_not.mpr (sound.seated other present attached).isOpen)]
      obtain ⟨now, there, left, _⟩ := detach_own known attached
        (sound.seated other present attached).isOpen evicted_framed
      exact ⟨now, there, left⟩
  obtain ⟨now, known, left⟩ := gone
  obtain rfl := Option.some.inj (known.symm.trans still)
  have stays : now.attached = other.attached := congrArg (fun seat => seat.2.1) seated
  rw [left, attached] at stays
  cases stays

/-- Somebody whose mode was changed has another. -/
theorem setOthersMode_disturbs (sound : server.Sound) {session : SessionId} {mode : AttachMode}
    {other : Client} (there : other ∈ server.readers session) (another : other.id ≠ id)
    (differs : other.mode ≠ mode) :
    (server.setOthersMode id session mode).shared id ≠ server.shared id := by
  intro same
  obtain ⟨present, reads⟩ := List.mem_filter.mp there
  have found := Data.find_of_mem sound.distinct present
  obtain ⟨later, still, seated⟩ := seating_of_shared (sound.setOthersMode id session mode) same
    another found
  have changed : ∃ now, (server.setOthersMode id session mode).client other.id = some now ∧
      now.mode = mode := by
    refine @client_after_round _ _ other.id
      (fun client => ∃ now, client = some now ∧ now.mode = mode) ?_ ?_ (some other) ?_
      _ (List.mem_map_of_mem present) found
    · intro server each apart
      cases server.client each with
      | none => rfl
      | some client =>
          dsimp only
          split
          · split
            · rfl
            · split
              · rfl
              · exact ((Spares.send ..).client apart.symm).trans
                  ((client_setClient (by exact fun _ => rfl)).trans (if_neg apart.symm))
          · rfl
    · rintro server ⟨now, known, already⟩
      refine ⟨now, ?_, already⟩
      simp only [known, already, or_true, if_true, ite_self]
    · intro server known
      simp only [known, reads, another, differs, or_self, if_true, if_false]
      obtain ⟨change, told, own⟩ := (Spares.send (server.setClient other.id fun client =>
        { client with mode := mode }) other.id (.readerMode ⟨mode.toWire⟩)).own
      refine ⟨_, own.trans (congrArg (Option.map change)
        (setClient_found known (by exact fun _ => rfl))), told.mode _⟩
  obtain ⟨now, known, now_mode⟩ := changed
  obtain rfl := Option.some.inj (known.symm.trans still)
  have stays : now.mode = other.mode := congrArg (fun seat => seat.2.2.2) seated
  exact differs (stays.symm.trans now_mode)

/-- What keeps the sessions client by client keeps them. -/
theorem forEachAttached_sessions (server : Server) (session : SessionId)
    {act : Server → ClientId → Server}
    (each : ∀ server id, (act server id).sessions = server.sessions) :
    (server.forEachAttached session act).sessions = server.sessions := by
  refine foldl_keeps Server.sessions _ (fun server id => ?_) server
  split
  · rfl
  · split
    · exact each server id
    · rfl

/-- A layout announced keeps the sessions. -/
theorem announceLayout_sessions (server : Server) (forced : SessionId) :
    (server.announceLayout forced).sessions = server.sessions := by
  refine foldl_keeps Server.sessions _ (fun server session => ?_) server
  rw [announceSessionLayout]
  dsimp only
  split
  · rfl
  · split
    · rfl
    · refine (foldl_keeps Server.sessions session.terminals ?_ _).trans ?_
      · exact fun _ _ => rfl
      · exact forEachAttached_sessions server session.id fun _ _ => (Spares.send ..).sessions

/-- A desktop changed is another session. -/
theorem clientResize_disturbs {resize : Proto.ClientResize}
    (harmful : ¬server.IdleResize id resize) :
    (server.clientResize id resize).shared id ≠ server.shared id := by
  unfold IdleResize at harmful
  dsimp only at harmful
  push Not at harmful
  obtain ⟨home, found, arrives, fits, differs⟩ := harmful
  intro same
  have sessions : (server.clientResize id resize).sessions = server.sessions :=
    congrArg Shared.sessions same
  rw [clientResize_eq, found] at sessions
  dsimp only at sessions
  rw [if_neg (not_not.mpr arrives), changeDesktop, if_neg (by simp [fits, differs]),
    announceLayout_sessions] at sessions
  obtain ⟨client, _, at_home⟩ := Option.bind_eq_some_iff.mp found
  have own := sessionFor_id at_home
  have sized := @sessionFor_setSession (server.setClient id (measure resize)) home.id home.id
    (fun session => { session with
      desktop := server.resizedDesktop home ⟨resize.columns.toNat, resize.rows.toNat⟩ }) fun _ => rfl
  rw [sessionFor, sessions, if_pos rfl] at sized
  rw [← own] at at_home
  have again : some home = some { home with
      desktop := server.resizedDesktop home ⟨resize.columns.toNat, resize.rows.toNat⟩ } :=
    at_home.symm.trans (sized.trans (congrArg (Option.map _) at_home))
  exact differs (congrArg Session.desktop (Option.some.inj again)).symm

/-- A message that is not harmless does harm. -/
theorem handle_disturbs [Emulator] (sound : server.Sound) (watched : server.Watched id)
    {message : Message} (others : takesSeat message = false)
    (harmful : ¬server.Harmless id message) :
    (server.handle id message).shared id ≠ server.shared id := by
  rw [handle_watched watched]
  cases message with
  | setReaderMode wish =>
      have acts : changesTheSession (typeOf (.setReaderMode wish)) = false := rfl
      rw [if_neg (by simp [acts])]
      change (server.handleSetReaderMode id wish).shared id ≠ _
      have harmful : ¬server.IdleWish id wish := harmful
      unfold IdleWish at harmful
      unfold Server.handleSetReaderMode
      cases found : server.client id with
      | none =>
          rw [found] at harmful
          exact absurd trivial harmful
      | some client =>
          rw [found, Option.bind_some] at harmful
          dsimp only
          split at harmful
          · rename_i session home aimed wished
            rw [home, aimed, wished]
            push Not at harmful
            obtain ⟨other, there, another⟩ := harmful
            exact evictOthers_disturbs sound there another
          · rename_i session mode share home aimed wished
            push Not at harmful
            obtain ⟨other, there, another, differs⟩ := harmful
            rw [home, aimed, wished]
            cases mode with
            | takeOver => exact absurd rfl share
            | join => exact setOthersMode_disturbs sound there another differs
            | watch => exact setOthersMode_disturbs sound there another differs
          · exact absurd trivial harmful
  | clientResize resize => exact clientResize_disturbs harmful
  | _ => exact absurd trivial harmful

/-! ### Runs -/

section

variable [CkVision] [Emulator]

/-- What is shared is undisturbed exactly when every message is harmless. -/
theorem undisturbed_iff (reached : serverSystem.Reachable server) (watched : server.Watched id)
    {messages : List Message} (others : ∀ message ∈ messages, takesSeat message = false)
    (allowed : serverSystem.AllowsAll server (messages.map (ServerEvent.message id))) :
    server.Undisturbed id messages ↔ server.HarmlessAll id messages := by
  induction messages generalizing server with
  | nil =>
      refine ⟨fun _ => trivial, fun _ heard front => ?_⟩
      rw [List.prefix_nil.mp front]
      rfl
  | cons message messages ih =>
      have first := others message List.mem_cons_self
      have rest := fun reached watched =>
        @ih (server.handle id message) reached watched
          (fun other later => others other (List.mem_cons_of_mem _ later)) allowed.2
      have next : serverSystem.Reachable (server.handle id message) := reached.next allowed.1
      constructor
      · intro undisturbed
        have harmless : server.Harmless id message := by
          by_contra harmful
          exact handle_disturbs (reachable_sound reached) watched first harmful
            (undisturbed [message] (List.prefix_append [message] messages))
        have spares := handle_harmless watched first harmless
        refine ⟨harmless, (rest next (spares.watched watched)).mp fun heard front => ?_⟩
        exact (undisturbed (message :: heard) ((List.prefix_cons_inj message).mpr front)).trans
          spares.shared.symm
      · rintro ⟨harmless, later⟩ heard front
        have spares := handle_harmless watched first harmless
        cases heard with
        | nil => rfl
        | cons head heard =>
            obtain ⟨rfl, behind⟩ := List.cons_prefix_cons.mp front
            exact ((rest next (spares.watched watched)).mpr later heard behind).trans spares.shared

/-- Watching leaves no trace exactly in the runs whose messages all come to nothing. -/
theorem watcher_noninterfering_iff (reached : serverSystem.Reachable server) {client : Client}
    (found : server.client id = some client) (attached : client.attached = true)
    (watches : client.mode = .watch) {messages : List Message}
    (others : ∀ message ∈ messages, takesSeat message = false)
    (allowed : serverSystem.AllowsAll server (messages.map (ServerEvent.message id))) :
    server.Undisturbed id messages ↔ server.HarmlessAll id messages := by
  have ready := (reachable_sound reached).seated client (client_mem found) attached
  exact undisturbed_iff reached ⟨client, found, ready.greeted, ready.matched, watches⟩ others allowed

end

end Server

/-! ### One who watches -/

/-- Two say hello, the first makes itself a session and the second watches it. -/
def watchEvents : List ServerEvent :=
  [.connect, .connect, .message 1 hello, .message 2 hello,
    .message 1 (.attach { attachTo .takeOver with session := 0 }),
    .message 2 (.attach (attachTo .watch))]

/-- The server with one who watches another. -/
def watchServer : Server :=
  watchEvents.foldl (@serverSystem asciiVision blankEmulator).step freshServer

/-- That is a run. -/
theorem watchEvents_allowed :
    (@serverSystem asciiVision blankEmulator).AllowsAll freshServer watchEvents := by
  decide +kernel

/-- The server is reached so. -/
theorem watchServer_reached : (@serverSystem asciiVision blankEmulator).Reachable watchServer :=
  (@freshServer_reached asciiVision blankEmulator).follow watchEvents watchEvents_allowed

/-- The one who watches is there. -/
theorem watchServer_client : watchServer.client 2 = some (clientOf watchServer 2) :=
  Server.eq_some_getD (by decide +kernel) _

/-- A question, and a screen of another size. -/
def idleMessages : List Message := [.ping ⟨1⟩, .clientResize { columns := 40, rows := 20 }]

/-- "I want this session to myself." -/
def mine : Message := .setReaderMode { scope := 1, mode := 0 }

namespace Server

/-- A question and a screen's size disturb nothing. -/
theorem watcher_noninterfering_idle : @Undisturbed blankEmulator watchServer 2 idleMessages := by
  refine (@watcher_noninterfering_iff _ _ asciiVision blankEmulator watchServer_reached _
    watchServer_client (by decide +kernel) (by decide +kernel) _ (by decide)
    (by decide +kernel)).mpr ⟨trivial, ?_, trivial⟩
  intro home found _ _ _
  have every : (((@Server.handle blankEmulator watchServer 2 (.ping ⟨1⟩)).client 2).bind
      fun client =>
        (@Server.handle blankEmulator watchServer 2 (.ping ⟨1⟩)).sessionFor client.session).all
      fun home => (@Server.handle blankEmulator watchServer 2 (.ping ⟨1⟩)).resizedDesktop home
        ⟨40, 20⟩ = home.desktop := by decide +kernel
  rw [found] at every
  exact of_decide_eq_true every

/-- One who watches can have the session to itself. -/
theorem watcher_evicts :
    (@serverSystem asciiVision blankEmulator).Reachable watchServer ∧
      watchServer.client 2 = some (clientOf watchServer 2) ∧
      (clientOf watchServer 2).attached = true ∧ (clientOf watchServer 2).mode = .watch ∧
      takesSeat mine = false ∧
      (@serverSystem asciiVision blankEmulator).AllowsAll watchServer [.message 2 mine] ∧
      ¬@Undisturbed blankEmulator watchServer 2 [mine] := by
  refine ⟨watchServer_reached, watchServer_client, by decide +kernel, by decide +kernel, by decide,
    by decide +kernel, fun undisturbed => ?_⟩
  have same := congrArg Shared.others (undisturbed [mine] List.prefix_rfl)
  revert same
  decide +kernel

end Server

end Ckmux
