import Mathlib
import Ckmux.Proto.Sayable
import Ckmux.Server.AttachLaws

/-!
# Sessions too large to send

What a session's screens take of a snapshot depends on what is on them: a run of cells
costs as much whether it is of one cell or of a thousand. So one terminal well within
the ceiling on its size can be more than the budget has room for, and its session is
one nobody can attach to any more. Nothing else keeps a session from being sent.
-/

namespace Ckmux

open Grammar (Bytes)
open Data (rows)
open Proto (CellRun Message TerminalState encodedRuns kMaxCellTextBytes kSnapshotPayloadBudget
  toRuns)

/-- Every cell holds one grapheme cluster of no more bytes than one has. -/
def TerminalSubsession.Legible (source : TerminalSubsession) : Prop :=
  ∀ cell ∈ source.cells ++ source.scrollback, cell.grapheme.length ≤ kMaxCellTextBytes

/-- What a terminal was last heard to complain of, as far as it is sent. -/
def TerminalSubsession.complaint (source : TerminalSubsession) : Bytes :=
  (source.diagnostics.getLast?.map fun said =>
    clampUtf8 said.message Proto.kMaxTitleBytes).getD []

/-- What a terminal takes of a snapshot, its history aside. -/
def Terminal.screenBytes (terminal : Terminal) (pictures : Nat) : Nat :=
  89 + (clampUtf8 terminal.session.status.title Proto.kMaxTitleBytes).length +
    terminal.customTitle.length + terminal.session.complaint.length +
    encodedRuns (toRuns terminal.session.cells) + 4 + 8 * pictures + 25 * terminal.jobs.length

namespace Server

/-- What a terminal comes to in a snapshot. -/
def terminalBytes (server : Server) (id : TerminalId) : Nat :=
  ((server.terminal id).map fun terminal =>
    terminal.screenBytes (server.pictures id).length).getD 0

/-- What a session takes of a snapshot, its histories aside. -/
def screenBytes (server : Server) (session : Session) : Nat :=
  24 + (session.terminals.map server.terminalBytes).sum

/-- Whether a client's socket takes its session whole: there is room for the frame, no write
has failed and the other end is there. -/
def takesWhole (server : Server) (id : ClientId) (client : Client) : Bool :=
  client.stream.takes (Proto.encode ((server.clean id).attachedMessage client)).length
    (server.kernel server.writes)

/-- A client has been sent one message since, and it is its session whole. -/
def Answered (before after : Server) (id : ClientId) (session : SessionId) : Prop :=
  ∃ client now snapshot, before.client id = some client ∧ after.client id = some now ∧
    now.stream.sent = client.stream.sent ++ [.attached ⟨session, snapshot⟩]

end Server

/-! ### What the screens take -/

/-- A terminal described comes to what its screen comes to. -/
theorem describe_encodedSize (terminal : Terminal) (policy : EffectivePrinterPolicy)
    (index : UInt16) (differ : TerminalDiffer) (id : TerminalId) :
    (terminal.describe policy index (differ.snapshot id terminal.session).1).encodedSize =
      terminal.screenBytes differ.believedRasters.length := by
  simp [Terminal.describe, TerminalDiffer.snapshot, Terminal.screenBytes, viewOf,
    TerminalSubsession.complaint, TerminalState.encodedSize, Proto.encodedLines]

/-- Announcing one terminal changes what none of them comes to. -/
theorem terminalBytes_announced (server : Server) (id : TerminalId)
    (diffs : TerminalId → TerminalDiffer) (other : TerminalId) :
    ({ server with diffs := diffs }.setTerminal id Terminal.announced).terminalBytes other =
      server.terminalBytes other := by
  rw [Server.terminalBytes, Server.terminal_setTerminal Terminal.announced_id]
  split
  · rw [Option.map_map]
    rfl
  · rfl

/-- The terminals of a session take what each of them takes. -/
theorem snapshotTerminals_size (server : Server) (held : List TerminalId) (index : UInt16) :
    ((server.snapshotTerminals held index).1.map TerminalState.encodedSize).sum =
      (held.map server.terminalBytes).sum := by
  induction held generalizing server index with
  | nil => rfl
  | cons id ids ih =>
      rw [Server.snapshotTerminals, List.map_cons, List.sum_cons]
      cases found : server.terminal id with
      | none =>
          rw [Server.terminalBytes, found]
          simpa using ih server index
      | some terminal =>
          have same := funext (terminalBytes_announced server id
            (Function.update server.diffs id
              ((server.differ id).snapshot id terminal.session).2))
          dsimp only
          rw [List.map_cons, List.sum_cons, describe_encodedSize, ih, same, Server.terminalBytes,
            found]
          simp [Server.differ]

namespace Server

variable {server : Server} {id : ClientId} {client : Client}

/-- A snapshot without history spends what the session's screens come to. -/
theorem spent_bareSnapshot {session : Session}
    (home : server.sessionFor client.session = some session) :
    spent (server.bareSnapshot client) = server.screenBytes session := by
  have size := snapshotTerminals_size server session.terminals 0
  have listed : (server.bareSnapshot client).terminals =
      (server.snapshotTerminals session.terminals 0).1 := by
    rw [bareSnapshot, listSession, home]
    rfl
  rw [spent, Proto.Snapshot.encodedSize, listed, size, screenBytes]
  omega

end Server

/-! ### What can be said of them -/

/-- A run of legible cells can be written. -/
theorem TerminalSubsession.Legible.run {source : TerminalSubsession} (legible : source.Legible)
    {cells : List Cell} (among : ∀ cell ∈ cells, cell ∈ source.cells ++ source.scrollback)
    {run : CellRun} (listed : run ∈ toRuns cells) : run.cell.grapheme.length ≤ 0xFFFF := by
  have short := legible run.cell (among _ (Proto.mem_toRuns listed))
  rw [kMaxCellTextBytes] at short
  omega

/-- A line of a history is of its cells. -/
theorem TerminalSubsession.Legible.history {source : TerminalSubsession}
    (legible : source.Legible) {columns : UInt16} {line : List CellRun}
    (listed : line ∈ source.history columns) :
    ∀ run ∈ line, run.cell.grapheme.length ≤ 0xFFFF := by
  obtain ⟨cells, whole, rfl⟩ := List.mem_map.mp listed
  obtain ⟨index, _, rfl⟩ := List.mem_map.mp whole
  intro run
  refine legible.run fun cell here => List.mem_append_right _ ?_
  exact List.mem_of_mem_drop (List.mem_of_mem_take here)

/-- A legible terminal's description can be said. -/
theorem Terminal.describe_sayable {terminal : Terminal} (titled : terminal.Titled)
    (legible : terminal.session.Legible) (policy : EffectivePrinterPolicy) (index : UInt16)
    (differ : TerminalDiffer) (id : TerminalId) :
    (terminal.describe policy index (differ.snapshot id terminal.session).1).Sayable where
  title := (length_clampUtf8 ..).trans (by decide)
  customTitle := titled.trans (by decide)
  diagnostic := by
    change terminal.session.complaint.length ≤ 0xFFFF
    rw [TerminalSubsession.complaint]
    cases terminal.session.diagnostics.getLast? with
    | none => exact Nat.zero_le _
    | some said => exact (length_clampUtf8 ..).trans (by decide)
  grid _ listed := legible.run (fun _ here => List.mem_append_left _ here) listed
  scrollback _ none := by cases none

/-- Whatever is listed of legible terminals can be said. -/
theorem snapshotTerminals_sayable {server : Server}
    (clear : ∀ terminal ∈ server.terminals, terminal.Titled ∧ terminal.session.Legible)
    (held : List TerminalId) (index : UInt16) :
    ∀ state ∈ (server.snapshotTerminals held index).1, state.Sayable := by
  induction held generalizing server index with
  | nil => simp [Server.snapshotTerminals]
  | cons id ids ih =>
      rw [Server.snapshotTerminals]
      cases found : server.terminal id with
      | none => exact ih clear index
      | some terminal =>
          obtain ⟨titled, legible⟩ := clear terminal (List.mem_of_find?_eq_some found)
          intro state listed
          rcases List.mem_cons.mp listed with rfl | later
          · exact Terminal.describe_sayable titled legible ..
          · refine ih ?_ _ state later
            intro changed there
            obtain ⟨before, known, rfl⟩ := List.mem_map.mp there
            split
            · exact clear before known
            · exact clear before known

/-- So can it with as much history as it is given. -/
theorem shareHistories_sayable {terminal : TerminalId → Option Terminal}
    (legible : ∀ id held, terminal id = some held → held.session.Legible)
    {states : List TerminalState} (none_yet : ∀ state ∈ states, state.scrollback = [])
    (sayable : ∀ state ∈ states, state.Sayable) (remaining left : Nat) :
    ∀ filled ∈ shareHistories terminal remaining left states, filled.1.Sayable := by
  induction states generalizing remaining left with
  | nil => simp [shareHistories]
  | cons state states ih =>
      have first := sayable state List.mem_cons_self
      have others := fun remaining left => ih
        (fun other listed => none_yet other (List.mem_cons_of_mem _ listed))
        (fun other listed => sayable other (List.mem_cons_of_mem _ listed)) remaining left
      rw [shareHistories]
      intro filled listed
      rcases List.mem_cons.mp listed with rfl | later
      · dsimp only
        split
        · exact first
        · rename_i held found
          obtain ⟨rest, newest, _, _⟩ := fillHistory_spec
            (none_yet state List.mem_cons_self) held.session (remaining / max 1 left)
          rw [rest]
          exact { first with
            scrollback := fun line there =>
              (legible _ held found).history (newest.mem there) }
      · exact others _ _ filled later

namespace Server

variable {server : Server} {id : ClientId} {client : Client}

/-- A session within the budget can be said, if what is on its screens can. -/
theorem attachedMessage_framed
    (clear : ∀ terminal ∈ server.terminals, terminal.Titled ∧ terminal.session.Legible)
    (within : spent (server.bareSnapshot client) ≤ kSnapshotPayloadBudget) :
    Proto.encode (server.attachedMessage client) ≠ [] := by
  have none_yet : ∀ state ∈ (server.bareSnapshot client).terminals, state.scrollback = [] :=
    snapshotTerminals_scrollback server _ 0
  have sayable : ∀ state ∈ (server.wholeSnapshot client).terminals, state.Sayable := by
    intro state listed
    obtain ⟨filled, there, rfl⟩ := List.mem_map.mp listed
    refine shareHistories_sayable ?_ none_yet (snapshotTerminals_sayable clear _ 0) _ _ filled there
    intro id held found
    have same := snapshotTerminals_session server
      (((server.sessionFor client.session).map Session.terminals).getD []) 0 id
    rw [listSession] at found
    rw [found, Option.map_some] at same
    obtain ⟨before, known, session⟩ := Option.map_eq_some_iff.mp same.symm
    exact session ▸ (clear before (List.mem_of_find?_eq_some known)).2
  obtain ⟨payload, written⟩ := Proto.attached_written client.session sayable
  have sized := attached_occupies client.session (server.wholeSnapshot client) payload written
  have whole := @spent_fillHistories_le (server.listSession client).2 _ none_yet within
  have cap : kSnapshotPayloadBudget ≤ Proto.payloadCap .attached := by decide
  rw [attachedMessage, Proto.encode_of_write written ((sized.le.trans whole).trans cap)]
  intro empty
  have := congrArg List.length empty
  rw [List.length_append, Proto.header_length] at this
  simp [Proto.kHeaderBytes] at this

/-- A session can be sent exactly when its screens are within the budget. -/
theorem sendable_iff {session : Session} (home : server.sessionFor client.session = some session)
    (clear : ∀ terminal ∈ server.terminals, terminal.Titled ∧ terminal.session.Legible) :
    server.Sendable client ↔ server.screenBytes session ≤ kSnapshotPayloadBudget := by
  rw [← spent_bareSnapshot home]
  exact ⟨And.left, fun within => ⟨within, attachedMessage_framed clear within⟩⟩

/-! ### Attaching -/

/-- A session attached to without being made is one there was. -/
theorem attachSession_home {request : Proto.Attach} {session : Session}
    (asked : server.attachSession request = (some session, server)) :
    server.sessionFor session.id = some session := by
  unfold Server.attachSession at asked
  split at asked
  · rename_i found
    obtain rfl := Option.some.inj (congrArg Prod.fst asked)
    rwa [sessionFor_id found]
  · split at asked
    · cases congrArg Prod.fst asked
    · split at asked
      · rename_i first rest held
        obtain rfl := Option.some.inj (congrArg Prod.fst asked)
        rw [sessionFor, held]
        simp
      · have longer := congrArg (fun asked => asked.2.sessions.length) asked
        simp [createSession] at longer

/-- Sitting down makes a session no larger and no smaller. -/
theorem seat_sendable_iff {request : Proto.Attach} {session : Session}
    (home : server.sessionFor session.id = some session)
    (clear : ∀ terminal ∈ server.terminals, terminal.Titled ∧ terminal.session.Legible) :
    ((server.seat id request session).clean id).Sendable (settle request session.id client) ↔
      server.screenBytes session ≤ kSnapshotPayloadBudget := by
  obtain ⟨terminals, pictures, sessions⟩ := seat_terminals server id request session
  have resized : ((server.seat id request session).clean id).sessionFor session.id =
      some { session with
        desktop := server.arrivingDesktop session
          ⟨request.columns.toNat, request.rows.toNat⟩ } := by
    have sized := @sessionFor_setSession server session.id session.id
      (fun session => { session with
        desktop := server.arrivingDesktop session ⟨request.columns.toNat, request.rows.toNat⟩ })
      fun _ => rfl
    rw [if_pos rfl, home, Option.map_some] at sized
    rw [← sized, sessionFor, sessionFor, ← sessions]
    rfl
  have same : ((server.seat id request session).clean id).screenBytes
      { session with
        desktop := server.arrivingDesktop session ⟨request.columns.toNat, request.rows.toNat⟩ } =
      server.screenBytes session := by
    have each : ((server.seat id request session).clean id).terminalBytes =
        server.terminalBytes := by
      funext term
      simp only [terminalBytes, terminal, clean, setClient, terminals, pictures]
    rw [screenBytes, each, screenBytes]
  rw [@sendable_iff _ (settle request session.id client) _ resized, same]
  intro terminal there
  exact clear terminal (terminals ▸ there)

section

variable [Emulator]

/-- An attach is answered exactly when the screens are within the budget, and the
socket takes the answer. -/
theorem handle_attach_answered (found : server.client id = some client) (ready : client.Ready)
    {request : Proto.Attach} {session : Session}
    (asked : server.attachSession request = (some session, server))
    (clear : ∀ terminal ∈ server.terminals, terminal.Titled ∧ terminal.session.Legible) :
    Answered server (server.handle id (.attach request)) id session.id ↔
      server.screenBytes session ≤ kSnapshotPayloadBudget ∧
        (server.seat id request session).takesWhole id (settle request session.id client) := by
  have seated := seat_client found request session
  have handled : (server.handle id (.attach request)).client id =
      ((server.seat id request session).sendSnapshot id).client id := by
    rw [handle_attach found ready, Server.attach, asked]
    rfl
  rw [← @seat_sendable_iff _ id client request _ (attachSession_home asked) clear]
  by_cases sendable :
      ((server.seat id request session).clean id).Sendable (settle request session.id client)
  · obtain ⟨now, there, sent, _, _⟩ := sendSnapshot_own seated ready.isOpen sendable
    rw [and_iff_right sendable]
    constructor
    · rintro ⟨client', later, snapshot, before, after, answered⟩
      obtain rfl := Option.some.inj (found.symm.trans before)
      obtain rfl := Option.some.inj (there.symm.trans (handled.symm.trans after))
      by_contra refused
      have longer := congrArg List.length (sent.symm.trans answered)
      rw [show (settle request session.id client).stream = client.stream from rfl] at longer
      rw [takesWhole] at refused
      rw [if_neg (by exact refused)] at longer
      simp at longer
    · intro takes
      rw [takesWhole] at takes
      rw [if_pos takes] at sent
      exact ⟨client, now, _, found, handled.trans there, sent⟩
  · obtain ⟨now, news, there, _, sent, large⟩ := sendSnapshot_not seated ready.isOpen rfl sendable
    refine ⟨?_, fun fits => absurd fits.1 sendable⟩
    rintro ⟨client', later, snapshot, before, after, answered⟩
    obtain rfl := Option.some.inj (found.symm.trans before)
    obtain rfl := Option.some.inj (there.symm.trans (handled.symm.trans after))
    obtain rfl := List.append_cancel_left (sent.symm.trans answered)
    obtain ⟨text, same⟩ := large _ (List.mem_singleton_self _)
    cases same

/-- Every session can be attached to exactly as far as its screens are within the budget. -/
theorem attach_answered_iff [CkVision] (reached : serverSystem.Reachable server)
    (found : server.client id = some client) (ready : client.Ready) {request : Proto.Attach}
    {session : Session} (asked : server.attachSession request = (some session, server))
    (legible : ∀ terminal ∈ server.terminals, terminal.session.Legible) :
    Answered server (server.handle id (.attach request)) id session.id ↔
      server.screenBytes session ≤ kSnapshotPayloadBudget ∧
        (server.seat id request session).takesWhole id (settle request session.id client) := by
  have sound := reachable_sound reached
  exact handle_attach_answered found ready asked fun terminal there =>
    ⟨sound.titled terminal there, legible terminal there⟩

end

end Server

/-! ### A screen of stripes -/

/-- Cells of two kinds in turn. -/
def stripes (first second : Cell) : Nat → List Cell
  | 0 => []
  | count + 1 => first :: stripes second first count

/-- There are as many stripes as asked for. -/
theorem length_stripes (first second : Cell) (count : Nat) :
    (stripes first second count).length = count := by
  induction count generalizing first second with
  | zero => rfl
  | succ count ih => rw [stripes, List.length_cons, ih]

/-- A stripe is one of the two cells. -/
theorem mem_stripes {first second cell : Cell} {count : Nat}
    (listed : cell ∈ stripes first second count) : cell = first ∨ cell = second := by
  induction count generalizing first second with
  | zero => cases listed
  | succ count ih =>
      rcases List.mem_cons.mp listed with same | later
      · exact .inl same
      · exact (ih later).symm

/-- No run of them is longer than one cell. -/
theorem stripes_toRuns {first second : Cell} (different : first ≠ second) (count : Nat) :
    toRuns (stripes first second count) = (stripes first second count).map (CellRun.mk 1) := by
  have each : ∀ {first second : Cell} (_ : first ≠ second) (count : Nat),
      Proto.toRunsFrom ⟨1, first⟩ (stripes second first count) =
        (first :: stripes second first count).map (CellRun.mk 1) := by
    intro first second different count
    induction count generalizing first second with
    | zero => rfl
    | succ count ih =>
        rw [stripes, Proto.toRunsFrom, if_neg, ih different.symm]
        · rfl
        · intro grows
          exact different (Proto.sameCell_iff.mp grows.2)
  cases count with
  | zero => rfl
  | succ count => exact each different count

/-- Stripes of two letters cost seventeen bytes each, and four for all of them. -/
theorem encodedRuns_stripes {first second : Cell} (different : first ≠ second)
    (one : first.grapheme.length = 1) (another : second.grapheme.length = 1) (count : Nat) :
    encodedRuns (toRuns (stripes first second count)) = 4 + 17 * count := by
  have sized : ∀ cell ∈ stripes first second count,
      (CellRun.encodedSize ∘ CellRun.mk 1) cell = 17 := by
    intro cell listed
    rcases mem_stripes listed with rfl | rfl
    · simp [CellRun.encodedSize, one]
    · simp [CellRun.encodedSize, another]
  rw [encodedRuns, stripes_toRuns different, List.map_map, List.map_congr_left sized,
    List.map_const', List.sum_replicate, length_stripes, smul_eq_mul, Nat.mul_comm]

/-- The letter a. -/
def letterA : Cell := ⟨[97], 1, {}⟩
/-- The letter b. -/
def letterB : Cell := ⟨[98], 1, {}⟩

/-- A screen five hundred cells wide, striped all over. -/
def stripedScreen (rows : UInt16) : TerminalSubsession where
  status := { cells := ⟨500, rows.toNat⟩ }
  cells := stripes letterA letterB (500 * rows.toNat)

/-- Two say hello, and the first makes itself a session with a terminal in it. -/
def wideEvents (rows : UInt16) : List ServerEvent :=
  [.connect, .connect, .message 1 hello, .message 2 hello,
    .message 1 (.attach { attachTo .takeOver with session := 0 }),
    .message 1 (.newTerminal { rect := { width := 500, height := rows } })]

/-- The server with that terminal. -/
def wideServer (rows : UInt16) : Server :=
  (wideEvents rows).foldl (@serverSystem asciiVision blankEmulator).step freshServer

/-- The session with that terminal. -/
def wideSession (rows : UInt16) : Session := (wideServer rows).sessions.headD { id := 0, name := [] }

/-- There is that terminal, and a second client that is ready to attach to its session. -/
structure WideThere (rows : UInt16) : Prop where
  terminals : (wideServer rows).terminals.length = 1 ∧
    ∀ terminal ∈ (wideServer rows).terminals, terminal.id = 1 ∧ terminal.exitStatus = none ∧
      terminal.customTitle = [] ∧ terminal.jobs.length = 0 ∧ terminal.columns = 500 ∧
      terminal.rows = rows.toNat
  client : ((wideServer rows).client 2).isSome = true ∧ (clientOf (wideServer rows) 2).Ready ∧
    (clientOf (wideServer rows) 2).stream.queued = 0 ∧
    (clientOf (wideServer rows) 2).stream.writeFailed = false
  session : (wideServer rows).sessionFor 1 = some (wideSession rows)
  held : (wideSession rows).terminals = [1]
  pictures : ((wideServer rows).pictures 1).length = 0
  few : ∀ session ∈ (wideServer rows).sessions,
    (session.terminals.length : Int) ≤ (wideServer rows).settings.maxTerminals
  taken : ((wideServer rows).kernel (wideServer rows).writes).isSome = true

/-- It is there whether the terminal has four hundred rows or five hundred. -/
theorem wideServer_there {rows : UInt16} (among : rows ∈ [400, 500]) :
    (@serverSystem asciiVision blankEmulator).AllowsAll freshServer (wideEvents rows) ∧
      WideThere rows := by
  have checked : ∀ rows ∈ ([400, 500] : List UInt16),
      (@serverSystem asciiVision blankEmulator).AllowsAll freshServer (wideEvents rows) ∧
      ((wideServer rows).terminals.length = 1 ∧
        ∀ terminal ∈ (wideServer rows).terminals, terminal.id = 1 ∧ terminal.exitStatus = none ∧
          terminal.customTitle = [] ∧ terminal.jobs.length = 0 ∧ terminal.columns = 500 ∧
          terminal.rows = rows.toNat) ∧
      (((wideServer rows).client 2).isSome = true ∧ (clientOf (wideServer rows) 2).Ready ∧
        (clientOf (wideServer rows) 2).stream.queued = 0 ∧
        (clientOf (wideServer rows) 2).stream.writeFailed = false) ∧
      (wideServer rows).sessionFor 1 = some (wideSession rows) ∧
      (wideSession rows).terminals = [1] ∧ ((wideServer rows).pictures 1).length = 0 ∧
      (∀ session ∈ (wideServer rows).sessions,
        (session.terminals.length : Int) ≤ (wideServer rows).settings.maxTerminals) ∧
      ((wideServer rows).kernel (wideServer rows).writes).isSome = true := by
    intro rows among
    rcases List.mem_pair.mp among with rfl | rfl
    · decide +kernel
    · decide +kernel
  obtain ⟨allowed, terminals, client, session, held, pictures, few, taken⟩ := checked rows among
  exact ⟨allowed, ⟨terminals, client, session, held, pictures, few, taken⟩⟩

/-- What the terminal's child has then written. -/
def wideShowing (rows : UInt16) : Server := (wideServer rows).output 1 (stripedScreen rows) {}

/-- What a child writes is no matter of the clients, the sessions, the pictures or the sockets. -/
theorem Server.output_beside (server : Server) (id : TerminalId) (session : TerminalSubsession)
    (program : Program) :
    (server.output id session program).client = server.client ∧
      (server.output id session program).sessionFor = server.sessionFor ∧
      (server.output id session program).sessions = server.sessions ∧
      (server.output id session program).pictures = server.pictures ∧
      (server.output id session program).settings = server.settings ∧
      (server.output id session program).kernel = server.kernel ∧
      (server.output id session program).writes = server.writes :=
  ⟨rfl, rfl, rfl, rfl, rfl, rfl, rfl⟩

section

variable {rows : UInt16} (among : rows ∈ [400, 500])

include among

/-- The striped screen is reached. -/
theorem wideShowing_reached :
    (@serverSystem asciiVision blankEmulator).Reachable (wideShowing rows) := by
  have made := (@freshServer_reached asciiVision blankEmulator).follow (wideEvents rows)
    (wideServer_there among).1
  exact made.take (.output 1 (stripedScreen rows) {}) trivial rfl

/-- The terminal shows what its child wrote. -/
theorem wideShowing_terminal :
    ∃ terminal, (wideShowing rows).terminals = [terminal] ∧ terminal.id = 1 ∧
      terminal.session = stripedScreen rows ∧ terminal.customTitle = [] ∧ terminal.jobs = [] ∧
      terminal.columns = 500 ∧ terminal.rows = rows.toNat := by
  obtain ⟨single, every⟩ := (wideServer_there among).2.terminals
  obtain ⟨blank, only⟩ := List.length_eq_one_iff.mp single
  obtain ⟨one, running, untitled, unprinted, columns, high⟩ :=
    every blank (only ▸ List.mem_singleton_self _)
  have changed : (wideShowing rows).terminals =
      [({ blank with session := stripedScreen rows, program := {} } : Terminal)] := by
    rw [wideShowing, Server.output, Server.setTerminal, only, List.map_singleton, if_pos one,
      Terminal.observeExit, if_neg (by simp [running]), if_pos (by simp)]
  exact ⟨_, changed, one, rfl, untitled, List.length_eq_zero_iff.mp unprinted, columns, high⟩

/-- Its terminals are legible. -/
theorem wideShowing_legible :
    ∀ terminal ∈ (wideShowing rows).terminals, terminal.session.Legible := by
  obtain ⟨terminal, only, _, shown, _⟩ := wideShowing_terminal among
  rw [only]
  intro each listed
  obtain rfl := List.mem_singleton.mp listed
  rw [shown]
  intro cell there
  rcases mem_stripes (List.append_nil _ ▸ there) with rfl | rfl <;> decide

/-- Whoever attaches finds the session there is. -/
theorem wideShowing_attachSession (mode : AttachMode) :
    (wideShowing rows).attachSession (attachTo mode) = (some (wideSession rows), wideShowing rows) := by
  have home : (wideShowing rows).sessionFor 1 = some (wideSession rows) := by
    rw [wideShowing, (Server.output_beside ..).2.1]
    exact (wideServer_there among).2.session
  rw [Server.attachSession, show (attachTo mode).session = 1 from rfl, home]

/-- The second client is there. -/
theorem wideShowing_client :
    (wideShowing rows).client 2 = some (clientOf (wideServer rows) 2) := by
  rw [wideShowing, (Server.output_beside ..).1]
  exact Server.eq_some_getD (wideServer_there among).2.client.1 _

/-- Its stripes take seventeen bytes a cell, and the rest is little. -/
theorem wideShowing_screenBytes :
    (wideShowing rows).screenBytes (wideSession rows) = 121 + 17 * (500 * rows.toNat) := by
  obtain ⟨terminal, only, one, shown, untitled, unprinted, _⟩ := wideShowing_terminal among
  have there := (wideServer_there among).2
  have pictures : ((wideShowing rows).pictures 1).length = 0 := by
    rw [wideShowing, (Server.output_beside ..).2.2.2.1]
    exact there.pictures
  have found : (wideShowing rows).terminal 1 = some terminal := by
    rw [Server.terminal, only]
    simp [one]
  have runs := @encodedRuns_stripes letterA letterB (by decide) rfl rfl (500 * rows.toNat)
  have cells : terminal.session.cells = stripes letterA letterB (500 * rows.toNat) := congrArg _ shown
  have title : terminal.session.status.title = [] := congrArg (fun shown => shown.status.title) shown
  have complaint : terminal.session.complaint = [] := congrArg _ shown
  rw [Server.screenBytes, there.held, List.map_singleton, List.sum_singleton, Server.terminalBytes,
    found, Option.map_some, Option.getD_some, Terminal.screenBytes, cells, runs, title, complaint,
    untitled, unprinted, pictures]
  simp only [clampUtf8, List.length_nil, Nat.zero_le, if_true]
  omega

end

namespace Server

/-- A session that can be sent is taken whole where there is room for the largest one. -/
theorem takesWhole_of_room {server : Server} {id : ClientId} {client : Client}
    (within : spent ((server.clean id).bareSnapshot client) ≤ kSnapshotPayloadBudget)
    (room : client.stream.queued + (Proto.kHeaderBytes + kSnapshotPayloadBudget) ≤ kHardLimitBytes)
    (works : client.stream.writeFailed = false)
    (taken : (server.kernel server.writes).isSome = true) : server.takesWhole id client = true := by
  have small : (Proto.encode ((server.clean id).attachedMessage client)).length ≤
      Proto.kHeaderBytes + kSnapshotPayloadBudget := by
    cases written : Message.write ((server.clean id).attachedMessage client) with
    | none => simp [Proto.encode, written]
    | some payload =>
        obtain ⟨short, framed⟩ := (fillHistories_within_budget (server.clean id) client _ within).1
          payload written
        have framed : Proto.encode ((server.clean id).attachedMessage client) = _ := framed
        rw [framed, List.length_append, Proto.header_length]
        omega
  simp only [takesWhole, Socket.takes, works, taken, Bool.not_false, Bool.and_true,
    decide_eq_true_eq]
  omega

/-- Of four hundred rows of stripes there is room for all, and the session is sent. -/
theorem attach_answered_striped :
    Answered (wideShowing 400)
      (@Server.handle blankEmulator (wideShowing 400) 2 (.attach (attachTo .join))) 2 1 := by
  have among : (400 : UInt16) ∈ [400, 500] := by decide
  obtain ⟨_, ready, empty, works⟩ := (wideServer_there among).2.client
  have home := wideShowing_attachSession among .join
  have legible := wideShowing_legible among
  have sound := @reachable_sound _ asciiVision blankEmulator (wideShowing_reached among)
  have within : (wideShowing 400).screenBytes (wideSession 400) ≤ kSnapshotPayloadBudget := by
    rw [wideShowing_screenBytes among]
    decide
  have sendable := (@seat_sendable_iff _ 2 (clientOf (wideServer 400) 2) (attachTo .join) _
    (attachSession_home home) fun terminal there =>
      ⟨sound.titled terminal there, legible terminal there⟩).mpr within
  refine (@attach_answered_iff _ _ _ blankEmulator asciiVision (wideShowing_reached among)
    (wideShowing_client among) ready _ _ home legible).mpr ⟨within, ?_⟩
  -- Somebody joining has the server as it was, and its own socket too.
  have joins : ∀ (server : Server) session, (server.seat 2 (attachTo .join) session).kernel
      (server.seat 2 (attachTo .join) session).writes = server.kernel server.writes :=
    fun _ _ => rfl
  have keeps : ∀ client, (settle (attachTo .join) (wideSession 400).id client).stream = client.stream :=
    fun _ => rfl
  refine takesWhole_of_room sendable.1 ?_ ?_ ?_
  · rw [keeps, empty]
    decide
  · rw [keeps]
    exact works
  · obtain ⟨_, _, _, _, _, kernel, writes⟩ :=
      Server.output_beside (wideServer 400) 1 (stripedScreen 400) {}
    rw [joins, wideShowing, kernel, writes]
    exact (wideServer_there among).2.taken

/-- Of five hundred there is not, and it is not. -/
theorem wideShowing_refused :
    ¬Answered (wideShowing 500)
      (@Server.handle blankEmulator (wideShowing 500) 2 (.attach (attachTo .join))) 2 1 := by
  have among : (500 : UInt16) ∈ [400, 500] := by decide
  have sound := @reachable_sound _ asciiVision blankEmulator (wideShowing_reached among)
  intro answered
  have within := ((@handle_attach_answered _ _ _ blankEmulator (wideShowing_client among)
    (wideServer_there among).2.client.2.1 _ _ (wideShowing_attachSession among .join)
    fun terminal there =>
      ⟨sound.titled terminal there, wideShowing_legible among terminal there⟩).mp answered).1
  rw [wideShowing_screenBytes among] at within
  exact absurd within (by decide)

/-- One terminal of five hundred by five hundred is enough for a session nobody can
attach to. -/
theorem attach_too_large :
    (@serverSystem asciiVision blankEmulator).Reachable (wideShowing 500) ∧
      ((wideShowing 500).client 2 = some (clientOf (wideServer 500) 2) ∧
        (clientOf (wideServer 500) 2).Ready) ∧
      (wideShowing 500).attachSession (attachTo .join) = (some (wideSession 500), wideShowing 500) ∧
      (∀ terminal ∈ (wideShowing 500).terminals, terminal.session.Legible) ∧
      ((∀ terminal ∈ (wideShowing 500).terminals, terminal.session.cells.length = 250000 ∧
        terminal.columns = 500 ∧ terminal.rows = 500) ∧
        ∀ session ∈ (wideShowing 500).sessions,
          (session.terminals.length : Int) ≤ (wideShowing 500).settings.maxTerminals) ∧
      ¬Answered (wideShowing 500)
        (@Server.handle blankEmulator (wideShowing 500) 2 (.attach (attachTo .join))) 2 1 := by
  have among : (500 : UInt16) ∈ [400, 500] := by decide
  refine ⟨wideShowing_reached among, ⟨wideShowing_client among, (wideServer_there among).2.client.2.1⟩,
    wideShowing_attachSession among _, wideShowing_legible among,
    ⟨?_, ?_⟩, wideShowing_refused⟩
  rotate_left
  · obtain ⟨_, _, sessions, _, settings, _⟩ :=
      Server.output_beside (wideServer 500) 1 (stripedScreen 500) {}
    rw [wideShowing, sessions, settings]
    exact (wideServer_there among).2.few
  obtain ⟨terminal, only, _, shown, _, _, columns, high⟩ := wideShowing_terminal among
  intro each listed
  rw [only] at listed
  obtain rfl := List.mem_singleton.mp listed
  rw [shown]
  exact ⟨length_stripes .., columns, high⟩

end Server

/-! ### What is sent instead -/

/-- A session whose screens are within the budget is sent, and what is sent is within the budget with
its histories. Nothing else goes to its client, if it can be said and the socket takes it. No history
costs more than its share or a share more than remains, and each history is the newest of the
terminal's own. -/
theorem snapshot_within_budget [Emulator] {server : Server} {id : ClientId} {client : Client}
    (found : server.client id = some client)
    (within : Server.spent ((server.clean id).bareSnapshot client) ≤ kSnapshotPayloadBudget) :
    let listed := (server.clean id).listSession client
    let bare := (server.clean id).bareSnapshot client
    let filled := listed.2.fillHistories bare
    let message : Message := .attached ⟨client.session, filled.1⟩
    (∃ owed, server.sendSnapshot id = (listed.2.send id message).setClient id fun client =>
      { client with owed := owed, drainingHeal := true }) ∧
    (client.stream.isOpen = true → Proto.encode message ≠ [] →
      ∃ told, (server.sendSnapshot id).client id = some told ∧ told.session = client.session ∧
        told.stream.sent = client.stream.sent ++
          if client.stream.takes (Proto.encode message).length (server.kernel server.writes) then
            [message] else []) ∧
    (∀ payload, Message.write message = some payload →
      payload.length ≤ kSnapshotPayloadBudget ∧
        Proto.encode message = Proto.header payload.length .attached ++ payload) ∧
    filled.1 = { bare with terminals := filled.1.terminals } ∧
    List.Forall₂ (Filled listed.2.terminal) bare.terminals (filled.1.terminals.zip filled.2) ∧
    ∀ state ∈ bare.terminals, ∃ terminal still, server.terminal state.term = some terminal ∧
      listed.2.terminal state.term = some still ∧ still.session = terminal.session := by
  intro listed bare filled message
  have fits := fillHistories_within_budget (server.clean id) client
    ((((server.clean id).sessionFor client.session).map Session.terminals).getD []) within
  refine ⟨?_, fun isOpen framed => ?_, fits⟩
  · obtain ⟨owed, sent⟩ := Server.sendSnapshot_eq found
    rw [if_neg (Nat.not_lt.mpr within)] at sent
    exact ⟨owed, sent⟩
  · obtain ⟨told, there, sent, _, session⟩ := Server.sendSnapshot_own found isOpen ⟨within, framed⟩
    exact ⟨told, there, session, sent⟩

/-- One opens two terminals of one cell each. The child of the second has scrolled a line away. -/
def pagedEvents : List ServerEvent :=
  [.connect, .message 1 hello, .message 1 (.attach { attachTo .takeOver with session := 0 }),
    .message 1 (.newTerminal { rect := { width := 1, height := 1 } }),
    .message 1 (.newTerminal { rect := { width := 1, height := 1 } }),
    .output 2 { status := { cells := ⟨1, 1⟩ }, cells := [letterA], scrollback := [letterB] } {}]

/-- The server with the two terminals. -/
def pagedServer : Server := pagedEvents.foldl (@serverSystem asciiVision blankEmulator).step freshServer

/-- Both terminals are in what is sent, and the line with them. -/
theorem snapshot_within_budget_letter :
    ∃ told snapshot, (@Server.sendSnapshot blankEmulator pagedServer 1).client 1 = some told ∧
      told.stream.sent = (clientOf pagedServer 1).stream.sent ++ [.attached ⟨1, snapshot⟩] ∧
      snapshot.terminals.map (fun state => (state.term, state.scrollback)) =
        [(1, []), (2, [[⟨1, letterB⟩]])] ∧
      ∀ payload, Message.write (.attached ⟨1, snapshot⟩) = some payload →
        payload.length ≤ kSnapshotPayloadBudget := by
  have there : (pagedServer.client 1).isSome = true ∧
      (clientOf pagedServer 1).stream.isOpen = true ∧ (clientOf pagedServer 1).session = 1 ∧
      Server.spent ((pagedServer.clean 1).bareSnapshot (clientOf pagedServer 1)) ≤
        kSnapshotPayloadBudget ∧
      Proto.encode ((pagedServer.clean 1).attachedMessage (clientOf pagedServer 1)) ≠ [] ∧
      (pagedServer.takesWhole 1 (clientOf pagedServer 1)) = true ∧
      ((pagedServer.clean 1).wholeSnapshot (clientOf pagedServer 1)).terminals.map
        (fun state => (state.term, state.scrollback)) = [(1, []), (2, [[⟨1, letterB⟩]])] := by
    decide +kernel
  obtain ⟨known, isOpen, session, within, framed, takes, histories⟩ := there
  have sent := @snapshot_within_budget blankEmulator _ _ _
    (@Server.eq_some_getD _ (pagedServer.client 1) known _) within
  obtain ⟨told, found, _, stream⟩ := sent.2.1 isOpen framed
  refine ⟨told, (pagedServer.clean 1).wholeSnapshot (clientOf pagedServer 1), found, ?_, histories,
    fun payload written => ?_⟩
  · rw [stream, ← session]
    exact congrArg _ (if_pos takes)
  · rw [← session] at written
    exact (sent.2.2.1 payload written).1

end Ckmux
