import Mathlib
import Ckmux.Client.Fetching
import Ckmux.Server.Carrying

/-!
# Print jobs fetched

A reader asks for jobs, of whatever terminals and as often as it likes; the server says the chunks of
each answer one behind the other, and whatever else it has to say before and after. What the reader
then holds of a job is its text as it was when it was asked for.
-/

namespace Ckmux

open Grammar (Bytes)
open Proto (Message typeOf)
open Semantics (System)

/-! ### What the server says -/

/-- No chunk is larger than a chunk may be. -/
theorem printJobData_small {term : TerminalId} {held : HeldJob} {chunk : Proto.PrintJobData}
    (among : chunk ∈ printJobData term held) : chunk.bytes.length ≤ kPrintChunk := by
  rw [printJobData_eq] at among
  obtain ⟨index, _, rfl⟩ := List.mem_map.mp among
  exact List.length_take_le _ _

/-- A message with a blob can be said where the blob leaves room for the rest. -/
theorem Proto.blob_framed {message : Message} {field : Proto.BlobField}
    (carries : message.blob = some field)
    (within : field.around + field.bytes.length ≤ Proto.payloadCap (typeOf message)) :
    Proto.encode message ≠ [] := by
  obtain ⟨payload, written⟩ := Proto.Message.blob_written carries (by
    have cap := Proto.payloadCap_le (typeOf message)
    unfold Proto.kMaxSnapshotPayloadBytes at cap
    omega)
  have sized := Proto.Message.blob_occupies carries payload written
  rw [Proto.encode_of_write written (sized.le.trans within)]
  intro empty
  have lengths := congrArg List.length empty
  rw [List.length_append, Proto.header_length] at lengths
  simp [Proto.kHeaderBytes] at lengths

/-- Every chunk fits its frame. -/
theorem printJobData_framed {term : TerminalId} {held : HeldJob} {chunk : Proto.PrintJobData}
    (among : chunk ∈ printJobData term held) : Proto.encode (.printJobData chunk) ≠ [] := by
  refine @Proto.blob_framed (.printJobData chunk) ⟨chunk.bytes, Proto.kMaxChunkPayloadBytes, 25⟩ rfl ?_
  have small := printJobData_small among
  have room : 25 + kPrintChunk ≤ Proto.payloadCap .printJobData := by decide
  exact (Nat.add_le_add_left small 25).trans room

namespace Server

variable {server : Server} {id : ClientId} {client : Client}

/-- A message is on the connection, or the connection takes nothing more. -/
theorem tell_sent (found : server.client id = some client) {message : Message}
    (framed : Proto.encode message ≠ []) :
    ∃ told, (server.tell id message).client id = some told ∧
      (client.gone = false ∧ told.stream.sent = client.stream.sent ++ [message] ∨
        told.gone = true ∧ told.stream.sent = client.stream.sent) := by
  have heard : (server.setClient id (Client.hear message)).client id =
      some (client.hear message) := setClient_found found (Client.Told.hear message).id
  have unframed : ¬(Proto.encode message).isEmpty := by simpa using framed
  unfold Server.tell Server.deliver
  rw [found]
  dsimp only
  by_cases shut : client.stream.isOpen = true
  · rw [if_neg (not_not.mpr shut), if_neg unframed]
    by_cases full : client.stream.queued + (Proto.encode message).length > kHardLimitBytes
    · rw [if_pos full, Server.drop, heard]
      dsimp only
      exact ⟨_, setClient_found heard fun _ => rfl, .inr ⟨rfl, by simp [Client.close]⟩⟩
    · rw [if_neg full, Server.queue]
      refine ⟨_, setClient_found heard (by exact fun _ => rfl), ?_⟩
      dsimp only [Client.gone]
      rw [Client.stream_hear, shut]
      unfold Socket.send
      cases failed : client.stream.writeFailed with
      | true => exact .inr ⟨by simp [failed, shut], by simp⟩
      | false =>
          generalize (server.setClient id (Client.hear message)).kernel _ = taken
          cases taken with
          | none => exact .inr ⟨by simp, by simp⟩
          | some bytes => exact .inl ⟨by simp, by simp⟩
  · rw [if_pos shut]
    exact ⟨client, found, .inr ⟨by simp [Client.gone, Bool.eq_false_of_not_eq_true shut], rfl⟩⟩

/-- A connection that takes nothing more is sent nothing more. -/
theorem tellAll_gone (found : server.client id = some client) (gone : client.gone = true)
    (messages : List Message) (framed : ∀ message ∈ messages, Proto.encode message ≠ []) :
    ∃ told, (messages.foldl (fun server message => server.tell id message) server).client id =
        some told ∧ told.gone = true ∧ told.stream.sent = client.stream.sent := by
  induction messages generalizing server client with
  | nil => exact ⟨client, found, gone, rfl⟩
  | cons message messages ih =>
      obtain ⟨told, there, next⟩ := tell_sent found (framed message List.mem_cons_self)
      obtain ⟨still, same⟩ :=
        next.resolve_left fun fine => Bool.false_ne_true (fine.1.symm.trans gone)
      obtain ⟨last, kept, after, sent⟩ :=
        ih there still fun each among => framed each (List.mem_cons_of_mem _ among)
      exact ⟨last, kept, after, sent.trans same⟩

/-- Of some messages the first ones are on the connection, all of them unless it takes nothing
more. -/
theorem tellAll_sent (found : server.client id = some client) (messages : List Message)
    (framed : ∀ message ∈ messages, Proto.encode message ≠ []) :
    ∃ told taken, (messages.foldl (fun server message => server.tell id message) server).client id =
        some told ∧
      taken <+: messages ∧ told.stream.sent = client.stream.sent ++ taken ∧
      (taken = messages ∨ told.gone = true) := by
  induction messages generalizing server client with
  | nil => exact ⟨client, [], found, List.prefix_rfl, (List.append_nil _).symm, .inl rfl⟩
  | cons message messages ih =>
      have later := fun each among => framed each (List.mem_cons_of_mem message among)
      obtain ⟨told, there, next⟩ := tell_sent found (framed message List.mem_cons_self)
      rcases next with ⟨_, told_eq⟩ | ⟨gone, told_eq⟩
      · obtain ⟨last, taken, kept, first, sent, whole⟩ := ih there later
        refine ⟨last, message :: taken, kept, (List.prefix_cons_inj _).mpr first, ?_, ?_⟩
        · rw [sent, told_eq, List.append_assoc, List.singleton_append]
        · exact whole.imp_left fun all => by rw [all]
      · obtain ⟨last, kept, after, sent⟩ := tellAll_gone there gone messages later
        exact ⟨last, [], kept, List.nil_prefix, by rw [sent, told_eq, List.append_nil], .inr after⟩

/-- A fetch of a job there is says the job's chunks. -/
theorem printJobFetch_eq (id : ClientId) {request : Proto.PrintJobFetch} {terminal : Terminal}
    {held : HeldJob} (known : server.terminal request.term = some terminal)
    (holds : terminal.printJob request.job = some held) :
    server.printJobFetch id request = server.sendChunks id (printJobData request.term held) := by
  unfold Server.printJobFetch
  rw [known]
  dsimp only
  rw [holds]

/-- A fetch is answered by the job's chunks one behind the other, with nothing between them, as far
as the connection takes them. -/
theorem printJobFetch_sent (found : server.client id = some client)
    {request : Proto.PrintJobFetch} {terminal : Terminal} {held : HeldJob}
    (known : server.terminal request.term = some terminal)
    (holds : terminal.printJob request.job = some held) :
    ∃ told taken, (server.printJobFetch id request).client id = some told ∧
      taken <+: (printJobData request.term held).map .printJobData ∧
      told.stream.sent = client.stream.sent ++ taken ∧
      (taken = (printJobData request.term held).map .printJobData ∨ told.gone = true) ∧
      client.Mutes told := by
  obtain ⟨told, taken, there, first, sent, whole⟩ :=
    tellAll_sent found ((printJobData request.term held).map .printJobData) (by
      intro message among
      obtain ⟨chunk, listed, rfl⟩ := List.mem_map.mp among
      exact printJobData_framed listed)
  rw [List.foldl_map] at there
  obtain ⟨other, again, mutes⟩ :=
    (Tells.sendChunks server id (printJobData request.term held)).mute id client found
  obtain rfl : told = other := Option.some.inj (there.symm.trans again)
  rw [printJobFetch_eq id known holds]
  exact ⟨told, taken, there, first, sent, whole, mutes⟩

end Server

/-! ### Answer by answer -/

/-- What is said at once. -/
inductive Said where
  | answer (term : TerminalId) (held : HeldJob)
  | other (message : Message)

/-- What was said, message by message. -/
def Said.messages : Said → List Message
  | .answer term held => (printJobData term held).map .printJobData
  | .other message => [message]

/-- Whether nothing but answers has chunks. -/
def PlainlySaid (said : List Said) : Prop :=
  ∀ message, .other message ∈ said → Plain message

/-- Where a text comes from: an answer that arrived whole, unless the job was given up meanwhile. -/
def TextAccounted (said : List Said) (history : List PrintEvent) (term : TerminalId) (job : UInt64)
    (text : Bytes) : Prop :=
  ∃ earlier held later first during rest, said = earlier ++ .answer term held :: later ∧
    history = first ++ during ++ rest ∧ arrivals first = earlier.flatMap Said.messages ∧
    arrivals during = (printJobData term held).map .printJobData ∧ held.id = job ∧
    (text = held.text ∨ text <:+ held.text ∧ PrintReader.GivenUpAmid term job during)

/-- A text that is accounted for stays so when more is said and more happens. -/
theorem TextAccounted.more {said : List Said} {history : List PrintEvent} {term : TerminalId}
    {job : UInt64} {text : Bytes} (accounted : TextAccounted said history term job text)
    (further : List Said) (events : List PrintEvent) :
    TextAccounted (said ++ further) (history ++ events) term job text := by
  obtain ⟨earlier, held, later, first, during, rest, rfl, rfl, began, came, same, whole⟩ := accounted
  exact ⟨earlier, held, later ++ further, first, during, rest ++ events, by simp, by simp, began,
    came, same, whole⟩

/-- Messages that are the first of some are those of the first units and some of the next one's. -/
theorem units_before {said : List Said} {taken : List Message}
    (first : taken <+: said.flatMap Said.messages) :
    ∃ done rest partly, said = done ++ rest ∧ taken = done.flatMap Said.messages ++ partly ∧
      (partly = [] ∨ ∃ unit later, rest = unit :: later ∧ partly <+: unit.messages ∧
        partly ≠ unit.messages) := by
  induction said generalizing taken with
  | nil => exact ⟨[], [], [], rfl, List.prefix_nil.mp first, .inl rfl⟩
  | cons unit said ih =>
      rw [List.flatMap_cons] at first
      rcases List.prefix_or_prefix_of_prefix first (List.prefix_append _ _) with within | ⟨more, rfl⟩
      · by_cases whole : taken = unit.messages
        · exact ⟨[unit], said, [], rfl, by simp [whole], .inl rfl⟩
        · exact ⟨[], unit :: said, taken, rfl, rfl, .inr ⟨unit, said, rfl, within, whole⟩⟩
      · have beyond := (List.prefix_append_right_inj _).mp first
        obtain ⟨done, rest, partly, rfl, rfl, open_⟩ := ih beyond
        exact ⟨unit :: done, rest, partly, rfl, by simp, open_⟩

/-- Where the arrivals can be cut, so can the events. -/
theorem arrivals_cut {events : List PrintEvent} {before after : List Message}
    (arrived : arrivals events = before ++ after) :
    ∃ first rest, events = first ++ rest ∧ arrivals first = before ∧ arrivals rest = after :=
  List.filterMap_eq_append_iff.mp arrived

section

variable [CkVision]

open PrintReader (Clean Present)

/-- Where a client has heard whole answers only, nothing is half fetched and every text is
accounted for. -/
theorem texts_settled {start : PrintReader} (clean : Clean start)
    (none : ∀ term job, start.printJobText term job = none) (said : List Said) (plain : PlainlySaid said)
    (history : List PrintEvent) (stays : .own .lost ∉ history)
    (arrived : arrivals history = said.flatMap Said.messages) :
    Clean (history.foldl PrintReader.step start) ∧
      ∀ term job text, (history.foldl PrintReader.step start).printJobText term job = some text →
        TextAccounted said history term job text := by
  induction said using List.reverseRecOn generalizing history with
  | nil =>
      have shrinks := PrintReader.shrinks_all start history (by simp [arrived])
      refine ⟨clean.shrink shrinks, fun term job text held => ?_⟩
      exact absurd (shrinks.fetched _ _ _ held) (by simp [none])
  | append_singleton said unit ih =>
      rw [List.flatMap_append] at arrived
      obtain ⟨first, rest, rfl, first_eq, rest_eq⟩ := arrivals_cut arrived
      rw [List.flatMap_singleton] at rest_eq
      obtain ⟨before, accounts⟩ := ih (fun message among => plain message (List.mem_append_left _ among))
        first (fun among => stays (List.mem_append_left _ among)) first_eq
      rw [List.foldl_append]
      have kept : .own .lost ∉ rest := fun among => stays (List.mem_append_right _ among)
      cases unit with
      | other message =>
          have kind := plain message (by simp)
          have shrinks := PrintReader.shrinks_all (first.foldl PrintReader.step start) rest (by
            rw [rest_eq]
            simpa [Said.messages, Plain] using kind)
          refine ⟨before.shrink shrinks, fun term job text held => ?_⟩
          exact (accounts _ _ _ (shrinks.fetched _ _ _ held)).more _ _
      | answer term held =>
          obtain ⟨clear, fresh, _⟩ := PrintReader.answered _ before term held rest kept rest_eq
          refine ⟨clear, fun other job text there => ?_⟩
          rcases fresh other job text there with old | ⟨⟨rfl, rfl⟩, whole⟩
          · exact (accounts _ _ _ old).more _ _
          · exact ⟨said, held, [], first, rest, [], rfl, by simp, first_eq, rest_eq, rfl, whole⟩

/-- What a text is accounted for by while more chunks are on their way. -/
theorem texts_partly_settled {start : PrintReader} (clean : Clean start)
    (none : ∀ term job, start.printJobText term job = none) (said : List Said) (plain : PlainlySaid said)
    (history : List PrintEvent) (stays : .own .lost ∉ history)
    (arrived : arrivals history <+: said.flatMap Said.messages) (term : TerminalId) (job : UInt64)
    (text : Bytes) (held : (history.foldl PrintReader.step start).printJobText term job = some text) :
    TextAccounted said history term job text := by
  obtain ⟨done, later, partly, rfl, taken, open_⟩ := units_before arrived
  obtain ⟨first, rest, rfl, first_eq, rest_eq⟩ := arrivals_cut taken
  obtain ⟨_, accounts⟩ := texts_settled clean none done
    (fun message among => plain message (List.mem_append_left _ among)) first
    (fun among => stays (List.mem_append_left _ among)) first_eq
  rw [List.foldl_append] at held
  refine (accounts term job text (PrintReader.old_texts _ rest (fun chunk among => ?_) held)).more _ _
  rw [rest_eq] at among
  rcases open_ with rfl | ⟨unit, further, rfl, within, unfinished⟩
  · cases among
  · cases unit with
    | other message =>
        rcases (@List.prefix_concat_iff _ _ [] _).mp within with whole | none_
        · exact absurd whole unfinished
        · rw [List.prefix_nil.mp none_] at among
          cases among
    | answer term held =>
        obtain ⟨_, _, going, last, cut, unmarked, _⟩ := (printJobData_chunked term held).cut
        rw [Said.messages, cut, List.map_append, List.map_singleton] at within unfinished
        have short := (List.prefix_concat_iff.mp within).resolve_left unfinished
        obtain ⟨each, listed, same⟩ := List.mem_map.mp (short.subset among)
        injection same with same
        exact same ▸ unmarked each listed

end

/-! ### A server and one of its readers -/

/-- A server and one reader of it. `id` is the number of the connection the reader has, `wire` is what
has been put on it, and `history` is what the reader did and heard since it was made; `start` is what
the reader was then. -/
structure PrintExchange where
  server : Server
  id : ClientId
  wire : List Message
  start : PrintReader
  history : List PrintEvent

/-- What goes on between them. The server may do anything else for anybody else. -/
inductive ExchangeEvent where
  | serve (event : ServerEvent)
  | deliver
  | act (event : PrintEvent)
  | reconnect

namespace PrintExchange

section

variable [CkVision] [Emulator] (exchange : PrintExchange)

omit [Emulator] in
/-- The reader after all that has happened to it. -/
def reader : PrintReader := exchange.history.foldl PrintReader.step exchange.start

/-- A step of the server. What it put on a connection that it has forgotten is still on its way. -/
def serve (event : ServerEvent) : PrintExchange :=
  let server := exchange.server.step event
  { exchange with
    server := server
    wire := ((server.client exchange.id).map fun client => client.stream.sent).getD exchange.wire }

omit [CkVision] [Emulator] in
/-- The next of what is on the connection, heard. -/
def deliver : PrintExchange :=
  match exchange.wire.drop (arrivals exchange.history).length with
  | [] => exchange
  | message :: _ => { exchange with history := exchange.history ++ [.own (.hear message)] }

/-- The connection lost, and another one made. -/
def reconnect : PrintExchange where
  server := exchange.server.step .connect
  id := exchange.server.nextClient
  wire := []
  start := exchange.reader.step (.own .lost)
  history := []

/-- The exchange after one event. -/
def step (exchange : PrintExchange) : ExchangeEvent → PrintExchange
  | .serve event => exchange.serve event
  | .deliver => exchange.deliver
  | .act event => { exchange with history := exchange.history ++ [event] }
  | .reconnect => exchange.reconnect

/-- Any server, of which the reader knows nothing yet. What the reader does of itself it may do at any
time, whether the server has heard it or not. -/
def system : System PrintExchange ExchangeEvent where
  initial exchange := serverSystem.initial exchange.server ∧ exchange.id = 0 ∧
    exchange.wire = [] ∧ exchange.history = [] ∧ exchange.start.session.terminals = [] ∧
    exchange.start.buffers = fun _ => {}
  allows exchange
    | .serve event => serverSystem.allows exchange.server event
    | .act event => event.arrival = none ∧ event ≠ .own .lost
    | .deliver | .reconnect => True
  step := step

instance (exchange : PrintExchange) : ∀ event, Decidable (system.allows exchange event)
  | .serve event => inferInstanceAs (Decidable (serverSystem.allows exchange.server event))
  | .act (.own (.hear _)) => .isFalse fun allowed => nomatch allowed.1
  | .act (.own .lost) => .isFalse fun allowed => allowed.2 rfl
  | .act (.own .heal) | .act (.own (.switchTo ..)) | .act (.own (.setReaderMode ..))
  | .act (.own (.paste ..)) | .act (.own (.desktopResized ..)) | .act (.own (.reportLayout _))
  | .act (.own (.watchStats _)) | .act (.own (.capabilities _)) | .act (.own .leave)
  | .act (.own (.say _)) | .act (.forget ..) => .isTrue ⟨rfl, nofun⟩
  | .deliver | .reconnect => .isTrue trivial

end

/-- Whether the connection takes nothing more. -/
def Cut (exchange : PrintExchange) : Prop :=
  ∀ client, exchange.server.client exchange.id = some client → client.gone = true

/-- What answers a fetch. -/
def answer (request : Proto.PrintJobFetch) (held : HeldJob) : List Message :=
  (printJobData request.term held).map .printJobData

/-- A fetch, in a run of events, that the server carried out on the connection the reader still has:
the job it asks for as it was held then, and what was on the connection before. -/
def Fetched [CkVision] [Emulator] (start : PrintExchange) (events : List ExchangeEvent)
    (earlier : List Message) (request : Proto.PrintJobFetch) (held : HeldJob) : Prop :=
  ∃ before event after, events = before ++ .serve event :: after ∧ .reconnect ∉ after ∧
    (before.foldl system.step start).wire = earlier ∧
    (before.foldl system.step start).server.Fetches event (before.foldl system.step start).id
      request held

/-- What has been delivered, cut at an answer: what the reader did and heard before it, and what while
it came. -/
def Delivers (exchange : PrintExchange) (earlier messages : List Message)
    (first during : List PrintEvent) : Prop :=
  ∃ rest, exchange.history = first ++ during ++ rest ∧ arrivals first = earlier ∧
    arrivals during = messages

/-! ### One step -/

/-- What holds of an exchange in every run. -/
structure Joined [CkVision] (exchange : PrintExchange) : Prop where
  sound : exchange.server.Sound
  known : exchange.id < exchange.server.nextClient
  sent : ∀ client, exchange.server.client exchange.id = some client →
    exchange.wire = client.stream.sent
  clean : PrintReader.Clean exchange.start
  none : ∀ term job, exchange.start.printJobText term job = none
  stays : .own .lost ∉ exchange.history
  heard : arrivals exchange.history <+: exchange.wire

/-- What becomes of an exchange on one connection: more is put on it, and nothing once it takes
nothing more. -/
structure Onward (before after : PrintExchange) : Prop where
  start : after.start = before.start
  wire : before.wire <+: after.wire
  cut : before.Cut → after.Cut ∧ after.wire = before.wire

variable {exchange before middle after : PrintExchange}

/-- Nothing has gone on yet. -/
theorem Onward.refl (exchange : PrintExchange) : Onward exchange exchange :=
  ⟨rfl, List.prefix_rfl, fun cut => ⟨cut, rfl⟩⟩

/-- What has gone on goes on. -/
theorem Onward.trans (first : Onward before middle) (second : Onward middle after) :
    Onward before after where
  start := second.start.trans first.start
  wire := first.wire.trans second.wire
  cut cut := by
    obtain ⟨still, same⟩ := first.cut cut
    obtain ⟨yet, again⟩ := second.cut still
    exact ⟨yet, again.trans same⟩

section

variable [CkVision] [Emulator]

/-- At the start the two ends are joined. -/
theorem Joined.initial (valid : system.initial exchange) : exchange.Joined := by
  obtain ⟨⟨settings, kernel, now, made⟩, number, silent, idle, _, empty⟩ := valid
  have nobody : exchange.server.clients = [] := by rw [made]
  refine ⟨Server.reachable_sound (.start ⟨settings, kernel, now, made⟩), ?_, fun client found => ?_,
    fun term job => ?_, fun term job => ?_, ?_, ?_⟩
  · rw [number, made]
    exact Nat.zero_lt_one
  · have there := Server.client_mem found
    rw [nobody] at there
    cases there
  · rw [empty]
  · rw [PrintReader.printJobText, empty]
  · rw [idle]
    exact List.not_mem_nil
  · rw [idle]
    exact List.nil_prefix

/-- What a step of the server puts on the connection. -/
structure Serves (exchange : PrintExchange) (event : ServerEvent) (taken : List Message) : Prop where
  wire : (exchange.serve event).wire = exchange.wire ++ taken
  numbers : exchange.server.nextClient ≤ (exchange.serve event).server.nextClient
  cut : exchange.Cut → (exchange.serve event).Cut ∧ taken = []
  fetched : ∀ request held, exchange.server.Fetches event exchange.id request held →
    taken <+: answer request held ∧ (taken = answer request held ∨ (exchange.serve event).Cut)
  plain : (∀ request held, ¬exchange.server.Fetches event exchange.id request held) →
    ∀ message ∈ taken, Plain message

/-- A client that fetches a job is sent it, as far as its connection takes it. -/
theorem Joined.fetches (joined : exchange.Joined) {event : ServerEvent}
    {request : Proto.PrintJobFetch} {held : HeldJob}
    (fetches : exchange.server.Fetches event exchange.id request held) :
    ∃ taken, exchange.Serves event taken := by
  obtain ⟨asks, terminal, known, holds⟩ := fetches
  obtain ⟨client, found, _⟩ := asks.2
  have acts : exchange.server.step event = exchange.server.printJobFetch exchange.id request :=
    Server.step_of_asks asks
  obtain ⟨told, taken, there, first, sent, whole, mutes⟩ :=
    Server.printJobFetch_sent found known holds
  rw [← acts] at there
  have wire : (exchange.serve event).wire = exchange.wire ++ taken := by
    rw [joined.sent client found, ← sent, serve, there]
    rfl
  have only (gone : told.gone = true) : (exchange.serve event).Cut := by
    intro other again
    obtain rfl : told = other := Option.some.inj (there.symm.trans again)
    exact gone
  refine ⟨taken, wire, ?_, fun cut => ?_, fun other job again => ?_, fun idle => ?_⟩
  · have same := congrArg Server.Untold.nextClient (Server.Tells.sendChunks exchange.server
      exchange.id (printJobData request.term held)).rest
    rw [← Server.printJobFetch_eq exchange.id known holds, ← acts] at same
    exact same.ge
  · obtain ⟨gone, silent⟩ := mutes (cut client found)
    refine ⟨only gone, ?_⟩
    rw [sent] at silent
    simpa using silent
  · obtain ⟨⟨same, _⟩, another, knows, has⟩ := again
    injection asks.1.symm.trans same with _ requests
    injection requests with requests
    subst requests
    obtain rfl : terminal = another := Option.some.inj (known.symm.trans knows)
    obtain rfl : held = job := Option.some.inj (holds.symm.trans has)
    exact ⟨first, whole.imp_right only⟩
  · exact absurd ⟨asks, terminal, known, holds⟩ (idle request held)

/-- Every event of the server puts something on the connection, if only nothing. -/
theorem Joined.serves (joined : exchange.Joined) (event : ServerEvent) :
    ∃ taken, exchange.Serves event taken := by
  by_cases fetches : ∃ request held, exchange.server.Fetches event exchange.id request held
  · obtain ⟨request, held, fetches⟩ := fetches
    exact joined.fetches fetches
  · push Not at fetches
    have carries := Server.step_carries joined.sound fetches
    cases found : (exchange.server.step event).client exchange.id with
    | none =>
        refine ⟨[], ?_, carries.numbers, fun _ => ⟨fun client there => ?_, rfl⟩, fun request held asks => ?_, fun _ _ among => ?_⟩
        · rw [serve, found, List.append_nil]
          rfl
        · exact absurd (found.symm.trans there) nofun
        · exact absurd asks (fetches request held)
        · cases among
    | some later =>
        obtain ⟨client, here, ⟨fresh, sent, plain⟩, mutes⟩ := carries.carried joined.known later found
        refine ⟨fresh, ?_, carries.numbers, fun cut => ?_, fun request held asks => ?_, fun _ => plain⟩
        · rw [serve, found, joined.sent client here, ← sent]
          rfl
        · obtain ⟨gone, silent⟩ := mutes (cut client here)
          refine ⟨fun other there => ?_, ?_⟩
          · obtain rfl : later = other := Option.some.inj (found.symm.trans there)
            exact gone
          · rw [sent] at silent
            simpa using silent
        · exact absurd asks (fetches request held)

omit [Emulator] in
/-- A connection that is gone takes its mirrors with it. -/
theorem lost_buffers (reader : PrintReader) (term : TerminalId) :
    (reader.step (.own .lost)).buffers term = {} := rfl

omit [CkVision] [Emulator] in
/-- What is delivered is the next of what is on the connection. -/
theorem deliver_heard (heard : arrivals exchange.history <+: exchange.wire) :
    arrivals exchange.deliver.history <+: exchange.wire := by
  unfold deliver
  split
  · exact heard
  · rename_i message later next
    obtain ⟨rest, split⟩ := heard
    rw [← split, List.drop_left] at next
    dsimp only
    rw [arrivals_append, arrivals_hear]
    refine ⟨later, ?_⟩
    rw [List.append_assoc, List.singleton_append, ← next]
    exact split

omit [CkVision] [Emulator] in
/-- A delivery changes the reader alone. -/
theorem deliver_same : exchange.deliver.server = exchange.server ∧ exchange.deliver.id = exchange.id ∧
    exchange.deliver.wire = exchange.wire ∧ exchange.deliver.start = exchange.start := by
  unfold deliver
  split <;> exact ⟨rfl, rfl, rfl, rfl⟩

/-- Every event keeps the ends joined. -/
theorem Joined.step (joined : exchange.Joined) {event : ExchangeEvent}
    (allowed : system.allows exchange event) : (system.step exchange event).Joined := by
  cases event with
  | serve event =>
      obtain ⟨taken, serves⟩ := joined.serves event
      refine ⟨joined.sound.step event allowed, joined.known.trans_le serves.numbers,
        fun client found => ?_, joined.clean, joined.none, joined.stays, ?_⟩
      · change Option.getD _ _ = _
        have there : (exchange.server.step event).client exchange.id = some client := found
        rw [there]
        rfl
      · have heard := joined.heard.trans (List.prefix_append exchange.wire taken)
        rw [← serves.wire] at heard
        exact heard
  | deliver =>
      obtain ⟨server, id, wire, start⟩ := @deliver_same exchange
      have heard := deliver_heard joined.heard
      change exchange.deliver.Joined
      refine ⟨server ▸ joined.sound, ?_, ?_, start ▸ joined.clean, ?_, ?_, wire.symm ▸ heard⟩
      · rw [server, id]
        exact joined.known
      · rw [server, id, wire]
        exact joined.sent
      · rw [start]
        exact joined.none
      · unfold PrintExchange.deliver
        split
        · exact joined.stays
        · simp [joined.stays]
  | act event =>
      obtain ⟨silent, keeps⟩ := allowed
      refine ⟨joined.sound, joined.known, joined.sent, joined.clean, joined.none, fun among => ?_, ?_⟩
      · rcases List.mem_append.mp among with before | now
        · exact joined.stays before
        · exact keeps (List.mem_singleton.mp now).symm
      · change arrivals (exchange.history ++ [event]) <+: exchange.wire
        have none_ : arrivals [event] = [] := by
          rw [arrivals, List.filterMap_cons, silent]
          rfl
        rw [arrivals_append, none_, List.append_nil]
        exact joined.heard
  | reconnect =>
      refine ⟨joined.sound.connect, Nat.lt_succ_self _, fun client found => ?_, fun term job => ?_,
        fun term job => ?_, List.not_mem_nil, List.nil_prefix⟩
      · have there := Server.client_mem found
        rcases List.mem_append.mp there with was | new
        · exact absurd (Server.client_id found) (joined.sound.fresh client was).ne
        · rw [List.mem_singleton.mp new]
          rfl
      · exact congrArg (fun buffers : PrintBuffers => buffers.fetching job) (lost_buffers _ term)
      · exact congrArg (fun buffers : PrintBuffers => buffers.fetched job) (lost_buffers _ term)

/-- In every run the ends are joined. -/
theorem joined (reached : system.Reachable exchange) : exchange.Joined :=
  reached.invariant (fun _ valid => .initial valid) fun _ _ joined allowed => joined.step allowed

/-- What one event does on the connection there is. -/
theorem Joined.onward (joined : exchange.Joined) {event : ExchangeEvent}
    (keeps : event ≠ .reconnect) : Onward exchange (system.step exchange event) := by
  cases event with
  | serve event =>
      obtain ⟨taken, serves⟩ := joined.serves event
      refine ⟨rfl, ?_, fun cut => ?_⟩
      · exact serves.wire ▸ List.prefix_append _ _
      · obtain ⟨still, nothing⟩ := serves.cut cut
        exact ⟨still, by rw [show (system.step exchange (.serve event)).wire = _ from serves.wire,
          nothing, List.append_nil]⟩
  | deliver =>
      obtain ⟨server, id, wire, start⟩ := @deliver_same exchange
      refine ⟨start, wire.symm ▸ List.prefix_rfl, fun cut => ⟨?_, wire⟩⟩
      change exchange.deliver.Cut
      rw [Cut, server, id]
      exact cut
  | act event => exact ⟨rfl, List.prefix_rfl, fun cut => ⟨cut, rfl⟩⟩
  | reconnect => exact absurd rfl keeps

/-- What goes on while the reader keeps its connection. -/
theorem onward_run (reached : system.Reachable exchange) (events : List ExchangeEvent)
    (allowed : system.AllowsAll exchange events) (keeps : .reconnect ∉ events) :
    Onward exchange (events.foldl system.step exchange) := by
  induction events generalizing exchange with
  | nil => exact .refl exchange
  | cons event events ih =>
      rw [List.mem_cons, not_or] at keeps
      have first := (joined reached).onward (Ne.symm keeps.1)
      exact first.trans (ih (reached.next allowed.1) allowed.2 keeps.2)

end

/-! ### Whole runs -/

section

variable [CkVision] [Emulator] {start : PrintExchange} {events : List ExchangeEvent}
variable {earlier : List Message} {request : Proto.PrintJobFetch} {held : HeldJob}

omit [CkVision] [Emulator] in
/-- The job a fetch asks for has the number it asks for. -/
theorem fetches_job {server : Server} {event : ServerEvent} {id : ClientId}
    (fetches : server.Fetches event id request held) : held.id = request.job := by
  obtain ⟨_, terminal, _, holds⟩ := fetches
  exact of_decide_eq_true (List.find?_some (p := fun job : HeldJob => job.id = request.job) holds)

/-- A fetch stays one of this connection until there is another. -/
theorem Fetched.more (fetched : Fetched start events earlier request held) {event : ExchangeEvent}
    (keeps : event ≠ .reconnect) : Fetched start (events ++ [event]) earlier request held := by
  obtain ⟨before, asks, after, rfl, kept, wire, fetches⟩ := fetched
  refine ⟨before, asks, after ++ [event], by simp, fun among => ?_, wire, fetches⟩
  rcases List.mem_append.mp among with was | now
  · exact kept was
  · exact keeps (List.mem_singleton.mp now).symm

/-- What is on the connection, unit by unit. Each answer is that of a fetch in the run, and all units
are whole unless the connection takes nothing more. -/
structure Followed (start : PrintExchange) (events : List ExchangeEvent) (exchange : PrintExchange)
    (said : List Said) : Prop where
  plain : PlainlySaid said
  wire : exchange.wire <+: said.flatMap Said.messages
  whole : exchange.wire = said.flatMap Said.messages ∨ exchange.Cut
  answers : ∀ earlier term held later, said = earlier ++ .answer term held :: later →
    ∃ request, request.term = term ∧ request.job = held.id ∧
      Fetched start events (earlier.flatMap Said.messages) request held

omit [CkVision] [Emulator] in
/-- An answer among units is one of the first ones or one of those behind them. -/
theorem answer_among {said more before later : List Said} {term : TerminalId} {held : HeldJob}
    (split : said ++ more = before ++ .answer term held :: later) :
    (∃ rest, said = before ++ .answer term held :: rest) ∨
      ∃ between, before = said ++ between ∧ more = between ++ .answer term held :: later := by
  rcases List.append_eq_append_iff.mp split with ⟨between, behind, same⟩ | ⟨rest, same, behind⟩
  · exact .inr ⟨between, behind, same⟩
  · cases rest with
    | nil => exact .inr ⟨[], by simpa using same.symm, by simpa using behind.symm⟩
    | cons unit rest =>
        injection behind with unit_eq rest_eq
        exact .inl ⟨rest, unit_eq ▸ same⟩

/-- Where nothing is put on the connection, what is on it is what was on it. -/
theorem Followed.still {said : List Said} (followed : Followed start events exchange said)
    {event : ExchangeEvent} (keeps : event ≠ .reconnect) (wire : after.wire = exchange.wire)
    (cut : exchange.Cut → after.Cut) : Followed start (events ++ [event]) after said where
  plain := followed.plain
  wire := wire.symm ▸ followed.wire
  whole := followed.whole.imp wire.trans cut
  answers before term held later split := by
    obtain ⟨request, named, numbered, fetched⟩ := followed.answers before term held later split
    exact ⟨request, named, numbered, fetched.more keeps⟩

/-- More is put on a connection that takes it. -/
theorem Followed.grown {said more : List Said} (followed : Followed start events exchange said)
    {event : ExchangeEvent} (keeps : event ≠ .reconnect)
    (all : exchange.wire = said.flatMap Said.messages) {taken : List Message}
    (wire : after.wire = exchange.wire ++ taken) (plain : PlainlySaid more)
    (first : taken <+: more.flatMap Said.messages)
    (whole : taken = more.flatMap Said.messages ∨ after.Cut)
    (answers : ∀ between term held later, more = between ++ .answer term held :: later →
      ∃ request, request.term = term ∧ request.job = held.id ∧
        Fetched start (events ++ [event]) ((said ++ between).flatMap Said.messages) request held) :
    Followed start (events ++ [event]) after (said ++ more) where
  plain message among := (List.mem_append.mp among).elim (followed.plain message) (plain message)
  wire := by
    rw [wire, all, List.flatMap_append]
    exact (List.prefix_append_right_inj _).mpr first
  whole := by
    refine whole.imp_left fun same => ?_
    rw [wire, all, same, List.flatMap_append]
  answers before term held later split := by
    rcases answer_among split with ⟨rest, same⟩ | ⟨between, rfl, same⟩
    · obtain ⟨request, named, numbered, fetched⟩ := followed.answers before term held rest same
      exact ⟨request, named, numbered, fetched.more keeps⟩
    · exact answers between term held later same

/-- What the server says next is followed. -/
theorem Followed.serve {said : List Said} (followed : Followed start events exchange said)
    (run : system.Runs start events exchange) (event : ServerEvent) :
    ∃ said, Followed start (events ++ [.serve event]) (exchange.serve event) said := by
  obtain ⟨taken, serves⟩ := (joined ⟨start, events, run⟩).serves event
  have keeps : ExchangeEvent.serve event ≠ .reconnect := nofun
  by_cases cut : exchange.Cut
  · obtain ⟨still, nothing⟩ := serves.cut cut
    exact ⟨said, followed.still keeps (by rw [serves.wire, nothing, List.append_nil]) fun _ => still⟩
  have all := followed.whole.resolve_right cut
  by_cases fetches : ∃ request held, exchange.server.Fetches event exchange.id request held
  · obtain ⟨request, held, fetches⟩ := fetches
    obtain ⟨first, whole⟩ := serves.fetched request held fetches
    refine ⟨said ++ [.answer request.term held], followed.grown keeps all serves.wire ?_ ?_ ?_ ?_⟩
    · exact fun message among => nomatch List.mem_singleton.mp among
    · rwa [List.flatMap_singleton]
    · rwa [List.flatMap_singleton]
    · intro between term job later same
      obtain ⟨rfl, unit, rfl⟩ : between = [] ∧
          Said.answer request.term held = .answer term job ∧ later = [] := by
        cases between with
        | nil => exact ⟨rfl, (List.cons.inj same).1, (List.cons.inj same).2.symm⟩
        | cons unit between => simp at same
      injection unit with named job_eq
      subst job_eq
      refine ⟨request, named, (fetches_job fetches).symm, events, event, [], rfl, List.not_mem_nil, ?_, ?_⟩
      · rw [run.taken.2.2, List.append_nil]
        exact all
      · rw [run.taken.2.2]
        exact fetches
  · push Not at fetches
    have plain := serves.plain fetches
    refine ⟨said ++ taken.map .other, followed.grown keeps all serves.wire ?_ ?_ ?_ ?_⟩
    · intro message among
      obtain ⟨other, listed, same⟩ := List.mem_map.mp among
      injection same with same
      exact same ▸ plain other listed
    · rw [List.flatMap_map]
      exact (List.flatMap_singleton' taken).symm ▸ List.prefix_rfl
    · left
      rw [List.flatMap_map]
      exact (List.flatMap_singleton' taken).symm
    · intro between term job later same
      have among : Said.answer term job ∈ taken.map Said.other := by simp [same]
      obtain ⟨_, _, unit⟩ := List.mem_map.mp among
      cases unit

/-- Every run is followed by what was said in it. -/
theorem followed (run : system.Runs start events exchange) :
    ∃ said, Followed start events exchange said := by
  induction run with
  | initial valid =>
      obtain ⟨_, _, silent, _⟩ := valid
      refine ⟨[], fun _ among => absurd among List.not_mem_nil, ?_, .inl silent, fun _ _ _ _ none_ => ?_⟩
      · rw [silent]
        exact List.nil_prefix
      · simp at none_
  | @step exchange events event prior allowed ih =>
      obtain ⟨said, followed⟩ := ih
      cases event with
      | serve event => exact followed.serve prior event
      | deliver =>
          obtain ⟨server, id, wire, _⟩ := @deliver_same exchange
          refine ⟨said, followed.still nofun wire fun cut => ?_⟩
          change exchange.deliver.Cut
          rw [Cut, server, id]
          exact cut
      | act event => exact ⟨said, followed.still nofun rfl fun cut => cut⟩
      | reconnect =>
          refine ⟨[], fun _ among => absurd among List.not_mem_nil, List.nil_prefix, .inl rfl, ?_⟩
          exact fun _ _ _ _ none_ => by simp at none_

/-- A fetch in a run, and what has become of it. -/
theorem Fetched.onward (run : system.Runs start events exchange)
    (fetched : Fetched start events earlier request held) :
    ∃ there before taken, system.Runs start before there ∧ there.wire = earlier ∧
      exchange.start = there.start ∧ held.id = request.job ∧
      earlier ++ taken <+: exchange.wire ∧ taken <+: answer request held ∧
      (taken = answer request held ∨ exchange.Cut ∧ exchange.wire = earlier ++ taken) ∧
      (there.Cut → exchange.wire = earlier) := by
  obtain ⟨before, event, after, rfl, kept, wire, fetches⟩ := fetched
  obtain ⟨valid, allowed, ends⟩ := run.taken
  obtain ⟨early, now, late⟩ := System.AllowsAll.append.mp allowed
  rw [List.foldl_append, List.foldl_cons] at ends
  have begun : system.Runs start before (before.foldl system.step start) :=
    (System.Runs.initial valid).follow before early
  have reached : system.Reachable (before.foldl system.step start) := ⟨start, before, begun⟩
  obtain ⟨taken, serves⟩ := (joined reached).serves event
  obtain ⟨first, whole⟩ := serves.fetched request held fetches
  have further := onward_run (reached.next now) after late kept
  rw [ends] at further
  have served := serves.wire
  rw [wire] at served
  refine ⟨_, before, taken, begun, wire, further.start, fetches_job fetches, ?_, first, ?_, fun cut => ?_⟩
  · exact served ▸ further.wire
  · refine whole.imp_right fun cut => ?_
    obtain ⟨still, same⟩ := further.cut cut
    exact ⟨still, same.trans served⟩
  · obtain ⟨still, nothing⟩ := serves.cut cut
    rw [nothing, List.append_nil] at served
    exact (further.cut still).2.trans served

omit [CkVision] [Emulator] in
/-- There is always an answer. -/
theorem answer_ne_nil (request : Proto.PrintJobFetch) (held : HeldJob) :
    answer request held ≠ [] := by
  obtain ⟨_, _, going, last, cut, _⟩ := (printJobData_chunked request.term held).cut
  simp [answer, cut]

/-- In every run of a server and a reader of it, a print job arrives whole. Each fetch that the server
carries out is answered by the chunks of the job as it was held then, one behind the other and behind
what was on the connection before, all of them unless the connection takes nothing more. Where the
answer has been delivered and the reader has not given the job up meanwhile, the mirror that is there
returns exactly the job's text; and it never returns anything else, but what is left of a job given up
between two of its chunks. -/
theorem fetched_whole (run : system.Runs start events exchange) :
    (∀ earlier request held, Fetched start events earlier request held →
      (∃ taken, earlier ++ taken <+: exchange.wire ∧ taken <+: answer request held ∧
        (taken = answer request held ∨ exchange.Cut ∧ exchange.wire = earlier ++ taken)) ∧
      ∀ first during, exchange.Delivers earlier (answer request held) first during →
        (∀ event ∈ during, ¬event.Forgets request.term request.job) →
        PrintReader.Present ((first ++ during).foldl PrintReader.step exchange.start) request.term →
          ((first ++ during).foldl PrintReader.step exchange.start).printJobText request.term
            request.job = some held.text) ∧
    ∀ term job text, exchange.reader.printJobText term job = some text →
      ∃ earlier request held first during, Fetched start events earlier request held ∧
        request.term = term ∧ request.job = job ∧
        exchange.Delivers earlier (answer request held) first during ∧
        (text = held.text ∨
          text <:+ held.text ∧ PrintReader.GivenUpAmid term job during) := by
  have joint := joined ⟨start, events, run⟩
  refine ⟨fun earlier request held fetched => ?_, fun term job text there => ?_⟩
  · obtain ⟨there, before, taken, begun, wire, same, number, on, first, whole, shut⟩ :=
      fetched.onward run
    refine ⟨⟨taken, on, first, whole⟩, ?_⟩
    rintro first during ⟨rest, history, began, came⟩ keeps present
    have stays := joint.stays
    have heard := joint.heard
    rw [history, List.append_assoc] at stays
    rw [history, arrivals_append, arrivals_append, began, came] at heard
    obtain ⟨said, followed⟩ := followed begun
    -- An answer that has come was not put on a connection that took nothing more.
    have all : earlier = said.flatMap Said.messages := by
      refine wire.symm.trans (followed.whole.resolve_right fun cut => ?_)
      rw [shut cut, List.append_assoc] at heard
      have longer := heard.length_le
      have some_ := List.length_pos_iff.mpr (answer_ne_nil request held)
      simp only [List.length_append] at longer
      omega
    have before := (texts_settled joint.clean joint.none said followed.plain first
      (fun among => stays (List.mem_append_left _ among)) (began.trans all)).1
    rw [List.foldl_append] at present ⊢
    rw [← number] at keeps ⊢
    exact (PrintReader.answered _ before request.term held during
      (fun among => stays (List.mem_append_right _ (List.mem_append_left _ among))) came).2.2 keeps
      present
  · obtain ⟨said, followed⟩ := followed run
    obtain ⟨earlier, held, later, first, during, rest, split, history, began, came, same, whole⟩ :=
      texts_partly_settled joint.clean joint.none said followed.plain exchange.history
        joint.stays (joint.heard.trans followed.wire) term job text there
    obtain ⟨request, rfl, number, fetched⟩ := followed.answers earlier term held later split
    exact ⟨_, request, held, first, during, fetched, rfl, number.trans same,
      ⟨rest, history, began, came⟩, whole⟩

end

end PrintExchange

/-! ### A letter fetched -/

/-- The server's events happen to no reader. -/
@[simp] theorem PrintExchange.serve_history [CkVision] [Emulator] (exchange : PrintExchange)
    (event : ServerEvent) : (exchange.serve event).history = exchange.history := rfl

/-- The next of what is on the connection arrives. -/
theorem PrintExchange.deliver_next {exchange : PrintExchange} {message : Message}
    {rest : List Message} (next : exchange.wire = arrivals exchange.history ++ message :: rest) :
    exchange.deliver.history = exchange.history ++ [.own (.hear message)] := by
  unfold PrintExchange.deliver
  rw [next, List.drop_left]

/-- A server, and a reader that is not connected. -/
def freshExchange : PrintExchange where
  server := freshServer
  id := 0
  wire := []
  start := {}
  history := []

/-- A child that has printed a letter, and then a job with nothing in it. -/
def lettersPrinted : Program where
  printer := true
  printerJobs := [⟨.screen, [65], false⟩, ⟨.screen, [], false⟩]

/-- A reader connects and opens a terminal, whose child prints. It fetches the empty job, and has heard
all there is to hear. -/
def lettersBefore : List ExchangeEvent :=
  [.reconnect, .serve (.message 1 hello),
    .serve (.message 1 (.attach { attachTo .takeOver with session := 0 })),
    .serve (.message 1 (.newTerminal { rect := { width := 2, height := 1 } })),
    .serve (.output 1 {} lettersPrinted), .serve .tick, .serve (.message 1 (.printJobFetch ⟨1, 2⟩)),
    .deliver, .deliver, .deliver, .deliver, .deliver, .deliver, .deliver, .deliver]

/-- The fetch of the letter. -/
def letterFetch : ServerEvent := .message 1 (.printJobFetch ⟨1, 1⟩)

/-- Then it fetches the letter. -/
def letterEvents : List ExchangeEvent := lettersBefore ++ [.serve letterFetch, .deliver]

/-- The exchange before that fetch. -/
def lettersExchange : PrintExchange :=
  lettersBefore.foldl (@PrintExchange.system asciiVision blankEmulator).step freshExchange

/-- The exchange after it. -/
def letterExchange : PrintExchange :=
  letterEvents.foldl (@PrintExchange.system asciiVision blankEmulator).step freshExchange

/-- They are a run. -/
theorem letterEvents_allowed :
    (@PrintExchange.system asciiVision blankEmulator).AllowsAll freshExchange letterEvents := by
  decide +kernel

/-- The exchange comes of them. -/
theorem letterRun : (@PrintExchange.system asciiVision blankEmulator).Runs freshExchange
    letterEvents letterExchange := by
  have begun : (@PrintExchange.system asciiVision blankEmulator).Runs freshExchange []
      freshExchange := .initial ⟨⟨{}, _, 0, rfl⟩, rfl, rfl, rfl, rfl, rfl⟩
  exact begun.follow letterEvents letterEvents_allowed

/-- The exchange before the fetch is reached. -/
theorem lettersExchange_reached :
    (@PrintExchange.system asciiVision blankEmulator).Reachable lettersExchange := by
  have begun : (@PrintExchange.system asciiVision blankEmulator).Reachable freshExchange :=
    .start ⟨⟨{}, _, 0, rfl⟩, rfl, rfl, rfl, rfl, rfl⟩
  exact begun.follow lettersBefore (System.AllowsAll.append.mp letterEvents_allowed).1

/-- The job that is held by then. -/
def letterJob : HeldJob :=
  ((lettersExchange.server.terminal 1).bind fun terminal => terminal.printJob 1).getD
    { id := 0, kind := .screen, text := [], lines := 0, at_ := 0, overflowed := false }

/-- Where the letter is fetched: the reader is there, as somebody who may fetch, and has heard all that
was put on its connection; the letter is there, and makes one chunk. -/
theorem lettersExchange_there :
    (lettersExchange.id = 1 ∧ (lettersExchange.server.client 1).isSome = true ∧
      (clientOf lettersExchange.server 1).awaitingKillFromMismatchedCli = false ∧
      (clientOf lettersExchange.server 1).greeted = true ∧
      (clientOf lettersExchange.server 1).watching = false) ∧
    (arrivals lettersExchange.history).length = lettersExchange.wire.length ∧
    ((lettersExchange.server.terminal 1).bind fun terminal => terminal.printJob 1).isSome = true ∧
    letterJob.text = [65] ∧ (PrintExchange.answer ⟨1, 1⟩ letterJob).length = 1 := by
  decide +kernel

/-- The fetch is one of the letter. -/
theorem letterFetch_fetches :
    lettersExchange.server.Fetches letterFetch lettersExchange.id ⟨1, 1⟩ letterJob := by
  obtain ⟨⟨number, there, matched, greeted, free⟩, -, held, -⟩ := lettersExchange_there
  rw [number]
  refine ⟨⟨rfl, _, Server.eq_some_getD there _, matched, greeted, fun both => ?_⟩,
    Option.bind_eq_some_iff.mp (Server.eq_some_getD held _)⟩
  have watching : (clientOf lettersExchange.server 1).watching = true := both.1
  rw [free] at watching
  cases watching

/-- The letter said. -/
def letterServed : PrintExchange :=
  @PrintExchange.serve asciiVision blankEmulator lettersExchange letterFetch

/-- The reader's connection takes what it is sent. -/
theorem letterServed_takes : letterServed.id = 1 ∧ (letterServed.server.client 1).isSome = true ∧
    (clientOf letterServed.server 1).gone = false := by
  decide +kernel

/-- The connection goes on. -/
theorem letterServed_going : ¬letterServed.Cut := by
  intro cut
  obtain ⟨number, there, takes⟩ := letterServed_takes
  have shut := cut (clientOf letterServed.server 1) (number.symm ▸ Server.eq_some_getD there _)
  rw [takes] at shut
  cases shut

/-- What was said is delivered. -/
theorem letterExchange_eq : letterExchange = letterServed.deliver := by
  have both : ∀ exchange : PrintExchange, [ExchangeEvent.serve letterFetch, .deliver].foldl
      (@PrintExchange.system asciiVision blankEmulator).step exchange =
        (@PrintExchange.serve asciiVision blankEmulator exchange letterFetch).deliver :=
    fun _ => rfl
  rw [letterExchange, letterEvents, List.foldl_append]
  exact both lettersExchange

/-- The letter's only chunk is the last thing heard. -/
theorem letterExchange_history : ∃ message,
    PrintExchange.answer ⟨1, 1⟩ letterJob = [message] ∧
      arrivals lettersExchange.history = lettersExchange.wire ∧
      letterExchange.history = lettersExchange.history ++ [.own (.hear message)] := by
  have joined := @PrintExchange.joined _ asciiVision blankEmulator lettersExchange_reached
  obtain ⟨taken, serves⟩ := @PrintExchange.Joined.fetches _ asciiVision blankEmulator joined _ _ _
    letterFetch_fetches
  have all := ((@PrintExchange.Serves.fetched asciiVision blankEmulator _ _ _ serves) _ _
    letterFetch_fetches).2.resolve_right letterServed_going
  have heard := (@PrintExchange.Joined.heard asciiVision _ joined).eq_of_length
    lettersExchange_there.2.1
  obtain ⟨message, single⟩ := List.length_eq_one_iff.mp lettersExchange_there.2.2.2.2
  have same : letterServed.history = lettersExchange.history :=
    @PrintExchange.serve_history asciiVision blankEmulator lettersExchange letterFetch
  have wire : letterServed.wire = lettersExchange.wire ++ taken :=
    @PrintExchange.Serves.wire asciiVision blankEmulator _ _ _ serves
  rw [all, single, ← heard, ← same] at wire
  refine ⟨message, single, heard, ?_⟩
  rw [letterExchange_eq, ← same]
  exact PrintExchange.deliver_next wire

/-- The reader has the letter. -/
theorem fetched_whole_letter :
    (@PrintExchange.reader asciiVision letterExchange).printJobText 1 1 = some [65] := by
  obtain ⟨message, single, heard, ends⟩ := letterExchange_history
  have fetched := (@PrintExchange.fetched_whole _ asciiVision blankEmulator _ _ letterRun).1
    lettersExchange.wire ⟨1, 1⟩ letterJob
    ⟨lettersBefore, letterFetch, [.deliver], rfl, by simp, rfl, letterFetch_fetches⟩
  have present : PrintReader.Present (@PrintExchange.reader asciiVision letterExchange) 1 := by
    unfold PrintReader.Present
    decide +kernel
  unfold PrintExchange.reader at present ⊢
  rw [ends] at present
  have whole := fetched.2 lettersExchange.history [.own (.hear message)]
    ⟨[], by rw [ends, List.append_nil], heard, single.symm⟩ (by simp [PrintEvent.Forgets]) present
  rw [← ends] at whole
  rw [lettersExchange_there.2.2.2.1] at whole
  exact whole

end Ckmux
