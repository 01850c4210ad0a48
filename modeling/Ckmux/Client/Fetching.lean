import Mathlib
import Ckmux.Client.Reader
import Ckmux.Server.Handle

/-!
# Print jobs put together

A job's text comes in chunks, in answer to a fetch and never unasked. A client's mirrors put the
chunks together by terminal and job, and forget what they hold when a snapshot restates the terminal
or the reader gives a job up. An answer that arrives whole leaves exactly its job's text.
-/

namespace Ckmux

open Grammar (Bytes)
open Proto (Message PrintJobData typeOf kMaxGridColumns kMaxGridRows)

/-! ### What the server says -/

/-- Chunks that make up a text of a job, the last of them marked. -/
inductive Chunked (term : TerminalId) (job : UInt64) : Bytes → List PrintJobData → Prop where
  | last (chunk : PrintJobData) (mine : chunk.term = term ∧ chunk.job = job)
      (final : chunk.finalChunk ≠ 0) : Chunked term job chunk.bytes [chunk]
  | more (chunk : PrintJobData) (mine : chunk.term = term ∧ chunk.job = job)
      (going : chunk.finalChunk = 0) (text : Bytes) (chunks : List PrintJobData)
      (rest : Chunked term job text chunks) :
      Chunked term job (chunk.bytes ++ text) (chunk :: chunks)

/-- What is left of a job is sent in chunks, of which the last says so. -/
theorem chunksFrom_chunked (term : TerminalId) (job : HeldJob) (position : Nat) (seq : UInt32)
    (begun : position < job.text.length ∨ position = 0) :
    Chunked term job.id (job.text.drop position) (chunksFrom term job position seq) := by
  have positive : 0 < kPrintChunk := by decide
  rw [chunksFrom, if_pos begun]
  dsimp only
  have start_eq : min position job.text.length = position := by omega
  rw [start_eq]
  split
  · rename_i final
    have whole : (job.text.drop position).take (min kPrintChunk (job.text.length - position)) =
        job.text.drop position := by
      rw [List.take_of_length_le]
      rw [List.length_drop]
      omega
    rw [whole]
    exact .last
      { term := term, job := job.id, seq := seq, finalChunk := 1, bytes := job.text.drop position }
      ⟨rfl, rfl⟩ (show (1 : UInt8) ≠ 0 by decide)
  · rename_i going
    have parts : job.text.drop position =
        (job.text.drop position).take (min kPrintChunk (job.text.length - position)) ++
          job.text.drop (position + kPrintChunk) := by
      rw [Nat.min_eq_left (by omega), ← List.drop_drop, List.take_append_drop]
    have rest := chunksFrom_chunked term job (position + kPrintChunk) (seq + 1) (.inl (by omega))
    have more := Chunked.more
      { term := term, job := job.id, seq := seq, finalChunk := 0
        bytes := (job.text.drop position).take (min kPrintChunk (job.text.length - position)) }
      ⟨rfl, rfl⟩ rfl _ _ rest
    rw [← parts] at more
    exact more
termination_by job.text.length - position
decreasing_by
  simp only [kPrintChunk] at *
  omega

/-- A print job is sent in numbered pieces, one for each chunk's worth of its text that has been
begun, but at least one. -/
theorem printJobData_eq (term : TerminalId) (job : HeldJob) :
    let count := max 1 ((job.text.length + kPrintChunk - 1) / kPrintChunk)
    printJobData term job = (List.range count).map fun index =>
      { term := term
        job := job.id
        seq := UInt32.ofNat index
        bytes := (job.text.drop (index * kPrintChunk)).take kPrintChunk
        finalChunk := if index + 1 = count then 1 else 0 } := by
  intro count
  have positive : 0 < kPrintChunk := by decide
  have last_iff (index : Nat) (inside : index < count) :
      index * kPrintChunk + kPrintChunk ≥ job.text.length ↔ index + 1 = count := by
    have round : index * kPrintChunk + kPrintChunk ≥ job.text.length ↔
        (job.text.length + kPrintChunk - 1) / kPrintChunk ≤ index + 1 := by
      rw [Nat.div_le_iff_le_mul_add_pred positive, Nat.mul_add, Nat.mul_comm kPrintChunk index]
      omega
    rw [round]
    omega
  have begun (index : Nat) (inside : index < count) :
      index * kPrintChunk < job.text.length ∨ index * kPrintChunk = 0 := by
    cases index with
    | zero => exact .inr (Nat.zero_mul _)
    | succ index =>
        left
        by_contra beyond
        have reached := (last_iff index (by omega)).mp (by rw [Nat.succ_mul] at beyond; omega)
        omega
  have pieces (index : Nat) (inside : index < count) :
      chunksFrom term job (index * kPrintChunk) (UInt32.ofNat index) =
        (List.range' index (count - index)).map fun index =>
          { term := term
            job := job.id
            seq := UInt32.ofNat index
            bytes := (job.text.drop (index * kPrintChunk)).take kPrintChunk
            finalChunk := if index + 1 = count then 1 else 0 } := by
    induction remaining : count - index generalizing index with
    | zero => omega
    | succ left ih =>
        have begun := begun index inside
        rw [chunksFrom, if_pos begun, List.range'_succ, List.map_cons]
        dsimp only
        have start_eq : min (index * kPrintChunk) job.text.length = index * kPrintChunk := by omega
        have bytes_eq : (job.text.drop (index * kPrintChunk)).take
            (min kPrintChunk (job.text.length - index * kPrintChunk)) =
              (job.text.drop (index * kPrintChunk)).take kPrintChunk := by
          rw [List.take_eq_take_min, List.length_drop, Nat.min_assoc, Nat.min_self,
            ← List.length_drop, ← List.take_eq_take_min]
        rw [start_eq, bytes_eq]
        simp only [last_iff index inside]
        congr 1
        split
        · rename_i last
          have none_left : left = 0 := by omega
          rw [none_left]
          rfl
        · rename_i going
          have next := ih (index + 1) (by omega) (by omega)
          rw [Nat.succ_mul] at next
          rw [← next, UInt32.ofNat_add]
          rfl
  have whole := pieces 0 (by omega)
  rw [Nat.zero_mul, Nat.sub_zero, ← List.range_eq_range'] at whole
  exact whole

/-- A job is sent whole in chunks, of which the last says so. -/
theorem printJobData_chunked (term : TerminalId) (job : HeldJob) :
    Chunked term job.id job.text (printJobData term job) :=
  chunksFrom_chunked term job 0 0 (.inr rfl)

/-- A job's chunks: the last one is marked and no other, and together they are its text. -/
theorem Chunked.cut {term : TerminalId} {job : UInt64} {text : Bytes} {chunks : List PrintJobData}
    (chunked : Chunked term job text chunks) :
    (∀ chunk ∈ chunks, chunk.term = term ∧ chunk.job = job) ∧
      (chunks.map PrintJobData.bytes).flatten = text ∧
      ∃ going last, chunks = going ++ [last] ∧ (∀ chunk ∈ going, chunk.finalChunk = 0) ∧
        last.finalChunk ≠ 0 := by
  induction chunked with
  | last chunk mine final =>
      refine ⟨by simpa using mine, by simp, [], chunk, rfl, ?_, final⟩
      exact fun _ among => absurd among List.not_mem_nil
  | more chunk mine nonfinal text chunks rest ih =>
      obtain ⟨all, whole, going, last, rfl, unmarked, final⟩ := ih
      refine ⟨?_, by rw [List.map_cons, List.flatten_cons, whole], chunk :: going, last, rfl, ?_, final⟩
      · exact List.forall_mem_cons.mpr ⟨mine, all⟩
      · exact List.forall_mem_cons.mpr ⟨nonfinal, unmarked⟩

/-! ### What a reader holds -/

/-- What a mirror holds of jobs' texts: those whose chunks still come, and those that are whole. -/
structure PrintBuffers where
  fetching : UInt64 → Option Bytes := fun _ => none
  fetched : UInt64 → Option Bytes := fun _ => none

namespace PrintBuffers

variable (buffers : PrintBuffers)

/-- What is assembled of a job. -/
def assembling (job : UInt64) : Bytes := (buffers.fetching job).getD []

/-- One more chunk, and whether the job is whole with it. -/
def apply (chunk : PrintJobData) : Bool × PrintBuffers :=
  let assembled := buffers.assembling chunk.job ++ chunk.bytes
  if chunk.finalChunk = 0 then
    (false, { buffers with fetching := Function.update buffers.fetching chunk.job (some assembled) })
  else
    (true,
      { fetching := Function.update buffers.fetching chunk.job none
        fetched := Function.update buffers.fetched chunk.job (some assembled) })

/-- A job given up, or all of them. -/
def forget (job : UInt64) : PrintBuffers :=
  if job = 0 then {}
  else
    { fetching := Function.update buffers.fetching job none
      fetched := Function.update buffers.fetched job none }

end PrintBuffers

/-- A mirror's list of jobs with one of them given up, or all. -/
def TerminalMirror.forgetPrintJobs (mirror : TerminalMirror) (job : UInt64) : TerminalMirror :=
  { mirror with
    printJobs := if job = 0 then [] else mirror.printJobs.filter fun held => held.job ≠ job }

/-- A client together with what its mirrors hold of jobs' texts. -/
structure PrintReader where
  session : ServerSession := {}
  buffers : TerminalId → PrintBuffers := fun _ => {}

/-- What happens to such a client. -/
inductive PrintEvent where
  | own (event : ReaderEvent)
  | forget (term : TerminalId) (job : UInt64)

/-- The message that arrives, if one does. -/
def PrintEvent.arrival : PrintEvent → Option Message
  | .own (.hear message) => some message
  | _ => none

namespace PrintReader

/-- The text of a job, once it is whole. -/
def printJobText (reader : PrintReader) (term : TerminalId) (job : UInt64) : Option Bytes :=
  (reader.buffers term).fetched job

/-- Whether a snapshot restates a terminal: nothing that was being fetched of it is kept. -/
def restates (attached : Proto.Attached) (term : TerminalId) : Bool :=
  attached.snapshot.terminals.any fun state =>
    state.term = term && state.columns.toNat ≤ kMaxGridColumns && state.rows.toNat ≤ kMaxGridRows

/-- What a message does to what the mirror of a terminal holds. -/
def told (term : TerminalId) (buffers : PrintBuffers) : Message → PrintBuffers
  | .attached attached => if restates attached term then {} else buffers
  | .printJobData chunk => if chunk.term = term then (buffers.apply chunk).2 else buffers
  | _ => buffers

/-- What a client hears is all that comes to its mirrors by themselves. -/
def retold (term : TerminalId) (buffers : PrintBuffers) : ReaderEvent → PrintBuffers
  | .hear message => told term buffers message
  | _ => buffers

/-- What a mirror holds goes when the mirror goes. -/
def step [CkVision] (reader : PrintReader) : PrintEvent → PrintReader
  | .own event =>
      let session := reader.session.step event
      { session := session
        buffers := fun term =>
          if (session.terminal term).isNone then {} else retold term (reader.buffers term) event }
  | .forget term job =>
      { session := reader.session.tellMirror term fun mirror => mirror.forgetPrintJobs job
        buffers := Function.update reader.buffers term ((reader.buffers term).forget job) }

end PrintReader

/-! ### What one event does -/

/-- What a client does of itself, its connection lost apart, leaves its terminals. -/
theorem ServerSession.step_terminals [CkVision] (session : ServerSession) {event : ReaderEvent}
    (own : ∀ message, event ≠ .hear message) (keeps : event ≠ .lost) :
    (session.step event).terminals = session.terminals := by
  cases event with
  | hear message => exact absurd rfl (own message)
  | lost => exact absurd rfl keeps
  | heal =>
      dsimp only [ServerSession.step, healIfNeeded, requestSnapshot]
      split
      · split <;> rfl
      · rfl
  | switchTo id mode desktop cellPixels =>
      dsimp only [ServerSession.step, switchTo]
      split <;> rfl
  | setReaderMode scope mode =>
      dsimp only [ServerSession.step, setReaderMode, request]
      split
      · rfl
      · split <;> rfl
  | paste term bytes =>
      dsimp only [ServerSession.step, paste]
      split <;> rfl
  | desktopResized desktop cellPixels =>
      dsimp only [ServerSession.step, desktopResized]
      split
      · rfl
      · split
        · rfl
        · split <;> rfl
  | reportLayout entries =>
      dsimp only [ServerSession.step, reportLayout]
      split <;> rfl
  | watchStats on =>
      dsimp only [ServerSession.step, setStatsWatched]
      split <;> rfl
  | capabilities hostSixel => rfl
  | leave => rfl
  | say message => rfl

namespace PrintBuffers

variable {buffers : PrintBuffers} {chunk : PrintJobData} {job given : UInt64} {text : Bytes}

/-- A chunk that is not the last is gathered. -/
theorem apply_going (going : chunk.finalChunk = 0) :
    (buffers.apply chunk).2 =
      { buffers with
        fetching := Function.update buffers.fetching chunk.job
          (some (buffers.assembling chunk.job ++ chunk.bytes)) } := by
  rw [apply, if_pos going]

/-- The last chunk makes what was gathered what was fetched. -/
theorem apply_final (final : chunk.finalChunk ≠ 0) :
    (buffers.apply chunk).2 =
      { fetching := Function.update buffers.fetching chunk.job none
        fetched := Function.update buffers.fetched chunk.job
          (some (buffers.assembling chunk.job ++ chunk.bytes)) } := by
  rw [apply, if_neg final]

/-- Forgetting a job begins no other. -/
theorem forget_fetching (held : (buffers.forget given).fetching job = some text) :
    buffers.fetching job = some text := by
  unfold forget at held
  split at held
  · cases held
  · by_cases same : job = given
    · subst same
      simp at held
    · dsimp only at held
      rwa [Function.update_of_ne same] at held

/-- Forgetting a job fetches no other. -/
theorem forget_fetched (held : (buffers.forget given).fetched job = some text) :
    buffers.fetched job = some text := by
  unfold forget at held
  split at held
  · cases held
  · by_cases same : job = given
    · subst same
      simp at held
    · dsimp only at held
      rwa [Function.update_of_ne same] at held

/-- Giving up another job leaves what is held of one. -/
theorem forget_others (some_ : given ≠ 0) (other : given ≠ job) :
    (buffers.forget given).fetching job = buffers.fetching job ∧
      (buffers.forget given).fetched job = buffers.fetched job := by
  rw [forget, if_neg some_]
  exact ⟨Function.update_of_ne other.symm _ _, Function.update_of_ne other.symm _ _⟩

end PrintBuffers

/-- What has arrived, in the order it came. -/
def arrivals (events : List PrintEvent) : List Message := events.filterMap PrintEvent.arrival

/-- What arrives first comes first. -/
theorem arrivals_append (first second : List PrintEvent) :
    arrivals (first ++ second) = arrivals first ++ arrivals second := List.filterMap_append

/-- Nothing happens and nothing arrives. -/
@[simp] theorem arrivals_nil : arrivals [] = [] := rfl

/-- A message that is heard arrives. -/
@[simp] theorem arrivals_hear (message : Message) : arrivals [.own (.hear message)] = [message] := rfl

/-- Where one message arrives after some others. -/
theorem arrivals_split {events : List PrintEvent} {before after : List Message} {message : Message}
    (arrived : arrivals events = before ++ message :: after) :
    ∃ first rest, events = first ++ .own (.hear message) :: rest ∧ arrivals first = before ∧
      arrivals rest = after := by
  obtain ⟨first, rest, rfl, before_eq, rest_eq⟩ := List.filterMap_eq_append_iff.mp arrived
  obtain ⟨idle, event, later, rfl, none, hears, later_eq⟩ := List.filterMap_eq_cons_iff.mp rest_eq
  have event_eq : event = .own (.hear message) := by
    cases event with
    | own event =>
        cases event with
        | hear heard =>
            cases hears
            rfl
        | _ => cases hears
    | forget term job => cases hears
  subst event_eq
  refine ⟨first ++ idle, later, by simp, ?_, later_eq⟩
  rw [arrivals_append, arrivals, before_eq, arrivals, List.filterMap_eq_nil_iff.mpr none,
    List.append_nil]

/-- Whether an event gives a job up. -/
def PrintEvent.Forgets (term : TerminalId) (job : UInt64) (event : PrintEvent) : Prop :=
  event = .forget term 0 ∨ event = .forget term job

namespace PrintReader

variable {reader : PrintReader} {term : TerminalId} {job : UInt64} {text : Bytes}

/-- A client's terminal is there. -/
def Present (reader : PrintReader) (term : TerminalId) : Prop :=
  (reader.session.terminal term).isSome = true

/-- Nothing that is held after has not been held before. -/
structure Shrinks (before after : PrintReader) : Prop where
  fetching : ∀ term job text, (after.buffers term).fetching job = some text →
    (before.buffers term).fetching job = some text
  fetched : ∀ term job text, after.printJobText term job = some text →
    before.printJobText term job = some text

/-- Nothing is lost. -/
theorem Shrinks.refl (reader : PrintReader) : Shrinks reader reader :=
  ⟨fun _ _ _ held => held, fun _ _ _ held => held⟩

/-- What is lost in two steps is lost. -/
theorem Shrinks.trans {before middle after : PrintReader} (first : Shrinks before middle)
    (second : Shrinks middle after) : Shrinks before after :=
  ⟨fun _ _ _ held => first.fetching _ _ _ (second.fetching _ _ _ held),
    fun _ _ _ held => first.fetched _ _ _ (second.fetched _ _ _ held)⟩

/-- Nothing is half fetched. -/
def Clean (reader : PrintReader) : Prop := ∀ term job, (reader.buffers term).fetching job = none

/-- Losing something leaves what is left clean. -/
theorem Clean.shrink {before after : PrintReader} (clean : Clean before)
    (shrinks : Shrinks before after) : Clean after := by
  intro term job
  cases held : (after.buffers term).fetching job with
  | none => rfl
  | some text => exact absurd (shrinks.fetching _ _ _ held) (by simp [clean term job])

section

variable [CkVision]

/-- A reader's own step may forget a terminal; else its buffers take what it heard. -/
theorem own_buffers (reader : PrintReader) (event : ReaderEvent) (term : TerminalId) :
    (reader.step (.own event)).buffers term =
      if ((reader.session.step event).terminal term).isNone then {}
      else retold term (reader.buffers term) event := rfl

/-- A job is forgotten of one terminal alone. -/
theorem forget_buffers (reader : PrintReader) (term other : TerminalId) (job : UInt64) :
    (reader.step (.forget term job)).buffers other =
      if other = term then (reader.buffers other).forget job else reader.buffers other := by
  change Function.update reader.buffers term ((reader.buffers term).forget job) other = _
  rw [Function.update_apply]
  split
  · rename_i same
    rw [same]
  · rfl

omit [CkVision] in
/-- Only a chunk of a job adds to what is gathered. -/
theorem retold_plain {event : ReaderEvent}
    (plain : ∀ message, event = .hear message → typeOf message ≠ .printJobData)
    (term : TerminalId) (buffers : PrintBuffers) :
    retold term buffers event = {} ∨ retold term buffers event = buffers := by
  cases event with
  | hear message =>
      have kind := plain message rfl
      cases message with
      | printJobData chunk => exact absurd rfl kind
      | attached attached =>
          dsimp only [retold, told]
          split
          · exact .inl rfl
          · exact .inr rfl
      | _ => exact .inr rfl
  | _ => exact .inr rfl

/-- What has nothing to do with chunks adds nothing. -/
theorem shrinks_own (reader : PrintReader) {event : ReaderEvent}
    (plain : ∀ message, event = .hear message → typeOf message ≠ .printJobData) :
    Shrinks reader (reader.step (.own event)) := by
  have fewer (term : TerminalId) : (reader.step (.own event)).buffers term = {} ∨
      (reader.step (.own event)).buffers term = reader.buffers term := by
    rw [own_buffers]
    split
    · exact .inl rfl
    · exact retold_plain plain term _
  constructor
  · intro term job text held
    rcases fewer term with none | same
    · rw [none] at held
      cases held
    · rwa [same] at held
  · intro term job text held
    rcases fewer term with none | same
    · rw [printJobText, none] at held
      cases held
    · rwa [printJobText, same] at held

/-- Forgetting a job only loses. -/
theorem shrinks_forget (reader : PrintReader) (term : TerminalId) (job : UInt64) :
    Shrinks reader (reader.step (.forget term job)) := by
  constructor
  · intro other given text held
    rw [forget_buffers] at held
    split at held
    · exact PrintBuffers.forget_fetching held
    · exact held
  · intro other given text held
    rw [printJobText, forget_buffers] at held
    split at held
    · exact PrintBuffers.forget_fetched held
    · exact held

/-- Whatever arrives beside chunks, and whatever the reader does, adds nothing. -/
theorem shrinks_all (reader : PrintReader) (events : List PrintEvent)
    (plain : ∀ message ∈ arrivals events, typeOf message ≠ .printJobData) :
    Shrinks reader (events.foldl step reader) := by
  induction events generalizing reader with
  | nil => exact .refl reader
  | cons event events ih =>
      rw [← List.singleton_append, arrivals_append] at plain
      have first : Shrinks reader (reader.step event) := by
        cases event with
        | own event =>
            apply shrinks_own
            rintro message rfl
            exact plain message (List.mem_append_left _ List.mem_cons_self)
        | forget term job => exact shrinks_forget reader term job
      exact first.trans (ih _ fun message among => plain message (List.mem_append_right _ among))

/-- No text comes of chunks that are not the last of theirs. -/
theorem old_texts (reader : PrintReader) (events : List PrintEvent)
    (going : ∀ chunk, .printJobData chunk ∈ arrivals events → chunk.finalChunk = 0)
    (held : (events.foldl step reader).printJobText term job = some text) :
    reader.printJobText term job = some text := by
  induction events generalizing reader with
  | nil => exact held
  | cons event events ih =>
      rw [← List.singleton_append, arrivals_append] at going
      have later := ih (reader.step event)
        (fun chunk among => going chunk (List.mem_append_right _ among)) held
      by_cases chunk_came : ∃ chunk, event = .own (.hear (.printJobData chunk))
      · obtain ⟨chunk, rfl⟩ := chunk_came
        have unmarked := going chunk (List.mem_append_left _ List.mem_cons_self)
        rw [printJobText, own_buffers] at later
        split at later
        · cases later
        · dsimp only [retold, told] at later
          split at later
          · rw [PrintBuffers.apply_going unmarked] at later
            exact later
          · exact later
      · have shrinks : Shrinks reader (reader.step event) := by
          cases event with
          | own event =>
              apply shrinks_own
              rintro message rfl kind
              cases message with
              | printJobData chunk => exact chunk_came ⟨chunk, rfl⟩
              | _ => cases kind
          | forget term job => exact shrinks_forget reader term job
        exact shrinks.fetched _ _ _ later

/-- A terminal stays there, or away, but for what the server says of terminals. -/
theorem present_step (reader : PrintReader) {event : PrintEvent} (keeps : event ≠ .own .lost)
    (chunks : ∀ message, event.arrival = some message → typeOf message = .printJobData)
    (term : TerminalId) : Present (reader.step event) term ↔ Present reader term := by
  have same_terminals {session : ServerSession}
      (same : session.terminals = reader.session.terminals) :
      (session.terminal term).isSome = true ↔ Present reader term := by
    rw [Present, ServerSession.terminal, ServerSession.terminal, same]
  cases event with
  | own event =>
      cases event with
      | hear message =>
          have kind := chunks message rfl
          cases message with
          | printJobData chunk => exact same_terminals rfl
          | _ => cases kind
      | lost => exact absurd rfl keeps
      | _ =>
          exact same_terminals (reader.session.step_terminals (fun _ => by simp) (by simp))
  | forget given job =>
      rw [Present, Present, step, ServerSession.tellMirror, ServerSession.terminal,
        ServerSession.setTerminal, List.find?_map, Option.isSome_map, ServerSession.terminal]
      refine Iff.of_eq (congrArg (fun found : Option RemoteTerminal => found.isSome = true)
        (congrFun (congrArg List.find? (funext fun terminal => ?_)) _))
      dsimp only [Function.comp]
      split <;> rfl

/-- Chunks and fetches leave which terminals are there. -/
theorem present_steps (reader : PrintReader) (events : List PrintEvent)
    (stays : .own .lost ∉ events)
    (chunks : ∀ message ∈ arrivals events, typeOf message = .printJobData) (term : TerminalId) :
    Present (events.foldl step reader) term ↔ Present reader term := by
  induction events generalizing reader with
  | nil => exact Iff.rfl
  | cons event events ih =>
      rw [← List.singleton_append, arrivals_append] at chunks
      have later := ih (reader.step event) (fun among => stays (List.mem_cons_of_mem _ among))
        fun message among => chunks message (List.mem_append_right _ among)
      refine later.trans (present_step reader (fun lost => stays (lost ▸ List.mem_cons_self))
        (fun message arrived => chunks message (List.mem_append_left _ ?_)) term)
      exact List.mem_filterMap.mpr ⟨event, List.mem_cons_self, arrived⟩

/-- What a chunk does to the buffers of a terminal that is there. -/
theorem chunk_buffers (reader : PrintReader) (chunk : PrintJobData) {term : TerminalId}
    (present : Present reader term) :
    (reader.step (.own (.hear (.printJobData chunk)))).buffers term =
      if chunk.term = term then ((reader.buffers term).apply chunk).2 else reader.buffers term := by
  have still : ((reader.session.step (.hear (.printJobData chunk))).terminal term).isNone = false := by
    rw [← Option.not_isSome]
    exact congrArg (!·) present
  rw [own_buffers, still]
  rfl

/-- The buffers of a terminal that is not there are empty. -/
theorem absent_buffers (reader : PrintReader) (event : ReaderEvent) {term : TerminalId}
    (absent : ¬Present (reader.step (.own event)) term) :
    (reader.step (.own event)).buffers term = {} := by
  rw [own_buffers, if_pos]
  exact Option.isNone_iff_eq_none.mpr (Option.not_isSome_iff_eq_none.mp absent)

/-! ### One answer, delivered -/

/-- Among events, the reader gave a job up after something had arrived. -/
def GivenUp (term : TerminalId) (job : UInt64) (events : List PrintEvent) : Prop :=
  ∃ before event after, events = before ++ event :: after ∧ event.Forgets term job ∧
    arrivals before ≠ []

omit [CkVision] in
/-- What was given up stays so. -/
theorem GivenUp.more {events : List PrintEvent} (given : GivenUp term job events)
    (event : PrintEvent) : GivenUp term job (events ++ [event]) := by
  obtain ⟨before, gives, after, rfl, forgets, begun⟩ := given
  exact ⟨before, gives, after ++ [event], by simp, forgets, begun⟩

/-- A client that has some of a job and nothing of any other. -/
structure Gathers (reader : PrintReader) (term : TerminalId) (job : UInt64) (gathered : Bytes)
    (given : Prop) : Prop where
  alone : ∀ other number, ¬(other = term ∧ number = job) →
    (reader.buffers other).fetching number = none
  mine : Present reader term → (reader.buffers term).assembling job <:+ gathered ∧
    ((reader.buffers term).assembling job = gathered ∨ given)

namespace Gathers

variable {gathered : Bytes} {given : Prop}

omit [CkVision] in
/-- What is gathered unless one thing happens is gathered unless more does. -/
theorem mono {more : Prop} (gathers : Gathers reader term job gathered given)
    (wider : given → more) : Gathers reader term job gathered more :=
  ⟨gathers.alone, fun present => (gathers.mine present).imp_right (Or.imp_right wider)⟩

/-- A client's mirrors hear of a chunk as if each were there, or hold nothing. -/
theorem chunk (gathers : Gathers reader term job gathered given) {chunk : PrintJobData}
    (mine : chunk.term = term ∧ chunk.job = job) (going : chunk.finalChunk = 0) :
    Gathers (reader.step (.own (.hear (.printJobData chunk)))) term job (gathered ++ chunk.bytes)
      given := by
  obtain ⟨rfl, rfl⟩ := mine
  have still (other : TerminalId) := @present_step _ reader (.own (.hear (.printJobData chunk)))
    (by simp) (by rintro message ⟨⟩; rfl) other
  constructor
  · intro other number different
    by_cases there : Present (reader.step (.own (.hear (.printJobData chunk)))) other
    · rw [chunk_buffers reader chunk ((still other).mp there)]
      split
      · rename_i same
        rw [PrintBuffers.apply_going going]
        dsimp only
        rw [Function.update_of_ne fun equal => different ⟨same.symm, equal⟩]
        exact gathers.alone other number different
      · exact gathers.alone other number different
    · rw [absent_buffers reader _ there]
  · intro there
    have present := (still chunk.term).mp there
    obtain ⟨suffix, whole⟩ := gathers.mine present
    rw [chunk_buffers reader chunk present, if_pos rfl, PrintBuffers.apply_going going,
      PrintBuffers.assembling]
    dsimp only
    rw [Function.update_self, Option.getD_some]
    refine ⟨?_, whole.imp_left fun same => by rw [same]⟩
    obtain ⟨front, split⟩ := suffix
    exact ⟨front, by rw [← split, List.append_assoc]⟩

/-- What else the reader does leaves what is gathered. -/
theorem idle (gathers : Gathers reader term job gathered given) {event : ReaderEvent}
    (own : ∀ message, event ≠ .hear message) (keeps : event ≠ .lost) :
    Gathers (reader.step (.own event)) term job gathered given := by
  have shrinks := @shrinks_own _ reader event fun message heard => absurd heard (own message)
  have still := @present_step _ reader (.own event) (by simpa using keeps)
    (fun message arrived => by
      cases event with
      | hear heard => exact absurd rfl (own heard)
      | _ => cases arrived) term
  constructor
  · intro other number different
    cases held : ((reader.step (.own event)).buffers other).fetching number with
    | none => rfl
    | some text =>
        exact absurd (shrinks.fetching _ _ _ held) (by simp [gathers.alone other number different])
  · intro there
    have same : (reader.step (.own event)).buffers term = reader.buffers term := by
      have here : ((reader.session.step event).terminal term).isNone = false := by
        rw [← Option.not_isSome]
        exact congrArg (!·) there
      rw [own_buffers, here]
      cases event with
      | hear message => exact absurd rfl (own message)
      | _ => rfl
    rw [same]
    exact gathers.mine (still.mp there)

/-- Giving a job up loses what is gathered of it. -/
theorem forget (gathers : Gathers reader term job gathered given) (other : TerminalId)
    (number : UInt64)
    (begun : (PrintEvent.forget other number).Forgets term job → gathered = [] ∨ given) :
    Gathers (reader.step (.forget other number)) term job gathered given := by
  have shrinks := shrinks_forget reader other number
  have still := @present_step _ reader (.forget other number) (by simp)
    (by rintro message ⟨⟩) term
  constructor
  · intro another each different
    cases held : ((reader.step (.forget other number)).buffers another).fetching each with
    | none => rfl
    | some text =>
        exact absurd (shrinks.fetching _ _ _ held) (by simp [gathers.alone another each different])
  · intro there
    rw [forget_buffers]
    by_cases forgets : (PrintEvent.forget other number).Forgets term job
    · have same : term = other ∧ (number = 0 ∨ number = job) := by
        rcases forgets with all | one
        · injection all with same all
          exact ⟨same.symm, .inl all⟩
        · injection one with same one
          exact ⟨same.symm, .inr one⟩
      have lost : ((reader.buffers term).forget number).assembling job = [] := by
        rw [PrintBuffers.assembling, PrintBuffers.forget]
        split
        · rfl
        · rename_i some_
          rw [same.2.resolve_left some_]
          simp
      rw [if_pos same.1, lost]
      exact ⟨List.nil_suffix, (begun forgets).imp_left Eq.symm⟩
    · have kept : ∀ buffers, (if term = other then (buffers : PrintBuffers).forget number
          else buffers).assembling job = buffers.assembling job := by
        intro buffers
        split
        · rename_i same
          subst same
          have some_ : number ≠ 0 := fun none => forgets (.inl (none ▸ rfl))
          have another : number ≠ job := fun same => forgets (.inr (same ▸ rfl))
          rw [PrintBuffers.assembling, (PrintBuffers.forget_others some_ another).1,
            PrintBuffers.assembling]
        · rfl
      rw [kept]
      exact gathers.mine (still.mp there)

end Gathers

/-- The chunks of an answer, while none of them is the last, are put together. -/
theorem gathers (reader : PrintReader) (clean : Clean reader) (events : List PrintEvent)
    (stays : .own .lost ∉ events) (chunks : List PrintJobData)
    (arrived : arrivals events = chunks.map .printJobData)
    (mine : ∀ chunk ∈ chunks, chunk.term = term ∧ chunk.job = job)
    (going : ∀ chunk ∈ chunks, chunk.finalChunk = 0) :
    Gathers (events.foldl step reader) term job (chunks.map PrintJobData.bytes).flatten
      (GivenUp term job events) := by
  induction events using List.reverseRecOn generalizing chunks with
  | nil =>
      have none_came : chunks = [] := List.map_eq_nil_iff.mp arrived.symm
      subst none_came
      refine ⟨fun other number _ => clean other number, fun _ => ?_⟩
      rw [List.foldl_nil, PrintBuffers.assembling, clean]
      exact ⟨List.suffix_rfl, .inl rfl⟩
  | append_singleton events event ih =>
      have keeps : event ≠ .own .lost := fun lost =>
        stays (List.mem_append_right _ (lost ▸ List.mem_singleton_self _))
      have kept : .own .lost ∉ events := fun among => stays (List.mem_append_left _ among)
      rw [List.foldl_concat]
      rw [arrivals_append] at arrived
      have silent (none_ : arrivals [event] = []) :
          Gathers (events.foldl step reader) term job (chunks.map PrintJobData.bytes).flatten
            (GivenUp term job events) := by
        rw [none_, List.append_nil] at arrived
        exact ih kept chunks arrived mine going
      cases event with
      | own event =>
          by_cases hears : ∃ message, event = .hear message
          · obtain ⟨message, rfl⟩ := hears
            obtain ⟨taken, last, rfl, taken_eq, last_eq⟩ := List.map_eq_append_iff.mp arrived.symm
            obtain ⟨chunk, rfl, rfl⟩ := List.map_eq_singleton_iff.mp last_eq
            have so_far := ih kept taken taken_eq.symm
              (fun each among => mine each (List.mem_append_left _ among))
              (fun each among => going each (List.mem_append_left _ among))
            rw [List.map_append, List.flatten_append, List.map_singleton, List.flatten_singleton]
            exact (so_far.chunk (mine chunk (by simp)) (going chunk (by simp))).mono (·.more _)
          · have own : ∀ message, event ≠ .hear message := fun message same => hears ⟨message, same⟩
            refine ((silent ?_).idle own (by simpa using keeps)).mono (·.more _)
            cases event <;> first | rfl | exact absurd rfl (own _)
      | forget other number =>
          have so_far := silent rfl
          refine (so_far.mono (·.more _)).forget other number fun forgets => ?_
          by_cases begun : arrivals events = []
          · rw [begun, List.nil_append] at arrived
            exact .inl (by rw [List.map_eq_nil_iff.mp arrived.symm]; rfl)
          · exact .inr ⟨events, _, [], rfl, forgets, begun⟩

/-- A text that is held stays held while nothing arrives and nothing is given up. -/
theorem text_stays (events : List PrintEvent) (stays : .own .lost ∉ events)
    (silent : arrivals events = []) (keeps : ∀ event ∈ events, ¬event.Forgets term job)
    (held : reader.printJobText term job = some text) (present : Present reader term) :
    Present (events.foldl step reader) term ∧
      (events.foldl step reader).printJobText term job = some text := by
  induction events generalizing reader with
  | nil => exact ⟨present, held⟩
  | cons event events ih =>
      have still : event ≠ .own .lost := fun lost => stays (lost ▸ List.mem_cons_self)
      rw [← List.singleton_append, arrivals_append, List.append_eq_nil_iff] at silent
      have mute : event.arrival = none := by
        have none_ := silent.1
        rw [arrivals, List.filterMap_eq_nil_iff] at none_
        exact none_ event List.mem_cons_self
      have there : Present (reader.step event) term :=
        (present_step reader still (fun message arrived => by simp [mute] at arrived) term).mpr present
      refine ih (fun among => stays (List.mem_cons_of_mem _ among)) silent.2
        (fun each among => keeps each (List.mem_cons_of_mem _ among)) ?_ there
      cases event with
      | own event =>
          have same : (reader.step (.own event)).buffers term = reader.buffers term := by
            have here : ((reader.session.step event).terminal term).isNone = false := by
              rw [← Option.not_isSome]
              exact congrArg (!·) there
            rw [own_buffers, here]
            cases event with
            | hear message => cases mute
            | _ => rfl
          rw [printJobText, same]
          exact held
      | forget other number =>
          rw [printJobText, forget_buffers]
          split
          · rename_i same
            subst same
            have kept := keeps _ List.mem_cons_self
            have some_ : number ≠ 0 := fun none => kept (.inl (none ▸ rfl))
            have another : number ≠ job := fun same => kept (.inr (same ▸ rfl))
            rw [(PrintBuffers.forget_others some_ another).2]
            exact held
          · exact held

/-- Among events, the reader gave a job up between two of its chunks. -/
def GivenUpAmid (term : TerminalId) (job : UInt64) (events : List PrintEvent) : Prop :=
  ∃ before event after, events = before ++ event :: after ∧ event.Forgets term job ∧
    arrivals before ≠ [] ∧ arrivals after ≠ []

/-- The last chunk of an answer. -/
theorem last_chunk {gathered : Bytes} {given : Prop} (gathers : Gathers reader term job gathered given)
    {chunk : PrintJobData} (mine : chunk.term = term ∧ chunk.job = job)
    (final : chunk.finalChunk ≠ 0) :
    Clean (reader.step (.own (.hear (.printJobData chunk)))) ∧
      (∀ other number text,
        (reader.step (.own (.hear (.printJobData chunk)))).printJobText other number = some text →
          reader.printJobText other number = some text ∨
            (other = term ∧ number = job) ∧ text <:+ gathered ++ chunk.bytes ∧
              (text = gathered ++ chunk.bytes ∨ given)) ∧
      (Present reader term → ¬given →
        (reader.step (.own (.hear (.printJobData chunk)))).printJobText term job =
          some (gathered ++ chunk.bytes)) := by
  obtain ⟨rfl, rfl⟩ := mine
  have still (other : TerminalId) := @present_step _ reader (.own (.hear (.printJobData chunk)))
    (by simp) (by rintro message ⟨⟩; rfl) other
  refine ⟨fun other number => ?_, fun other number text held => ?_, fun present whole => ?_⟩
  · by_cases there : Present (reader.step (.own (.hear (.printJobData chunk)))) other
    · rw [chunk_buffers reader chunk ((still other).mp there)]
      split
      · rename_i same
        rw [PrintBuffers.apply_final final]
        dsimp only
        rw [Function.update_apply]
        split
        · rfl
        · exact gathers.alone other number fun equal => ‹¬number = chunk.job› equal.2
      · rename_i different
        exact gathers.alone other number fun equal => different equal.1.symm
    · rw [absent_buffers reader _ there]
  · by_cases there : Present (reader.step (.own (.hear (.printJobData chunk)))) other
    · have present := (still other).mp there
      rw [printJobText, chunk_buffers reader chunk present] at held
      split at held
      · rename_i same
        subst same
        rw [PrintBuffers.apply_final final] at held
        dsimp only at held
        rw [Function.update_apply] at held
        split at held
        · rename_i same
          injection held with text_eq
          obtain ⟨⟨front, split⟩, whole⟩ := gathers.mine present
          rw [← text_eq]
          refine .inr ⟨⟨rfl, same⟩, ⟨front, by rw [← List.append_assoc, split]⟩, ?_⟩
          exact whole.imp_left fun all => by rw [all]
        · exact .inl held
      · exact .inl held
    · rw [printJobText, absent_buffers reader _ there] at held
      cases held
  · rw [printJobText, chunk_buffers reader chunk present, if_pos rfl, PrintBuffers.apply_final final]
    dsimp only
    rw [Function.update_self, (gathers.mine present).2.resolve_right whole]

/-- An answer delivered whole: nothing is left half fetched, all that is new is the job's text,
and it is there unless the reader gave the job up. -/
theorem answered (reader : PrintReader) (clean : Clean reader) (term : TerminalId) (held : HeldJob)
    (events : List PrintEvent) (stays : .own .lost ∉ events)
    (arrived : arrivals events = (printJobData term held).map .printJobData) :
    Clean (events.foldl step reader) ∧
      (∀ other number text, (events.foldl step reader).printJobText other number = some text →
        reader.printJobText other number = some text ∨
          (other = term ∧ number = held.id) ∧
            (text = held.text ∨ text <:+ held.text ∧ GivenUpAmid term held.id events)) ∧
      ((∀ event ∈ events, ¬event.Forgets term held.id) → Present (events.foldl step reader) term →
        (events.foldl step reader).printJobText term held.id = some held.text) := by
  obtain ⟨mine, whole, going, last, cut, unmarked, final⟩ := (printJobData_chunked term held).cut
  rw [cut, List.map_append, List.map_singleton] at arrived
  obtain ⟨first, rest, rfl, first_eq, silent⟩ := arrivals_split arrived
  have text_eq : (going.map PrintJobData.bytes).flatten ++ last.bytes = held.text := by
    rw [← whole, cut, List.map_append, List.flatten_append, List.map_singleton,
      List.flatten_singleton]
  rw [cut] at mine
  have before := gathers reader clean first (fun among => stays (List.mem_append_left _ among)) going
    first_eq (fun chunk among => mine chunk (List.mem_append_left _ among)) unmarked
  have kept : .own .lost ∉ rest := fun among =>
    stays (List.mem_append_right _ (List.mem_cons_of_mem _ among))
  obtain ⟨clear, fresh, there⟩ := last_chunk before (mine last (by simp)) final
  rw [List.foldl_append, List.foldl_cons]
  have shrinks := shrinks_all ((first.foldl step reader).step (.own (.hear (.printJobData last))))
    rest (by rw [silent]; exact fun _ among => absurd among List.not_mem_nil)
  rw [text_eq] at fresh there
  refine ⟨clear.shrink shrinks, fun other number text held_ => ?_, fun keeps present => ?_⟩
  · rcases fresh other number text (shrinks.fetched _ _ _ held_) with old | ⟨same, suffix, all⟩
    · left
      refine old_texts reader first (fun chunk among => ?_) old
      rw [first_eq] at among
      obtain ⟨each, listed, same⟩ := List.mem_map.mp among
      injection same with same
      exact same ▸ unmarked each listed
    · refine .inr ⟨same, all.imp_right fun given => ⟨suffix, ?_⟩⟩
      obtain ⟨early, event, late, split, forgets, begun⟩ := given
      refine ⟨early, event, late ++ .own (.hear (.printJobData last)) :: rest, ?_, forgets, begun, ?_⟩
      · rw [split, List.append_assoc, List.cons_append]
      · rw [arrivals_append, arrivals, arrivals, List.filterMap_cons]
        simp [PrintEvent.arrival]
  · have whole_ : ¬GivenUp term held.id first := by
      rintro ⟨early, event, late, split, forgets, _⟩
      exact keeps event (by simp [split]) forgets
    have here : Present ((first.foldl step reader).step (.own (.hear (.printJobData last)))) term :=
      (present_steps _ rest kept (by rw [silent]; simp) term).mp present
    have was := (@present_step _ (first.foldl step reader) (.own (.hear (.printJobData last))) (by simp) (by rintro message ⟨⟩; rfl) term).mp here
    exact (text_stays rest kept silent
      (fun event among => keeps event (List.mem_append_right _ (List.mem_cons_of_mem _ among)))
      (there was whole_) here).2

end

end PrintReader

end Ckmux
