import Mathlib
import Ckmux.Client.Reader

/-!
# Pastes on their way out

A client sends no more chunks ahead of the acknowledgements than its credit, by its own count, and
never holds one back that it may send. What it sends of its pastes it sends in the order they were
asked for and each chunk once; only what is given up is missing.
-/

namespace Ckmux

open Grammar (Bytes)
open Proto (Message PasteChunk)
open Semantics (System)

/-! ### What is said of pastes -/

/-- The chunk in a message, if it is one of a paste. -/
def pasteChunkOf : Message → Option PasteChunk
  | .pasteChunk chunk => some chunk
  | _ => none

/-- The chunks of pastes among some messages. -/
def pastedIn (messages : List Message) : List PasteChunk := messages.filterMap pasteChunkOf

/-- A chunk as it is sent. -/
def PasteWaiting.chunk (waiting : PasteWaiting) : PasteChunk :=
  { term := waiting.term
    seq := waiting.seq
    finalChunk := if waiting.last then 1 else 0
    bytes := waiting.bytes }

/-- The chunks that an event asks for, numbered from a number on. -/
def ReaderEvent.pastes (seq : UInt32) : ReaderEvent → List PasteWaiting
  | .paste term bytes => ServerSession.pasteChunks term seq bytes
  | _ => []

/-- The chunks of all that is pasted, numbered on and on. -/
def pastesOf (seq : UInt32) : List ReaderEvent → List PasteWaiting
  | [] => []
  | event :: events =>
      event.pastes seq ++ pastesOf (seq + UInt32.ofNat (event.pastes seq).length) events

/-- What is pasted last is numbered on from all before it. -/
theorem pastesOf_concat (seq : UInt32) (events : List ReaderEvent) (event : ReaderEvent) :
    pastesOf seq (events ++ [event]) = pastesOf seq events ++
      event.pastes (seq + UInt32.ofNat (pastesOf seq events).length) := by
  induction events generalizing seq with
  | nil => simp [pastesOf]
  | cons first events ih =>
      rw [List.cons_append, pastesOf, ih, pastesOf, List.append_assoc, List.length_append,
        UInt32.ofNat_add, UInt32.add_assoc]

namespace ServerSession

/-- Whether an event makes the client give its pastes up. -/
def abandons (session : ServerSession) : ReaderEvent → Bool
  | .lost => true
  | .hear (.detached _) => !session.leaving
  | .switchTo id mode _ _ => !(session.attached && session.session = id && session.mode = mode)
  | _ => false

/-- How many chunks an event acknowledges. -/
def answers : ReaderEvent → Nat
  | .hear (.pasteAck _) => 1
  | _ => 0

/-- What was sent of pastes and what waits, one behind the other. -/
def pasteLine (session : ServerSession) : List PasteChunk :=
  pastedIn session.sent ++ session.pasteQueue.map PasteWaiting.chunk

/-- Nothing waits that may be sent, and no more is on its way than may be. -/
structure Flowing (session : ServerSession) : Prop where
  within : session.pasteInFlight ≤ kPasteCredit
  full : session.pasteQueue ≠ [] → session.pasteInFlight = kPasteCredit

/-- Nothing of pastes is different. -/
structure Unmoved (before after : ServerSession) : Prop where
  queue : after.pasteQueue = before.pasteQueue
  inFlight : after.pasteInFlight = before.pasteInFlight
  seq : after.nextPasteSeq = before.nextPasteSeq
  said : pastedIn after.sent = pastedIn before.sent

variable (session : ServerSession)

/-- Chunks among more messages come behind. -/
theorem pastedIn_append (messages more : List Message) :
    pastedIn (messages ++ more) = pastedIn messages ++ pastedIn more :=
  List.filterMap_append

/-- Chunks that are sent are sent as they are. -/
theorem pastedIn_going (going : List PasteWaiting) :
    (pastedIn <| going.map fun waiting => .pasteChunk
      { term := waiting.term
        seq := waiting.seq
        finalChunk := if waiting.last then 1 else 0
        bytes := waiting.bytes }) = going.map PasteWaiting.chunk := by
  induction going with
  | nil => rfl
  | cons waiting going ih => simpa [pastedIn, pasteChunkOf, PasteWaiting.chunk] using ih

/-- Sending what waits moves it from the back of the line to the front. -/
theorem pumpPaste_line : session.pumpPaste.pasteLine = session.pasteLine := by
  have cut : session.pasteQueue.drop (session.pasteQueue.take
      (kPasteCredit - session.pasteInFlight)).length =
        session.pasteQueue.drop (kPasteCredit - session.pasteInFlight) := by
    rw [List.length_take]
    rcases Nat.le_total (kPasteCredit - session.pasteInFlight) session.pasteQueue.length with less | more
    · rw [Nat.min_eq_left less]
    · rw [Nat.min_eq_right more, List.drop_eq_nil_of_le more, List.drop_length]
  simp only [pasteLine, pumpPaste, cut]
  rw [pastedIn_append, pastedIn_going, List.append_assoc, ← List.map_append,
    List.take_append_drop]

/-- Whatever is sent is counted. -/
theorem pumpPaste_counted : (pastedIn session.pumpPaste.sent).length + session.pasteInFlight =
    (pastedIn session.sent).length + session.pumpPaste.pasteInFlight := by
  simp only [pumpPaste]
  rw [pastedIn_append, pastedIn_going, List.length_append, List.length_map, Nat.add_assoc,
    Nat.add_comm session.pasteInFlight]

/-- Sending takes nothing back. -/
theorem pumpPaste_grown :
    (pastedIn session.sent).length ≤ (pastedIn session.pumpPaste.sent).length := by
  simp only [pumpPaste]
  rw [pastedIn_append, List.length_append]
  exact Nat.le_add_right _ _

/-- What is sent is what waited longest, as far as the credit goes. -/
theorem pumpPaste_spec (within : session.pasteInFlight ≤ kPasteCredit) :
    session.pumpPaste.Flowing ∧ session.pumpPaste.pasteLine = session.pasteLine ∧
      session.pumpPaste.nextPasteSeq = session.nextPasteSeq ∧
      (pastedIn session.sent).length ≤ (pastedIn session.pumpPaste.sent).length := by
  refine ⟨⟨?_, ?_⟩, pumpPaste_line session, rfl, pumpPaste_grown session⟩
  · simp only [pumpPaste, List.length_take]
    omega
  · simp only [pumpPaste, List.length_take, ne_eq, List.drop_eq_nil_iff]
    omega

namespace Unmoved

variable {session} {before middle after : ServerSession}

/-- Nothing happened. -/
theorem refl : Unmoved session session := ⟨rfl, rfl, rfl, rfl⟩

/-- Two steps that leave pastes alone leave them alone. -/
theorem trans (first : Unmoved before middle) (second : Unmoved middle after) :
    Unmoved before after where
  queue := second.queue.trans first.queue
  inFlight := second.inFlight.trans first.inFlight
  seq := second.seq.trans first.seq
  said := second.said.trans first.said

/-- The line stays where nothing of pastes is different. -/
theorem line (unmoved : Unmoved before after) : after.pasteLine = before.pasteLine := by
  rw [pasteLine, pasteLine, unmoved.said, unmoved.queue]

/-- Pastes flow where nothing of them is different. -/
theorem flowing (unmoved : Unmoved before after) (flowing : before.Flowing) : after.Flowing where
  within := by simpa [unmoved.inFlight] using flowing.within
  full := by simpa [unmoved.inFlight, unmoved.queue] using flowing.full

/-- A message that is no chunk leaves pastes alone. -/
theorem request (session : ServerSession) {message : Message} (other : pasteChunkOf message = none) :
    Unmoved session (session.request message) :=
  ⟨rfl, rfl, rfl, by simp [ServerSession.request, pastedIn, other]⟩

/-- Attaching leaves pastes alone. -/
theorem attach (session : ServerSession) (id : SessionId) (desktop cellPixels : Size) :
    Unmoved session (session.attach id desktop cellPixels) :=
  ⟨rfl, rfl, rfl, by simp [ServerSession.attach, ServerSession.request, pastedIn, pasteChunkOf]⟩

/-- A message that is no chunk still leaves pastes alone. -/
theorem then_request (unmoved : Unmoved before middle) {message : Message}
    (other : pasteChunkOf message = none) : Unmoved before (middle.request message) :=
  unmoved.trans (request middle other)

/-- Attaching still leaves pastes alone. -/
theorem then_attach (unmoved : Unmoved before middle) (id : SessionId) (desktop cellPixels : Size) :
    Unmoved before (middle.attach id desktop cellPixels) :=
  unmoved.trans (attach middle id desktop cellPixels)

/-- Asking for a snapshot leaves pastes alone. -/
theorem requestSnapshot (session : ServerSession) : Unmoved session session.requestSnapshot := by
  rw [ServerSession.requestSnapshot]
  split
  · exact refl
  · exact ⟨rfl, rfl, rfl, (attach _ _ _ _).said⟩

/-- A terminal that comes leaves pastes alone. -/
theorem ensureTerminal (session : ServerSession) (id : TerminalId) :
    Unmoved session (session.ensureTerminal id) := by
  rw [ServerSession.ensureTerminal]
  split
  · exact refl
  · exact ⟨rfl, rfl, rfl, rfl⟩

/-- Another desktop leaves pastes alone. -/
theorem adoptSessionDesktop (session : ServerSession) (columns rows : UInt16) :
    Unmoved session (session.adoptSessionDesktop columns rows) := by
  rw [ServerSession.adoptSessionDesktop]
  split
  · exact refl
  · exact ⟨rfl, rfl, rfl, rfl⟩

/-- Another mode leaves pastes alone. -/
theorem setAttachMode (session : ServerSession) (mode : AttachMode) :
    Unmoved session (session.setAttachMode mode) := ⟨rfl, rfl, rfl, rfl⟩

/-- A picture leaves pastes alone. -/
theorem hearPicture (session : ServerSession) (told : PictureOp) :
    Unmoved session (session.hearPicture told) := by
  cases told <;> exact ⟨rfl, rfl, rfl, rfl⟩

section

variable [CkVision]

/-- A terminal adopted leaves pastes alone. -/
theorem adoptTerminal (session : ServerSession) (state : Proto.TerminalState) :
    Unmoved session (session.adoptTerminal state) :=
  (ensureTerminal session state.term).trans ⟨rfl, rfl, rfl, rfl⟩

/-- Terminals adopted leave pastes alone. -/
theorem adoptTerminals (states : List Proto.TerminalState) (session : ServerSession) :
    Unmoved session (states.foldl (fun session state => session.adoptTerminal state) session) := by
  induction states generalizing session with
  | nil => exact refl
  | cons state states ih => exact (adoptTerminal session state).trans (ih _)

/-- A snapshot leaves pastes alone. -/
theorem handleAttached (session : ServerSession) (attached : Proto.Attached) :
    Unmoved session (session.handleAttached attached) := by
  rw [ServerSession.handleAttached]
  generalize stated_eq : ServerSession.adoptSessionDesktop _ _ _ = stated
  have first : Unmoved session stated := by
    rw [← stated_eq]
    refine trans ?_ (adoptSessionDesktop _ _ _)
    exact ⟨rfl, rfl, rfl, rfl⟩
  have second : Unmoved stated
      (if stated.statsWatched then stated.request (.watchStats ⟨1⟩) else stated) := by
    split
    · exact request stated rfl
    · exact refl
  have third := adoptTerminals attached.snapshot.terminals
    (if stated.statsWatched then stated.request (.watchStats ⟨1⟩) else stated)
  refine then_request ?_ rfl
  exact ((first.trans second).trans third).trans ⟨rfl, rfl, rfl, rfl⟩

omit [CkVision] in
/-- A terminal that ends leaves pastes alone. -/
theorem handleClosed (session : ServerSession) (closed : Proto.TermClosed) :
    Unmoved session (session.handleClosed closed) := by
  rw [ServerSession.handleClosed]
  split
  · exact ⟨rfl, rfl, rfl, rfl⟩
  · exact ⟨rfl, rfl, rfl, rfl⟩

end

end Unmoved

/-! ### One event -/

/-- What an event makes of a client's pastes: it asks for some chunks, or gives up what waits. -/
structure Moves (before after : ServerSession) (asked : List PasteWaiting) (givenUp : Bool)
    (answered : Nat) : Prop where
  flowing : after.Flowing
  seq : after.nextPasteSeq = before.nextPasteSeq + UInt32.ofNat asked.length
  line : givenUp = false → after.pasteLine = before.pasteLine ++ asked.map PasteWaiting.chunk
  lost : givenUp = true → after.pasteLine = pastedIn before.sent ∧ asked = []
  grown : (pastedIn before.sent).length ≤ (pastedIn after.sent).length
  counted : givenUp = false → (pastedIn after.sent).length + before.pasteInFlight ≤
    (pastedIn before.sent).length + after.pasteInFlight + answered

/-- Leaving pastes alone is a move that asks for none. -/
theorem Unmoved.moves {before after : ServerSession} (unmoved : Unmoved before after)
    (flowing : before.Flowing) : Moves before after [] false 0 where
  flowing := unmoved.flowing flowing
  seq := by simp [unmoved.seq]
  line _ := by simp [unmoved.line]
  lost given := by cases given
  grown := by rw [unmoved.said]
  counted _ := by rw [unmoved.said, unmoved.inFlight, Nat.add_zero]

/-- Giving up forgets what waits, and what is on its way. -/
theorem abandoned_moves {before after : ServerSession} (unmoved : Unmoved before.abandonPaste after) :
    Moves before after [] true 0 where
  flowing := ⟨by simp [unmoved.inFlight, abandonPaste], fun some_ => by
    simp [unmoved.queue, abandonPaste] at some_⟩
  seq := by simp [unmoved.seq, abandonPaste]
  line given := by cases given
  lost _ := by
    rw [unmoved.line]
    simp [pasteLine, abandonPaste]
  grown := by simp [unmoved.said, abandonPaste]
  counted given := by cases given

/-- A paste puts its chunks behind what waits, and sends what may be sent. -/
theorem paste_moves (flowing : session.Flowing) (term : TerminalId) (bytes : Bytes) :
    Moves session (session.paste term bytes) (pasteChunks term session.nextPasteSeq bytes) false 0 := by
  rw [paste]
  split
  · rename_i empty
    obtain rfl := List.isEmpty_iff.mp empty
    exact Unmoved.refl.moves flowing
  · obtain ⟨flows, line, seq, grown⟩ := pumpPaste_spec
      { session with
        pasteQueue := session.pasteQueue ++ pasteChunks term session.nextPasteSeq bytes
        nextPasteSeq := session.nextPasteSeq +
          UInt32.ofNat (pasteChunks term session.nextPasteSeq bytes).length } flowing.within
    exact ⟨flows, seq, fun _ => line.trans (by simp [pasteLine]), fun given => (by cases given),
      grown, fun _ => (pumpPaste_counted _).le⟩

/-- An acknowledgement has the next chunk sent. -/
theorem pasteAck_moves (flowing : session.Flowing) :
    Moves session (pumpPaste { session with pasteInFlight := session.pasteInFlight - 1 }) [] false 1 := by
  obtain ⟨flows, line, seq, grown⟩ := pumpPaste_spec
    { session with pasteInFlight := session.pasteInFlight - 1 }
    ((Nat.sub_le _ _).trans flowing.within)
  refine ⟨flows, seq.trans (by simp), fun _ => line.trans (by simp [pasteLine]),
    fun given => (by cases given), grown, fun _ => ?_⟩
  have counted := pumpPaste_counted { session with pasteInFlight := session.pasteInFlight - 1 }
  dsimp only at counted
  omega

section

variable [CkVision]

/-- What a client hears moves its pastes only if it is an acknowledgement, or ends its stay. -/
theorem hear_moves (flowing : session.Flowing) (message : Message) :
    Moves session (session.handle message) [] (session.abandons (.hear message))
      (answers (.hear message)) := by
  have idle {after : ServerSession} (unmoved : Unmoved session after) :
      Moves session after [] false 0 := unmoved.moves flowing
  cases message with
  | attached attached => exact idle (.handleAttached session attached)
  | layoutDelta layout =>
      rw [handle]
      split
      · exact idle (.adoptSessionDesktop session _ _)
      · exact idle .refl
  | pasteAck ack => exact pasteAck_moves session flowing
  | readerMode told =>
      rw [handle]
      split
      · exact idle (.setAttachMode session _)
      · exact idle (.setAttachMode session _)
      · exact idle .refl
  | detached detached =>
      rw [handle, onDetached, abandons]
      cases leaving : session.leaving with
      | true => exact idle ⟨rfl, rfl, rfl, rfl⟩
      | false =>
          rw [if_neg Bool.false_ne_true]
          refine abandoned_moves (.then_request ?_ rfl)
          exact ⟨rfl, rfl, rfl, rfl⟩
  | gridDelta delta =>
      rw [handle]
      split
      · exact idle (.requestSnapshot session)
      · exact idle ⟨rfl, rfl, rfl, rfl⟩
  | termOpened opened => exact idle (.trans (.ensureTerminal session opened.term) ⟨rfl, rfl, rfl, rfl⟩)
  | termClosed closed => exact idle (.handleClosed session closed)
  | termMeta said => exact idle ⟨rfl, rfl, rfl, rfl⟩
  | clipboardSet clipboard => exact idle ⟨rfl, rfl, rfl, rfl⟩
  | printState printing => exact idle ⟨rfl, rfl, rfl, rfl⟩
  | printJobAdded added => exact idle ⟨rfl, rfl, rfl, rfl⟩
  | termDiagnostic said => exact idle ⟨rfl, rfl, rfl, rfl⟩
  | imageAddBegin begins =>
      rw [handle]
      exact idle (.hearPicture session _)
  | imageChunk chunk =>
      rw [handle]
      exact idle (.hearPicture session _)
  | imageEnd ends =>
      rw [handle]
      exact idle (.hearPicture session _)
  | imagePlace place =>
      rw [handle]
      exact idle (.hearPicture session _)
  | imageRemove remove =>
      rw [handle]
      exact idle (.hearPicture session _)
  | _ => exact idle .refl

/-- What an event makes of a client's pastes. -/
theorem step_moves (flowing : session.Flowing) (event : ReaderEvent)
    (fair : ∀ message, event = .say message → pasteChunkOf message = none) :
    Moves session (session.step event) (event.pastes session.nextPasteSeq)
      (session.abandons event) (answers event) := by
  have idle {after : ServerSession} (unmoved : Unmoved session after) :
      Moves session after [] false 0 := unmoved.moves flowing
  cases event with
  | hear message => exact hear_moves session flowing message
  | heal =>
      rw [step, healIfNeeded]
      split
      · exact idle (.requestSnapshot session)
      · exact idle .refl
  | switchTo id mode desktop cellPixels =>
      rw [step, switchTo, abandons]
      by_cases same : session.attached ∧ session.session = id ∧ session.mode = mode
      · simp only [same]
        exact idle .refl
      · rw [if_neg same]
        have away : (!(session.attached && session.session = id && session.mode = mode)) = true := by
          rw [Bool.not_eq_true', Bool.eq_false_iff]
          intro all
          simp only [Bool.and_eq_true, decide_eq_true_eq] at all
          exact same ⟨all.1.1, all.1.2, all.2⟩
        rw [away]
        refine abandoned_moves (.then_attach ?_ _ _ _)
        exact ⟨rfl, rfl, rfl, rfl⟩
  | setReaderMode scope mode =>
      rw [step, setReaderMode]
      split
      · exact idle .refl
      · refine idle (.then_request ?_ rfl)
        split
        · exact .setAttachMode session mode
        · exact .refl
  | paste term bytes => exact paste_moves session flowing term bytes
  | desktopResized desktop cellPixels =>
      rw [step, desktopResized]
      split
      · exact idle .refl
      · split
        · exact idle .refl
        · dsimp only
          split
          · exact idle ⟨rfl, rfl, rfl, rfl⟩
          · refine idle (.then_request ?_ rfl)
            exact ⟨rfl, rfl, rfl, rfl⟩
  | reportLayout entries =>
      rw [step, reportLayout]
      split
      · exact idle .refl
      · refine idle (.then_request ?_ rfl)
        exact ⟨rfl, rfl, rfl, rfl⟩
  | watchStats on =>
      rw [step, setStatsWatched]
      split
      · exact idle .refl
      · refine idle (.then_request ?_ rfl)
        exact ⟨rfl, rfl, rfl, rfl⟩
  | capabilities hostSixel => exact idle ⟨rfl, rfl, rfl, rfl⟩
  | leave =>
      refine idle (.then_request ?_ rfl)
      exact ⟨rfl, rfl, rfl, rfl⟩
  | say message => exact idle (.request session (fair message rfl))
  | lost => exact abandoned_moves ⟨rfl, rfl, rfl, rfl⟩

end

/-! ### Runs -/

/-- A client that has pasted nothing yet. Windows say what they like, but pasting is the reader's. -/
def pastingSystem [CkVision] : System ServerSession ReaderEvent where
  initial session := session.sent = [] ∧ session.pasteQueue = [] ∧ session.pasteInFlight = 0
  allows _
    | .say message => pasteChunkOf message = none
    | _ => True
  step session event := session.step event

instance [CkVision] (session : ServerSession) :
    ∀ event, Decidable (pastingSystem.allows session event)
  | .say message => inferInstanceAs (Decidable (pasteChunkOf message = none))
  | .hear _ | .heal | .switchTo .. | .setReaderMode .. | .paste .. | .desktopResized ..
  | .reportLayout _ | .watchStats _ | .capabilities _ | .leave | .lost => .isTrue trivial

/-- The chunks of a paste are numbered one after the other. -/
theorem pasteChunks_seqs (term : TerminalId) (seq : UInt32) (bytes : Bytes) :
    (pasteChunks term seq bytes).map PasteWaiting.seq =
      (List.range (pasteChunks term seq bytes).length).map fun index => seq + UInt32.ofNat index := by
  simp only [pasteChunks, List.map_map, List.length_map, List.length_zipIdx]
  generalize pieces kPasteChunkBytes bytes = cut
  have numbers : (cut.zipIdx).map Prod.snd = List.range cut.length := by
    rw [List.zipIdx_map_snd, List.range_eq_range']
  rw [← numbers, List.map_map]
  rfl

/-- The chunks of all pastes are numbered one after the other. -/
theorem pastesOf_seqs (seq : UInt32) (events : List ReaderEvent) :
    (pastesOf seq events).map PasteWaiting.seq =
      (List.range (pastesOf seq events).length).map fun index => seq + UInt32.ofNat index := by
  induction events generalizing seq with
  | nil => rfl
  | cons event events ih =>
      have first : (event.pastes seq).map PasteWaiting.seq =
          (List.range (event.pastes seq).length).map fun index => seq + UInt32.ofNat index := by
        cases event with
        | paste term bytes => exact pasteChunks_seqs term seq bytes
        | _ => rfl
      rw [pastesOf, List.map_append, ih, first, List.length_append, List.range_add, List.map_append,
        List.map_map]
      congr 2
      ext1 index
      rw [Function.comp_apply, UInt32.ofNat_add, UInt32.add_assoc]

section

variable [CkVision] {start : ServerSession} {events : List ReaderEvent}

/-- Whether a run has come to giving a paste up with some of it still waiting. -/
def GaveUp (start : ServerSession) (events : List ReaderEvent) : Prop :=
  ∃ before event later middle, events = before ++ event :: later ∧
    pastingSystem.Runs start before middle ∧ middle.abandons event = true ∧ middle.pasteQueue ≠ []

/-- What was given up stays so. -/
theorem GaveUp.more (gave : GaveUp start events) (further : List ReaderEvent) :
    GaveUp start (events ++ further) := by
  obtain ⟨before, event, later, middle, rfl, run, abandons⟩ := gave
  exact ⟨before, event, later ++ further, middle, by simp, run, abandons⟩

/-- Whether some event finds pastes waiting and has them given up. -/
def givesUp : ServerSession → List ReaderEvent → Bool
  | _, [] => false
  | session, event :: events =>
      session.abandons event && !session.pasteQueue.isEmpty || (session.step event).givesUp events

/-- What a run gave up is found by going through its events. -/
theorem GaveUp.givesUp (gave : GaveUp start events) : start.givesUp events = true := by
  obtain ⟨before, event, later, middle, rfl, run, abandons, waits⟩ := gave
  have ends := run.taken.2.2
  clear run
  induction before generalizing start with
  | nil =>
      obtain rfl : start = middle := ends
      simp [ServerSession.givesUp, abandons, waits]
  | cons first before ih =>
      have later := @ih (start.step first) ends
      rw [List.cons_append, ServerSession.givesUp, later, Bool.or_true]

/-- What holds of a client's pastes when it has been through some events. -/
structure Accounted (start : ServerSession) (events : List ReaderEvent) (session : ServerSession) :
    Prop where
  flowing : session.Flowing
  seq : session.nextPasteSeq =
    start.nextPasteSeq + UInt32.ofNat (pastesOf start.nextPasteSeq events).length
  line : session.pasteLine.Sublist ((pastesOf start.nextPasteSeq events).map PasteWaiting.chunk)
  whole : ¬GaveUp start events →
    session.pasteLine = (pastesOf start.nextPasteSeq events).map PasteWaiting.chunk

/-- Nothing has been pasted at first. -/
theorem Accounted.begin (initial : pastingSystem.initial start) : Accounted start [] start := by
  obtain ⟨silent, empty, none_⟩ := initial
  have line : start.pasteLine = [] := by simp [pasteLine, silent, empty, pastedIn]
  exact ⟨⟨by simp [none_], fun some_ => absurd empty some_⟩, by simp [pastesOf],
    by simp [line], fun _ => line⟩

/-- One more event is accounted for. -/
theorem Accounted.step {session : ServerSession} (accounted : Accounted start events session)
    {event : ReaderEvent}
    (moves : Moves session (session.step event) (event.pastes session.nextPasteSeq)
      (session.abandons event) (answers event))
    (gives : session.abandons event = true → session.pasteQueue ≠ [] →
      GaveUp start (events ++ [event])) :
    Accounted start (events ++ [event]) (session.step event) := by
  have longer : pastesOf start.nextPasteSeq (events ++ [event]) =
      pastesOf start.nextPasteSeq events ++ event.pastes session.nextPasteSeq := by
    rw [pastesOf_concat, ← accounted.seq]
  refine ⟨moves.flowing, ?_, ?_, fun never => ?_⟩
  · rw [moves.seq, accounted.seq, longer, List.length_append, UInt32.ofNat_add, UInt32.add_assoc,
      ← accounted.seq]
  · rw [longer, List.map_append]
    cases given : session.abandons event with
    | false =>
        rw [moves.line given]
        exact accounted.line.append (List.Sublist.refl _)
    | true =>
        obtain ⟨left, asked⟩ := moves.lost given
        rw [left, asked, List.map_nil, List.append_nil]
        exact (List.sublist_append_left _ _).trans accounted.line
  · have before : ¬GaveUp start events := fun gave => never (gave.more [event])
    rw [longer, List.map_append, ← accounted.whole before]
    cases given : session.abandons event with
    | false => rw [moves.line given]
    | true =>
        -- What is given up with nothing waiting has been sent.
        have idle : session.pasteQueue = [] := by
          by_contra waits
          exact never (gives given waits)
        obtain ⟨left, asked⟩ := moves.lost given
        rw [left, asked, pasteLine, idle, List.map_nil, List.append_nil, List.append_nil]

/-- Every run is accounted for. -/
theorem Accounted.along {session : ServerSession} (run : pastingSystem.Runs start events session) :
    Accounted start events session := by
  induction run with
  | initial valid => exact .begin valid
  | @step session events event prior allowed ih =>
      have fair (message : Message) (said : event = .say message) : pasteChunkOf message = none := by
        subst said
        exact allowed
      exact ih.step (step_moves session ih.flowing event fair)
        fun gives waits => ⟨events, event, [], session, rfl, prior, gives, waits⟩

/-- In every run no more chunks are sent ahead of the acknowledgements than the credit, and none
waits that may be sent. What was sent and what waits are chunks of the pastes asked for, in their
order and each once; none is missing unless a paste was given up with some of it waiting. -/
theorem pastes_leave {session : ServerSession} (run : pastingSystem.Runs start events session) :
    session.pasteInFlight ≤ kPasteCredit ∧
      (session.pasteQueue ≠ [] → session.pasteInFlight = kPasteCredit) ∧
      session.pasteLine.Sublist
        ((pastesOf start.nextPasteSeq events).map PasteWaiting.chunk) ∧
      (¬GaveUp start events →
        session.pasteLine = (pastesOf start.nextPasteSeq events).map PasteWaiting.chunk) ∧
      (pastesOf start.nextPasteSeq events).map PasteWaiting.seq =
        (List.range (pastesOf start.nextPasteSeq events).length).map fun index =>
          start.nextPasteSeq + UInt32.ofNat index := by
  have accounted := Accounted.along run
  exact ⟨accounted.flowing.within, accounted.flowing.full, accounted.line, accounted.whole,
    pastesOf_seqs _ _⟩

end

/-- Three letters pasted, of which one has to wait. When the first is acknowledged the last is sent,
and the session left for another. There two are pasted and sent, and a last one waits. -/
def letterEvents : List ReaderEvent :=
  [.paste 1 [65], .paste 2 [66], .paste 1 [67], .hear (.pasteAck ⟨1⟩),
    .switchTo 2 .join ⟨80, 24⟩ {}, .paste 1 [68], .paste 1 [69], .paste 1 [70]]

/-- Where the letters lead. -/
def letterPastes : ServerSession := letterEvents.foldl (@pastingSystem asciiVision).step {}

/-- The letters can be pasted. -/
theorem letterPastes_run : (@pastingSystem asciiVision).Runs {} letterEvents letterPastes := by
  have begun : (@pastingSystem asciiVision).Runs {} [] {} := .initial ⟨rfl, rfl, rfl⟩
  exact begun.follow letterEvents (by decide)

/-- All letters are there in their order, though a session was left: five sent and one waiting. -/
theorem pastes_leave_letter :
    letterPastes.pasteInFlight = kPasteCredit ∧
      letterPastes.pasteLine.map PasteChunk.bytes = [[65], [66], [67], [68], [69], [70]] ∧
      (pastedIn letterPastes.sent).map PasteChunk.seq = [1, 2, 3, 4, 5] ∧
      (pastesOf 1 letterEvents).map PasteWaiting.seq = [1, 2, 3, 4, 5, 6] := by
  have waits : letterPastes.pasteQueue ≠ [] ∧ @givesUp asciiVision {} letterEvents = false ∧
      (pastedIn letterPastes.sent).map PasteChunk.seq = [1, 2, 3, 4, 5] ∧
      ((pastesOf 1 letterEvents).map PasteWaiting.chunk).map PasteChunk.bytes =
        [[65], [66], [67], [68], [69], [70]] ∧ (pastesOf 1 letterEvents).length = 6 := by
    decide +kernel
  obtain ⟨_, full, _, whole, numbered⟩ := @pastes_leave asciiVision _ _ _ letterPastes_run
  have all := whole fun gave =>
    Bool.false_ne_true (waits.2.1.symm.trans (@GaveUp.givesUp asciiVision _ _ gave))
  refine ⟨full waits.1, ?_, waits.2.2.1, ?_⟩
  · rw [all]
    exact waits.2.2.2.1
  · refine numbered.trans ?_
    change (List.range (pastesOf 1 letterEvents).length).map _ = _
    rw [waits.2.2.2.2]
    rfl

end ServerSession

/-! ### Both ends of a connection -/

/-- A client on one connection, and what became of its chunks: how many have arrived, which of them
the server holds unanswered, and the acknowledgements on their way back. -/
structure PasteJoint where
  client : ServerSession := {}
  arrived : Nat := 0
  held : List PasteChunk := []
  acks : List UInt32 := []

namespace PasteJoint

/-- How many chunks have been sent of which no acknowledgement has been received. -/
def unanswered (joint : PasteJoint) : Nat :=
  ((pastedIn joint.client.sent).length - joint.arrived) + joint.held.length + joint.acks.length

/-- The client acts or hears something, a chunk arrives, the server answers one, or an answer is
heard. -/
inductive Event where
  | reader (event : ReaderEvent)
  | arrive
  | answer (index : Nat)
  | deliver

section

variable [CkVision]

/-- Each event carried out. -/
def step (joint : PasteJoint) : Event → PasteJoint
  | .reader event => { joint with client := joint.client.step event }
  | .arrive =>
      { joint with
        arrived := joint.arrived + 1
        held := joint.held ++ (pastedIn joint.client.sent)[joint.arrived]?.toList }
  | .answer index =>
      { joint with
        held := joint.held.eraseIdx index
        acks := joint.acks ++ (joint.held[index]?.map PasteChunk.seq).toList }
  | .deliver =>
      { joint with
        client := joint.client.step (.hear (.pasteAck ⟨joint.acks.headD 0⟩))
        acks := joint.acks.tail }

/-- Chunks arrive and acknowledgements are delivered in their order; the server answers what it
holds when it likes. The connection lasts, and acknowledgements come over it only. -/
def system : System PasteJoint Event where
  initial joint := ServerSession.pastingSystem.initial joint.client ∧ joint.arrived = 0 ∧
    joint.held = [] ∧ joint.acks = []
  allows joint
    | .reader event => ServerSession.pastingSystem.allows joint.client event ∧ event ≠ .lost ∧
        ServerSession.answers event = 0
    | .arrive => joint.arrived < (pastedIn joint.client.sent).length
    | .answer index => index < joint.held.length
    | .deliver => joint.acks ≠ []
  step := step

instance : ∀ event : ReaderEvent, Decidable (event = .lost)
  | .lost => .isTrue rfl
  | .hear _ | .heal | .switchTo .. | .setReaderMode .. | .paste .. | .desktopResized ..
  | .reportLayout _ | .watchStats _ | .capabilities _ | .leave | .say _ => .isFalse nofun

instance (joint : PasteJoint) : ∀ event, Decidable (system.allows joint event)
  | .reader event => inferInstanceAs
      (Decidable (ServerSession.pastingSystem.allows joint.client event ∧ event ≠ .lost ∧
        ServerSession.answers event = 0))
  | .arrive => inferInstanceAs (Decidable (_ < _))
  | .answer index => inferInstanceAs (Decidable (index < joint.held.length))
  | .deliver => inferInstanceAs (Decidable (joint.acks ≠ []))

/-- Whether an event has a client give its pastes up with some of them on their way. -/
def Hasty (joint : PasteJoint) (event : Event) : Prop :=
  ∃ asked, event = .reader asked ∧ joint.client.abandons asked = true ∧
    joint.client.pasteInFlight ≠ 0

instance (joint : PasteJoint) : ∀ event, Decidable (joint.Hasty event)
  | .reader asked =>
      decidable_of_iff
        (joint.client.abandons asked = true ∧ joint.client.pasteInFlight ≠ 0)
        ⟨fun both => ⟨asked, rfl, both⟩, fun ⟨_, same, both⟩ => (Event.reader.inj same) ▸ both⟩
  | .arrive | .answer _ | .deliver => .isFalse nofun

/-- A client that gives nothing up while some of it is on its way. -/
def patientSystem : System PasteJoint Event :=
  system.guarded fun joint event => ¬joint.Hasty event

/-- Every chunk that is unanswered is counted by the client as on its way. -/
structure Counted (joint : PasteJoint) : Prop where
  flowing : joint.client.Flowing
  sent : joint.arrived ≤ (pastedIn joint.client.sent).length
  counts : joint.unanswered ≤ joint.client.pasteInFlight

namespace Counted

variable {joint : PasteJoint}

/-- What the client does is counted, if it gives nothing up that is on its way. -/
theorem client (counted : Counted joint) {event : ReaderEvent}
    (fair : ∀ message, event = .say message → pasteChunkOf message = none)
    (patient : joint.client.abandons event = true → joint.client.pasteInFlight = 0)
    {acks : List UInt32}
    (answered : joint.acks.length = acks.length + ServerSession.answers event) :
    Counted { joint with client := joint.client.step event, acks := acks } := by
  have moves := ServerSession.step_moves joint.client counted.flowing event fair
  have sent := counted.sent
  have counts := counted.counts
  have grown : (pastedIn joint.client.sent).length ≤
      (pastedIn (joint.client.step event).sent).length := moves.grown
  rw [unanswered] at counts
  refine ⟨moves.flowing, sent.trans grown, ?_⟩
  dsimp only [unanswered]
  cases given : joint.client.abandons event with
  | false =>
      have more := moves.counted given
      omega
  | true =>
      have idle := patient given
      have line := congrArg List.length (moves.lost given).1
      rw [ServerSession.pasteLine, List.length_append] at line
      omega

/-- Every step of a patient client keeps the count. -/
theorem step (counted : Counted joint) {event : Event} (allowed : patientSystem.allows joint event) :
    Counted (joint.step event) := by
  obtain ⟨possible, patient⟩ := allowed
  have counts := counted.counts
  have sent := counted.sent
  rw [unanswered] at counts
  cases event with
  | reader event =>
      obtain ⟨fair, _, unheard⟩ := possible
      refine counted.client (fun message said => ?_) (fun given => ?_) (by rw [unheard, Nat.add_zero])
      · subst said
        exact fair
      · by_contra busy
        exact patient ⟨event, rfl, given, busy⟩
  | arrive =>
      have there : joint.arrived < (pastedIn joint.client.sent).length := possible
      refine ⟨counted.flowing, there, ?_⟩
      simp only [PasteJoint.step, unanswered, List.length_append,
        List.getElem?_eq_getElem there, Option.toList_some, List.length_singleton]
      omega
  | answer index =>
      have there : index < joint.held.length := possible
      refine ⟨counted.flowing, sent, ?_⟩
      simp only [PasteJoint.step, unanswered, List.length_append, List.length_eraseIdx, there,
        if_true, List.getElem?_eq_getElem there, Option.map_some, Option.toList_some,
        List.length_singleton]
      omega
  | deliver =>
      have some_ : joint.acks ≠ [] := possible
      have answered : joint.acks.length = joint.acks.tail.length +
          ServerSession.answers (.hear (.pasteAck ⟨joint.acks.headD 0⟩)) := by
        have positive := List.length_pos_iff.mpr some_
        rw [List.length_tail]
        change joint.acks.length = joint.acks.length - 1 + 1
        omega
      have idle : joint.client.abandons (.hear (.pasteAck ⟨joint.acks.headD 0⟩)) = false := rfl
      exact counted.client (fun _ said => by cases said)
        (fun given => absurd (idle.symm.trans given) Bool.false_ne_true) answered

/-- Whatever a patient client goes through is counted. -/
theorem of_reachable (reached : patientSystem.Reachable joint) : Counted joint := by
  refine reached.invariant (fun joint valid => ?_) fun joint event counted allowed =>
    counted.step allowed
  obtain ⟨fresh, none_arrived, none_held, no_acks⟩ := valid
  have accounted := ServerSession.Accounted.begin fresh
  refine ⟨accounted.flowing, by rw [none_arrived]; exact Nat.zero_le _, ?_⟩
  simp [unanswered, fresh.1, none_arrived, none_held, no_acks, pastedIn]

omit [CkVision] in
/-- No more is unanswered than the credit. -/
theorem within (counted : Counted joint) : joint.unanswered ≤ kPasteCredit :=
  counted.counts.trans counted.flowing.within

end Counted

/-- On one connection, as long as nothing is given up while some of it is on its way, no more chunks
are unanswered than the credit, and so the server holds no more of them. -/
theorem credit_respected {joint : PasteJoint} (reached : patientSystem.Reachable joint) :
    joint.unanswered ≤ kPasteCredit ∧ joint.held.length ≤ kPasteCredit := by
  have within := (Counted.of_reachable reached).within
  refine ⟨within, ?_⟩
  rw [unanswered] at within
  omega

end

/-- A letter pasted and answered, and a session left for another, where one is pasted. -/
def patientEvents : List Event :=
  [.reader (.paste 1 [65]), .arrive, .answer 0, .deliver,
    .reader (.switchTo 2 .join ⟨80, 24⟩ {}), .reader (.paste 1 [66]), .arrive]

/-- Where the patient events lead. -/
def patientJoint : PasteJoint := patientEvents.foldl (@system asciiVision).step {}

/-- The patient events can happen. -/
theorem patientEvents_allowed : (@system asciiVision).AllowsAll {} patientEvents := by
  decide +kernel

/-- Nothing is given up on its way in them. -/
theorem patientEvents_calm : (@system asciiVision).Throughout
    (fun joint event => ¬joint.Hasty event) {} patientEvents := by
  decide +kernel

/-- The patient events are a run of a patient client. -/
theorem patientJoint_reached : (@patientSystem asciiVision).Reachable patientJoint := by
  have begun : (@patientSystem asciiVision).Reachable {} :=
    .start ⟨⟨rfl, rfl, rfl⟩, rfl, rfl, rfl⟩
  exact begun.follow patientEvents (patientEvents_allowed.guard (fun _ _ calm => calm) patientEvents_calm)

/-- No more than the credit is on its way in it. -/
theorem credit_respected_patient : patientJoint.unanswered ≤ kPasteCredit :=
  (@credit_respected asciiVision _ patientJoint_reached).1

/-- Two letters pasted, a session left for another with neither acknowledged, and one more. -/
def hastyEvents : List Event :=
  [.reader (.paste 1 [65]), .reader (.paste 1 [66]), .reader (.switchTo 2 .join ⟨80, 24⟩ {}),
    .reader (.paste 1 [67])]

/-- Where the hasty events lead. -/
def hastyJoint : PasteJoint := hastyEvents.foldl (@system asciiVision).step {}

/-- Three chunks are on their way then, of none of which anything was heard. -/
theorem credit_exceeded :
    (@system asciiVision).Reachable hastyJoint ∧ ¬hastyJoint.unanswered ≤ kPasteCredit := by
  have begun : (@system asciiVision).Reachable {} := .start ⟨⟨rfl, rfl, rfl⟩, rfl, rfl, rfl⟩
  exact ⟨begun.follow hastyEvents (by decide +kernel), by decide +kernel⟩

end PasteJoint

end Ckmux
