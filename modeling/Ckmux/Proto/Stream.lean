import Mathlib
import Ckmux.Grammar.Framing
import Ckmux.Proto.Canonical

/-!
# A stream through the receive buffer

`FrameReader` is an instance of a framing: what is pending in its buffer is all
that decides what it takes next. So the messages of a stream do not depend on
how it was cut into reads, and a read is refused only for the room it would need
behind the frame that has not arrived whole.
-/

namespace Ckmux.Proto

open Grammar

/-! ### The buffer -/

namespace FrameReader

/-- What is still to be read stays when a reader is compacted. -/
theorem pending_compact (reader : FrameReader) : reader.compact.pending = reader.pending := by
  unfold compact
  split
  · rfl
  · simp [pending]

/-- A compacted reader has kept only what is still to be read. -/
theorem buffer_compact (reader : FrameReader) : reader.compact.buffer = reader.pending := by
  unfold compact pending
  split
  · rename_i zero
    simp [zero]
  · rfl

/-- A compacted reader has taken nothing out yet. -/
theorem consumed_compact (reader : FrameReader) : reader.compact.consumed = 0 := by
  unfold compact
  split
  · assumption
  · rfl

/-- Whether bytes are taken depends on what is pending and on nothing else. -/
theorem append_accepts (reader : FrameReader) (bytes : Bytes) :
    (reader.append bytes).1 = true ↔ reader.pending.length + bytes.length ≤ kMaxBuffered := by
  unfold append
  dsimp only
  rw [buffer_compact]
  split <;> simp <;> omega

/-- Bytes that are taken go behind what is pending. -/
theorem pending_append {reader : FrameReader} {bytes : Bytes}
    (accepted : (reader.append bytes).1 = true) :
    (reader.append bytes).2.pending = reader.pending ++ bytes := by
  rw [append_accepts] at accepted
  unfold append
  dsimp only
  rw [buffer_compact, if_neg (by omega)]
  simp [pending, consumed_compact]

/-- Bytes that are refused leave what is pending alone. -/
theorem pending_append_refused {reader : FrameReader} {bytes : Bytes}
    (refused : (reader.append bytes).1 = false) :
    (reader.append bytes).2.pending = reader.pending := by
  have past : ¬(reader.append bytes).1 = true := by simp [refused]
  rw [append_accepts] at past
  unfold append
  dsimp only
  rw [buffer_compact, if_pos (by omega), pending_compact]

end FrameReader

/-! ### Frames as a framing -/

/-- More bytes behind a header change nothing about it. -/
theorem readHeader_append {bytes body : Bytes} {fields : UInt32 × UInt16 × UInt16}
    (read : readHeader.run bytes = some (fields, body)) (more : Bytes) :
    readHeader.run (bytes ++ more) = some (fields, body ++ more) := by
  obtain ⟨payloadLength, type, flags⟩ := fields
  obtain ⟨front, rfl, written⟩ := readHeader_echoes _ _ _ read
  have sends : Sends (Put.seq [Put.u32 payloadLength, Put.u16 type, Put.u16 flags]) readHeader
      (payloadLength, type, flags) :=
    .cons (.u32 _) <| .cons (.u16 _) <| .cons (.u16 _) <| .nil _
  have sized := (Occupies.cons (.u32 _) <| .cons (.u16 _) <| .cons (.u16 _) .nil) front written
  rw [List.append_assoc]
  exact sends front written (by omega) (body ++ more)

section

variable [CkVision]

/-- More bytes change only what was incomplete. -/
theorem decodeWith_append {rebuild : Rebuild} {bytes : Bytes} {result : DecodeResult}
    (decoded : decodeWith rebuild bytes = result)
    (complete : ∀ condemned, result ≠ .error (.incomplete, condemned)) (more : Bytes) :
    decodeWith rebuild (bytes ++ more) = result := by
  unfold decodeWith at decoded ⊢
  cases headerRead : readHeader.run bytes with
  | none =>
      rw [headerRead] at decoded
      exact absurd decoded.symm (complete 0)
  | some pair =>
      obtain ⟨⟨payloadLength, typeNumber, flags⟩, body⟩ := pair
      rw [headerRead] at decoded
      rw [readHeader_append headerRead]
      dsimp only at decoded ⊢
      cases named : MessageType.ofWire typeNumber with
      | none =>
          rw [named] at decoded
          exact decoded
      | some type =>
          rw [named] at decoded
          dsimp only at decoded ⊢
          by_cases large : payloadLength.toNat > payloadCap type
          · rw [if_pos large] at decoded ⊢
            exact decoded
          by_cases reserved : flags ≠ 0
          · rw [if_neg large, if_pos reserved] at decoded ⊢
            exact decoded
          by_cases short : body.length < payloadLength.toNat
          · rw [if_neg large, if_neg reserved, if_pos short] at decoded
            exact absurd decoded.symm (complete 0)
          · rw [if_neg large, if_neg reserved, if_neg short] at decoded
            rw [if_neg large, if_neg reserved, if_neg (by rw [List.length_append]; omega),
              List.take_append_of_le_length (by omega)]
            exact decoded

/-- What the decoder makes of the front of some bytes. -/
def look (bytes : Bytes) : Look Message DecodeError :=
  match decode bytes with
  | .ok (message, taken) => .frame message taken
  | .error (.incomplete, _) => .wait
  | .error (error, _) => .fail error

/-- The framing sees a frame where decoding finds a message. -/
theorem look_eq_frame {bytes : Bytes} {message : Message} {taken : Nat} :
    look bytes = .frame message taken ↔ decode bytes = .ok (message, taken) := by
  unfold look
  rcases decode bytes with ⟨error, condemned⟩ | ⟨other, count⟩
  · cases error <;> simp
  · simp

/-- The framing fails where decoding does, unless only bytes are missing. -/
theorem look_eq_fail {bytes : Bytes} {error : DecodeError} :
    look bytes = .fail error ↔
      error ≠ .incomplete ∧ ∃ condemned, decode bytes = .error (error, condemned) := by
  unfold look
  rcases decode bytes with ⟨other, condemned⟩ | ⟨other, count⟩
  · cases other <;> simp only [Look.fail.injEq, reduceCtorEq, Except.error.injEq, Prod.mk.injEq,
      exists_and_left, exists_eq', and_true, false_iff, not_and] <;> grind
  · simp

/-- The framing waits where bytes are missing. -/
theorem look_eq_wait {bytes : Bytes} :
    look bytes = .wait ↔ ∃ condemned, decode bytes = .error (.incomplete, condemned) := by
  unfold look
  rcases decode bytes with ⟨other, condemned⟩ | ⟨other, count⟩
  · cases other <;> simp
  · simp

/-- A message takes its whole frame. -/
theorem look_taken {bytes : Bytes} {message : Message} {taken : Nat}
    (found : look bytes = .frame message taken) : 0 < taken ∧ taken ≤ bytes.length := by
  obtain ⟨type, payload, rest, rfl, -, rfl, -⟩ := decodeWith_eq_ok (look_eq_frame.mp found)
  simp only [List.length_append, header_length, kHeaderBytes]
  omega

/-- A frame that is found is found whatever comes behind it. -/
theorem look_frame_append {bytes : Bytes} {message : Message} {taken : Nat}
    (found : look bytes = .frame message taken) (more : Bytes) :
    look (bytes ++ more) = .frame message taken := by
  rw [look_eq_frame] at found ⊢
  exact decodeWith_append found (by simp) more

/-- A failure stays one whatever comes behind it. -/
theorem look_fail_append {bytes : Bytes} {error : DecodeError}
    (found : look bytes = .fail error) (more : Bytes) : look (bytes ++ more) = .fail error := by
  rw [look_eq_fail] at found ⊢
  obtain ⟨lasting, condemned, decoded⟩ := found
  refine ⟨lasting, condemned, decodeWith_append decoded ?_ more⟩
  rintro other same
  cases same
  exact lasting rfl

/-- The frames of the protocol. -/
def framing : Framing Message DecodeError where
  look := look
  taken_pos found := (look_taken found).1
  taken_le found := (look_taken found).2
  frame_append := look_frame_append
  fail_append := look_fail_append

/-! ### The reader -/

namespace FrameReader

/-- The reader's next message is the framing's. -/
theorem next_ok {reader after : FrameReader} {message : Message}
    (taken : reader.next = (.ok message, after)) :
    ∃ size, framing.look reader.pending = .frame message size ∧
      after.pending = reader.pending.drop size := by
  unfold next at taken
  cases decoded : decode reader.pending with
  | error result =>
      rw [decoded] at taken
      cases taken
  | ok result =>
      obtain ⟨other, size⟩ := result
      rw [decoded] at taken
      dsimp only at taken
      split at taken
      · rename_i whole
        cases taken
        refine ⟨size, look_eq_frame.mpr decoded, ?_⟩
        have none : reader.pending.drop size = [] := by
          rw [pending, List.drop_drop, whole, List.drop_length]
        rw [none]
        rfl
      · cases taken
        refine ⟨size, look_eq_frame.mpr decoded, ?_⟩
        rw [pending, pending, List.drop_drop]

/-- A reader that finds no message is left as it was. -/
theorem next_error {reader after : FrameReader} {error : DecodeError}
    (stopped : reader.next = (.error error, after)) :
    after = reader ∧ ∃ condemned, decode reader.pending = .error (error, condemned) := by
  unfold next at stopped
  cases decoded : decode reader.pending with
  | error result =>
      rw [decoded] at stopped
      cases stopped
      exact ⟨rfl, _, rfl⟩
  | ok result =>
      rw [decoded] at stopped
      dsimp only at stopped
      split at stopped <;> cases stopped

/-- Messages are taken until there is none to take. -/
def drain (reader : FrameReader) : List Message × DecodeError × FrameReader :=
  match _taken : reader.next with
  | (.ok message, after) =>
      let (messages, error, last) := drain after
      (message :: messages, error, last)
  | (.error error, after) => ([], error, after)
termination_by reader.pending.length
decreasing_by
  obtain ⟨size, found, left⟩ := next_ok _taken
  have positive := framing.taken_pos found
  have within := framing.taken_le found
  rw [left, List.length_drop]
  omega

/-- Reads in order, everything drained after each; nothing once one is refused. -/
def deliver (reader : FrameReader) : List Bytes → Option (List (List Message × DecodeError))
  | [] => some []
  | chunk :: chunks =>
      match reader.append chunk with
      | (false, _) => none
      | (true, filled) =>
          let (messages, error, drained) := filled.drain
          (deliver drained chunks).map ((messages, error) :: ·)

/-- An error that no later byte cures. -/
def fatal : DecodeError → Option DecodeError
  | .incomplete => none
  | error => some error

/-- A message that is found comes first, and what the rest drains to behind it. -/
theorem drain_ok {reader after : FrameReader} {message : Message}
    (taken : reader.next = (.ok message, after)) :
    reader.drain = (message :: after.drain.1, after.drain.2.1, after.drain.2.2) := by
  rw [drain]
  split
  · rename_i same
    rw [taken] at same
    cases same
    rfl
  · rename_i same
    rw [taken] at same
    cases same

/-- A reader that finds no message drains to nothing. -/
theorem drain_error {reader after : FrameReader} {error : DecodeError}
    (stopped : reader.next = (.error error, after)) : reader.drain = ([], error, after) := by
  rw [drain]
  split
  · rename_i same
    rw [stopped] at same
    cases same
  · rename_i same
    rw [stopped] at same
    cases same
    rfl

/-- Where a reader stops, the framing stops, with an error if it is fatal. -/
theorem next_error_look {reader after : FrameReader} {error : DecodeError}
    (stopped : reader.next = (.error error, after)) :
    framing.drain reader.pending = ⟨[], reader.pending, fatal error⟩ := by
  obtain ⟨-, condemned, decoded⟩ := next_error stopped
  by_cases waiting : error = .incomplete
  · subst waiting
    exact Framing.drain_wait (look_eq_wait.mpr ⟨condemned, decoded⟩)
  · rw [Framing.drain_fail (look_eq_fail.mpr ⟨waiting, condemned, decoded⟩)]
    cases error <;> first | rfl | exact absurd rfl waiting

/-- Draining the reader drains what is pending in it. -/
theorem drain_eq (reader : FrameReader) :
    framing.drain reader.pending =
      ⟨reader.drain.1, reader.drain.2.2.pending, fatal reader.drain.2.1⟩ := by
  induction reader using drain.induct with
  | case1 reader message after taken messages error last drained ih =>
      obtain ⟨size, found, left⟩ := next_ok taken
      rw [Framing.drain_frame found, drain_ok taken, ← left, ih]
  | case2 reader error after stopped =>
      rw [next_error_look stopped, drain_error stopped, (next_error stopped).1]

/-- The messages of some reads. -/
def messages (log : List (List Message × DecodeError)) : List Message := log.flatMap Prod.fst

/-- The first fatal error of some reads, and how many messages came before it. -/
def firstFatal : List (List Message × DecodeError) → Option (DecodeError × Nat)
  | [] => none
  | (taken, .incomplete) :: later =>
      (firstFatal later).map fun (error, count) => (error, taken.length + count)
  | (taken, error) :: _ => some (error, taken.length)

omit [CkVision] in
/-- A round with a fatal error ends the rounds; any other adds to what they take. -/
theorem firstFatal_cons (taken : List Message) (error : DecodeError)
    (later : List (List Message × DecodeError)) :
    firstFatal ((taken, error) :: later) =
      match fatal error with
      | some error => some (error, taken.length)
      | none => (firstFatal later).map fun (error, count) => (error, taken.length + count) := by
  cases error <;> rfl

/-- Reads that are all taken give what their arrival gives the framing. -/
theorem deliver_eq {reader : FrameReader} {chunks : List Bytes}
    {log : List (List Message × DecodeError)} (delivered : reader.deliver chunks = some log) :
    messages log = messagesOf (framing.deliver reader.pending chunks) ∧
      firstFatal log = firstFailure (framing.deliver reader.pending chunks) := by
  induction chunks generalizing reader log with
  | nil =>
      cases delivered
      exact ⟨rfl, rfl⟩
  | cons chunk chunks ih =>
      rw [deliver] at delivered
      split at delivered
      · cases delivered
      · rename_i filled taken
        obtain ⟨later, laterDelivered, rfl⟩ := Option.map_eq_some_iff.mp delivered
        obtain ⟨sameMessages, sameFatal⟩ := ih laterDelivered
        have accepted : (reader.append chunk).1 = true := by rw [taken]
        have pending := pending_append accepted
        rw [taken] at pending
        have drained := drain_eq filled
        rw [pending] at drained
        constructor
        · simp only [messages, List.flatMap_cons, Framing.deliver, messagesOf] at sameMessages ⊢
          rw [drained, sameMessages]
        · rw [firstFatal_cons, sameFatal, Framing.deliver, firstFailure, drained]
          dsimp only
          cases fatal filled.drain.2.1 <;> rfl

/-- A reader that holds a whole stream, none of it taken. -/
def holding (stream : Bytes) : FrameReader := { buffer := stream }

/-- One call of a reader's owner. -/
inductive Call where
  | append (bytes : Bytes)
  | next

/-- The messages some calls produce, whether or not their bytes are taken. -/
def produced (reader : FrameReader) : List Call → List Message
  | [] => []
  | .append bytes :: calls => produced (reader.append bytes).2 calls
  | .next :: calls =>
      match reader.next with
      | (.ok message, after) => message :: produced after calls
      | (.error _, after) => produced after calls

/-- A fatal error stays, whatever is appended behind it. -/
theorem produced_of_fatal {reader : FrameReader} {error : DecodeError}
    (failed : framing.look reader.pending = .fail error) (calls : List Call) :
    produced reader calls = [] := by
  induction calls generalizing reader with
  | nil => rfl
  | cons call calls ih =>
      cases call with
      | append bytes =>
          rw [produced]
          apply ih
          cases taken : (reader.append bytes).1 with
          | true =>
              rw [pending_append taken]
              exact framing.fail_append failed bytes
          | false =>
              rw [pending_append_refused taken]
              exact failed
      | next =>
          rw [produced]
          split
          · rename_i message after taken
            obtain ⟨size, found, -⟩ := next_ok taken
            rw [failed] at found
            cases found
          · rename_i other after stopped
            rw [(next_error stopped).1]
            exact ih failed

/-- However a stream is cut into reads, none of them refused, its messages and
its first fatal error are those of the whole stream in one buffer; and behind a
fatal error no call produces a message. -/
theorem deliver_cut {chunks : List Bytes} {log : List (List Message × DecodeError)}
    (delivered : deliver {} chunks = some log) :
    let (taken, error, _) := (holding chunks.flatten).drain
    messages log = taken ∧ firstFatal log = firstFatal [(taken, error)] ∧
      ∀ (reader after : FrameReader) (error : DecodeError), reader.next = (.error error, after) →
        error ≠ .incomplete → ∀ calls, produced after calls = [] := by
  have empty : look [] = .wait := look_eq_wait.mpr ⟨0, rfl⟩
  have waiting : framing.drain (pending {}) = ⟨[], pending {}, none⟩ := Framing.drain_wait empty
  obtain ⟨sameMessages, sameFatal⟩ := deliver_eq delivered
  obtain ⟨cutMessages, cutFatal⟩ := Framing.deliver_eq waiting chunks
  have whole := drain_eq (holding chunks.flatten)
  have pending_whole : (holding chunks.flatten).pending = pending {} ++ chunks.flatten := rfl
  rw [← pending_whole, whole] at cutMessages cutFatal
  refine ⟨sameMessages.trans cutMessages, ?_, ?_⟩
  · rw [sameFatal, cutFatal, firstFatal_cons, firstFailure]
    cases fatal (holding chunks.flatten).drain.2.1 <;> rfl
  · intro reader after error stopped lasting calls
    obtain ⟨rfl, condemned, decoded⟩ := next_error stopped
    exact produced_of_fatal (look_eq_fail.mpr ⟨lasting, condemned, decoded⟩) calls

end FrameReader

end

/-- A ping cut inside its header, and behind it the beginning of another. -/
def cutPings : List Bytes :=
  [(encode (.ping ⟨7⟩)).take 3, (encode (.ping ⟨7⟩)).drop 3 ++ (encode (.ping ⟨7⟩)).take 9]

/-- A ping cut in two is delivered by the second part. -/
theorem cutPings_delivered : @FrameReader.deliver asciiVision {} cutPings =
    some [([], .incomplete), ([.ping ⟨7⟩], .incomplete)] := by
  let front : FrameReader := ⟨(encode (.ping ⟨7⟩)).take 3, 0⟩
  let whole : FrameReader := ⟨encode (.ping ⟨7⟩) ++ (encode (.ping ⟨7⟩)).take 9, 0⟩
  let taken : FrameReader := ⟨encode (.ping ⟨7⟩) ++ (encode (.ping ⟨7⟩)).take 9, 16⟩
  have first : @FrameReader.next asciiVision front = (.error .incomplete, front) := rfl
  have second : @FrameReader.next asciiVision whole = (.ok (.ping ⟨7⟩), taken) := rfl
  have third : @FrameReader.next asciiVision taken = (.error .incomplete, taken) := rfl
  have appended : FrameReader.append {} ((encode (.ping ⟨7⟩)).take 3) = (true, front) := rfl
  have completed : front.append
      ((encode (.ping ⟨7⟩)).drop 3 ++ (encode (.ping ⟨7⟩)).take 9) = (true, whole) := rfl
  simp only [cutPings, FrameReader.deliver, appended, completed,
    @FrameReader.drain_error asciiVision _ _ _ first, @FrameReader.drain_ok asciiVision _ _ _ second,
    @FrameReader.drain_error asciiVision _ _ _ third, Option.map_some]

/-- The cut does not show in what the whole gives. -/
theorem deliver_cut_pings :
    let (taken, error, _) := @FrameReader.drain asciiVision (.holding cutPings.flatten)
    [.ping ⟨7⟩] = taken ∧ none = FrameReader.firstFatal [(taken, error)] := by
  obtain ⟨sameMessages, sameFatal, -⟩ := @FrameReader.deliver_cut asciiVision _ _ cutPings_delivered
  exact ⟨sameMessages, sameFatal⟩

end Ckmux.Proto
