import Mathlib
import Ckmux.Proto.Stream

/-!
# The read loop

Both ends read what has arrived, append it, and take every complete frame. What
stays in the buffer between reads is the frame that has not arrived whole. The
buffer holds one frame of the largest kind, and no read behind it: a read is
refused exactly when it would not fit behind what stayed.
-/

namespace Ckmux.Proto

open Grammar

/-- The most one pass reads from a stream. -/
def kReadBudget : Nat := 1024 * 1024

/-- How a read loop ended. -/
inductive LoopEnd where
  | refused
  | undecodable (error : DecodeError)
  | drained (reader : FrameReader)

/-- Arrivals appended and drained in turn, until one is refused or undecodable. -/
def readLoop [CkVision] (reader : FrameReader) : List Bytes → LoopEnd
  | [] => .drained reader
  | arrived :: reads =>
      match if arrived = [] then (true, reader) else reader.append arrived with
      | (false, _) => .refused
      | (true, filled) =>
          match filled.drain with
          | (_, .incomplete, drained) => readLoop drained reads
          | (_, error, _) => .undecodable error

/-- How far past the last whole frame a place in a stream of frames is. -/
def residue : List Bytes → Nat → Nat
  | [], place => place
  | frame :: frames, place =>
      if frame.length ≤ place then residue frames (place - frame.length) else place

/-- The frames that end at or before a place. -/
def completed : List Bytes → Nat → List Bytes
  | [], _ => []
  | frame :: frames, place =>
      if frame.length ≤ place then frame :: completed frames (place - frame.length) else []

section

variable [CkVision]

/-- A frame its decoder takes. -/
def Decodes (frame : Bytes) : Prop := frame = [] ∨ ∃ accepted, decode frame = .ok accepted

/-- Behind `before`, some read finds no room behind what stayed in the buffer,
every frame before it having been taken. -/
def Crowded (before : Bytes) (reads : List Bytes) : Prop :=
  ∃ earlier read later, reads = earlier ++ read :: later ∧ read ≠ [] ∧
    (framing.drain (before ++ earlier.flatten)).stop = none ∧
    FrameReader.kMaxBuffered <
      (framing.drain (before ++ earlier.flatten)).rest.length + read.length

/-- A read is one too many at once, or one of those after it is. -/
theorem crowded_cons {before arrived : Bytes} {reads : List Bytes} :
    Crowded before (arrived :: reads) ↔
      (arrived ≠ [] ∧ (framing.drain before).stop = none ∧
        FrameReader.kMaxBuffered < (framing.drain before).rest.length + arrived.length) ∨
      Crowded (before ++ arrived) reads := by
  constructor
  · rintro ⟨earlier, read, later, split, some_bytes, going, crowded⟩
    cases earlier with
    | nil =>
        cases split
        rw [List.flatten_nil, List.append_nil] at going crowded
        exact .inl ⟨some_bytes, going, crowded⟩
    | cons first earlier =>
        cases split
        rw [List.flatten_cons, ← List.append_assoc] at going crowded
        exact .inr ⟨earlier, read, later, rfl, some_bytes, going, crowded⟩
  · rintro (⟨some_bytes, going, crowded⟩ | ⟨earlier, read, later, rfl, some_bytes, going, crowded⟩)
    · exact ⟨[], arrived, reads, rfl, some_bytes, by simpa using going, by simpa using crowded⟩
    · refine ⟨arrived :: earlier, read, later, rfl, some_bytes, ?_, ?_⟩
      · rw [List.flatten_cons, ← List.append_assoc]
        exact going
      · rw [List.flatten_cons, ← List.append_assoc]
        exact crowded

/-- Behind a frame that is refused no read is looked at. -/
theorem not_crowded_of_stop {before : Bytes} {error : DecodeError}
    (stopped : (framing.drain before).stop = some error) (reads : List Bytes) :
    ¬Crowded before reads := by
  rintro ⟨earlier, read, later, -, -, going, -⟩
  rw [Framing.drain_append, Framing.drain_append_of_stop stopped] at going
  cases going

omit [CkVision] in
/-- What is read goes behind what stayed. -/
theorem pending_filled {reader filled : FrameReader} {arrived : Bytes}
    (filling : (if arrived = [] then (true, reader) else reader.append arrived) = (true, filled)) :
    filled.pending = reader.pending ++ arrived := by
  split at filling
  · rename_i empty
    cases filling
    rw [empty, List.append_nil]
  · have accepted : (reader.append arrived).1 = true := by rw [filling]
    have pending := FrameReader.pending_append accepted
    rwa [filling] at pending

/-- A read is refused exactly when it finds no room behind what stayed. -/
theorem readLoop_refused_iff {before : Bytes} {reader : FrameReader} {taken : List Message}
    (settled : framing.drain before = ⟨taken, reader.pending, none⟩) (reads : List Bytes) :
    readLoop reader reads = .refused ↔ Crowded before reads := by
  induction reads generalizing before reader taken with
  | nil => simp [readLoop, Crowded]
  | cons arrived reads ih =>
      have joined := @Framing.drain_append _ _ framing before arrived
      rw [crowded_cons]
      rw [settled] at joined ⊢
      simp only [true_and]
      rw [readLoop]
      split
      · rename_i left filling
        have some_bytes : arrived ≠ [] := by
          intro empty
          rw [if_pos empty] at filling
          cases filling
        rw [if_neg some_bytes] at filling
        have past : ¬(reader.append arrived).1 = true := by simp [filling]
        rw [FrameReader.append_accepts, not_le] at past
        simp only [true_iff]
        exact .inl ⟨some_bytes, past⟩
      · rename_i filled filling
        have pending := pending_filled filling
        have roomy : ¬(arrived ≠ [] ∧
            FrameReader.kMaxBuffered < reader.pending.length + arrived.length) := by
          rintro ⟨some_bytes, past⟩
          rw [if_neg some_bytes] at filling
          have accepted : (reader.append arrived).1 = true := by rw [filling]
          rw [FrameReader.append_accepts] at accepted
          omega
        have drained := FrameReader.drain_eq filled
        rw [pending] at drained
        rw [drained] at joined
        split
        · rename_i emptied
          rw [or_iff_right roomy]
          rw [emptied] at joined
          exact ih joined
        · rename_i error last fatal emptied
          rw [emptied] at joined
          have stopped : (framing.drain (before ++ arrived)).stop = some error := by
            rw [joined]
            cases error <;> first | rfl | exact absurd rfl fatal
          simp only [reduceCtorEq, false_iff]
          rintro (crowded | crowded)
          · exact roomy crowded
          · exact not_crowded_of_stop stopped reads crowded

/-! ### Places in a stream of frames -/

omit [CkVision] in
/-- No header is read from less than one. -/
theorem readHeader_short {bytes : Bytes} (short : bytes.length < kHeaderBytes) :
    readHeader.run bytes = none := by
  cases read : readHeader.run bytes with
  | none => rfl
  | some pair =>
      obtain ⟨fields, body⟩ := pair
      obtain ⟨front, rfl, written⟩ := readHeader_echoes _ _ _ read
      have sized := (Occupies.cons (.u32 _) <| .cons (.u16 _) <| .cons (.u16 _) .nil) front written
      rw [List.length_append, kHeaderBytes] at short
      omega

/-- A frame that has not arrived whole is waited for. -/
theorem look_unfinished {front back payload : Bytes} {type : MessageType}
    (within : payload.length ≤ payloadCap type)
    (split : front ++ back = header payload.length type ++ payload)
    (missing : front.length < (header payload.length type ++ payload).length) :
    look front = .wait := by
  refine look_eq_wait.mpr ⟨0, ?_⟩
  have cap := payloadCap_le type
  unfold kMaxSnapshotPayloadBytes at cap
  have length : (UInt32.ofNat payload.length).toNat = payload.length :=
    UInt32.toNat_ofNat_of_lt (show payload.length < 2 ^ 32 by omega)
  have named : MessageType.ofWire type.toWire = some type := MessageType.ofWire_eq_some.mpr rfl
  rw [List.length_append, header_length] at missing
  unfold decode decodeWith
  by_cases short : front.length < kHeaderBytes
  · rw [readHeader_short short]
  · obtain ⟨body, rfl⟩ : header payload.length type <+: front :=
      List.prefix_of_prefix_length_le ⟨payload, split.symm⟩ ⟨back, rfl⟩ (by
        rw [header_length]
        omega)
    rw [List.length_append, header_length] at missing
    rw [readHeader_header]
    dsimp only
    rw [named]
    dsimp only
    rw [length, if_neg (by omega), if_neg (by simp), if_pos (by omega)]

/-- A whole frame is taken, or it is refused for good. -/
theorem look_whole {payload : Bytes} {type : MessageType}
    (within : payload.length ≤ payloadCap type) (more : Bytes) :
    (∃ message, look (header payload.length type ++ payload ++ more) =
        .frame message (header payload.length type ++ payload).length ∧
      Decodes (header payload.length type ++ payload)) ∨
    ∃ error, look (header payload.length type ++ payload ++ more) = .fail error ∧
      ¬Decodes (header payload.length type ++ payload) := by
  have whole := decodeWith_frame measured type payload within []
  have front := decodeWith_frame measured type payload within more
  rw [List.append_nil] at whole
  cases decoded : decodePayload measured type payload with
  | ok result =>
      obtain ⟨message, taken⟩ := result
      obtain ⟨-, rfl⟩ := decodePayload_eq_ok.mp decoded
      rw [decoded] at whole front
      refine .inl ⟨message, ?_, .inr ⟨_, whole⟩⟩
      rw [look_eq_frame, List.length_append, header_length]
      exact front
  | error result =>
      obtain ⟨error, condemned⟩ := result
      rw [decoded] at whole front
      refine .inr ⟨error, look_eq_fail.mpr ⟨?_, condemned, front⟩, ?_⟩
      · rintro rfl
        unfold decodePayload at decoded
        split at decoded <;> cases decoded
      · rintro (empty | ⟨accepted, other⟩)
        · have lengths := congrArg List.length empty
          rw [List.length_append, header_length, List.length_nil, kHeaderBytes] at lengths
          omega
        · rw [decode, whole] at other
          cases other

/-- A frame as `encode` leaves it: none at all, or a header and a payload within
its cap. -/
def Framed (frame : Bytes) : Prop :=
  frame = [] ∨ ∃ type payload, payload.length ≤ payloadCap type ∧
    frame = header payload.length type ++ payload

omit [CkVision] in
/-- A message that can be said is one frame. -/
theorem framed_encode (message : Message) : Framed (encode message) := by
  by_cases sent : encode message = []
  · exact .inl sent
  · obtain ⟨payload, -, within, framed⟩ := encode_eq sent
    exact .inr ⟨_, payload, within, framed⟩

/-- At any place in a stream of frames, every whole frame has been taken unless
one was refused, and what stays is what lies past the last of them. -/
theorem drain_place {frames : List Bytes} (framed : ∀ frame ∈ frames, Framed frame)
    {before : Bytes} (place : before <+: frames.flatten) :
    ((framing.drain before).stop = none ↔
        ∀ frame ∈ completed frames before.length, Decodes frame) ∧
      ((framing.drain before).stop = none →
        (framing.drain before).rest.length = residue frames before.length) := by
  induction frames generalizing before with
  | nil =>
      obtain rfl : before = [] := List.prefix_nil.mp place
      have waiting : framing.drain [] = ⟨[], [], none⟩ :=
        Framing.drain_wait (look_eq_wait.mpr ⟨0, rfl⟩ : look [] = .wait)
      rw [waiting]
      simp [completed, residue]
  | cons frame frames ih =>
      have others := fun frame member => framed frame (List.mem_cons_of_mem _ member)
      rw [List.flatten_cons] at place
      by_cases whole : frame.length ≤ before.length
      · obtain ⟨after, rfl⟩ : frame <+: before :=
          List.prefix_of_prefix_length_le (List.prefix_append ..) place whole
        have rest : after <+: frames.flatten := (List.prefix_append_right_inj frame).mp place
        obtain ⟨stops, stays⟩ := ih others rest
        have ahead : (frame ++ after).length - frame.length = after.length := by simp
        rw [completed, if_pos whole, residue, if_pos whole, ahead, List.forall_mem_cons]
        obtain rfl | ⟨type, payload, within, rfl⟩ := framed frame List.mem_cons_self
        · rw [List.nil_append]
          exact ⟨stops.trans (and_iff_right (.inl rfl)).symm, stays⟩
        · obtain ⟨message, found, decodes⟩ | ⟨error, found, refused⟩ := look_whole within after
          · have taken := @Framing.drain_frame _ _ framing _ _ _ found
            rw [List.drop_left] at taken
            rw [taken]
            exact ⟨stops.trans (and_iff_right decodes).symm, stays⟩
          · have stopped := @Framing.drain_fail _ _ framing _ _ found
            rw [stopped]
            simp [refused]
      · rw [completed, if_neg whole, residue, if_neg whole]
        obtain ⟨back, split, missing⟩ : ∃ back, before ++ back = frame ∧ before.length < frame.length :=
          ⟨_, (List.prefix_of_prefix_length_le place (List.prefix_append ..) (by omega)).choose_spec,
            by omega⟩
        obtain rfl | ⟨type, payload, within, rfl⟩ := framed frame List.mem_cons_self
        · simp at missing
        · have waiting := @Framing.drain_wait _ _ framing _ (look_unfinished within split missing)
          rw [waiting]
          simp

/-- Over frames, being crowded is a matter of places: some read begins so far past
the last whole frame that it does not fit, no frame before it being refused. -/
theorem crowded_iff {frames reads : List Bytes} (framed : ∀ frame ∈ frames, Framed frame)
    (arrives : reads.flatten <+: frames.flatten) :
    Crowded [] reads ↔ ∃ earlier read later, reads = earlier ++ read :: later ∧ read ≠ [] ∧
      (∀ frame ∈ completed frames earlier.flatten.length, Decodes frame) ∧
      FrameReader.kMaxBuffered < residue frames earlier.flatten.length + read.length := by
  unfold Crowded
  simp only [List.nil_append]
  refine exists_congr fun earlier => exists_congr fun read => exists_congr fun later =>
    and_congr_right fun split => and_congr_right fun _ => ?_
  have place : earlier.flatten <+: frames.flatten := by
    refine List.IsPrefix.trans ?_ arrives
    rw [split, List.flatten_append]
    exact List.prefix_append ..
  obtain ⟨stops, stays⟩ := drain_place framed place
  rw [← stops]
  exact and_congr_right fun going => by rw [stays going]

/-- A stream is refused exactly at a read that comes on top of too much that waits, all frames
before it read. -/
theorem readLoop_refused_iff_place {messages : List Message} {reads : List Bytes}
    (arrives : reads.flatten <+: (messages.map encode).flatten) :
    readLoop {} reads = .refused ↔
      ∃ earlier read later, reads = earlier ++ read :: later ∧ read ≠ [] ∧
        (∀ frame ∈ completed (messages.map encode) earlier.flatten.length, Decodes frame) ∧
        FrameReader.kMaxBuffered <
          residue (messages.map encode) earlier.flatten.length + read.length := by
  have waiting : framing.drain [] = ⟨[], FrameReader.pending {}, none⟩ :=
    Framing.drain_wait (look_eq_wait.mpr ⟨0, rfl⟩ : look [] = .wait)
  rw [readLoop_refused_iff waiting, crowded_iff ?_ arrives]
  intro frame member
  obtain ⟨message, -, rfl⟩ := List.mem_map.mp member
  exact framed_encode message

/-- Reads of a stream of frames are all taken exactly when each of them fits in
the buffer behind the part of a frame that came before it. Behind a frame the
decoder refuses nothing is read. -/
theorem readLoop_accepts_iff (messages : List Message) (reads : List Bytes)
    (arrives : reads.flatten <+: (messages.map encode).flatten) :
    readLoop {} reads ≠ .refused ↔
      ∀ earlier read later, reads = earlier ++ read :: later → read ≠ [] →
        (∀ frame ∈ completed (messages.map encode) earlier.flatten.length, Decodes frame) →
        residue (messages.map encode) earlier.flatten.length + read.length ≤
          FrameReader.kMaxBuffered := by
  rw [ne_eq, readLoop_refused_iff_place arrives]
  constructor
  · intro roomy earlier read later split some_bytes decodes
    by_contra past
    exact roomy ⟨earlier, read, later, split, some_bytes, decodes, not_le.mp past⟩
  · rintro fits ⟨earlier, read, later, split, some_bytes, decodes, past⟩
    exact absurd (fits earlier read later split some_bytes decodes) (not_le.mpr past)

end

/-! ### A snapshot of the largest size -/

/-- A stream in so many reads of one size and a last read of the rest. -/
def cut (size : Nat) : Nat → Bytes → List Bytes
  | 0, stream => [stream]
  | count + 1, stream => stream.take size :: cut size count (stream.drop size)

/-- Reads of one size, and what is left for the last. -/
theorem cut_split (size count : Nat) (stream : Bytes) :
    ∃ earlier, cut size count stream = earlier ++ [stream.drop (size * count)] ∧
      earlier.flatten = stream.take (size * count) ∧ ∀ read ∈ earlier, read.length ≤ size := by
  induction count generalizing stream with
  | zero => exact ⟨[], by simp [cut], by simp, by simp⟩
  | succ count ih =>
      obtain ⟨earlier, split, front, sized⟩ := ih (stream.drop size)
      refine ⟨stream.take size :: earlier, ?_, ?_, ?_⟩
      · rw [cut, split, List.drop_drop, Nat.mul_succ, Nat.add_comm, List.cons_append]
      · rw [List.flatten_cons, front, Nat.mul_succ, Nat.add_comm, List.take_add]
      · rw [List.forall_mem_cons]
        exact ⟨List.length_take_le .., sized⟩

/-- Behind all of a frame of the largest size but its last bytes, a read that
carries those and any of the next frame is refused. -/
theorem readLoop_refuses_behind [CkVision] {first second : Message}
    (full : (encode first).length = FrameReader.kMaxBuffered) (sent : encode second ≠ []) :
    readLoop {} (cut kReadBudget 16 (encode first ++ encode second)) = .refused := by
  obtain ⟨earlier, split, front, -⟩ := cut_split kReadBudget 16 (encode first ++ encode second)
  have some_bytes : 0 < (encode second).length := List.length_pos_iff.mpr sent
  simp only [FrameReader.kMaxBuffered, kHeaderBytes, kMaxSnapshotPayloadBytes] at full
  have read_length : ((encode first ++ encode second).drop (kReadBudget * 16)).length =
      8 + (encode second).length := by
    rw [List.length_drop, List.length_append, full, kReadBudget]
    omega
  have place : earlier.flatten.length = 16777216 := by
    rw [front, List.length_take, List.length_append, full, kReadBudget]
    omega
  have arrives : (cut kReadBudget 16 (encode first ++ encode second)).flatten <+:
      ([first, second].map encode).flatten := by
    rw [split, List.flatten_append, front, List.flatten_singleton, List.take_append_drop]
    simp
  refine (readLoop_refused_iff_place arrives).mpr ⟨earlier, _, [], split, ?_, ?_, ?_⟩
  · intro empty
    rw [empty, List.length_nil] at read_length
    omega
  · rw [place, List.map_cons, completed, if_neg (by omega)]
    simp
  · rw [place, List.map_cons, residue, if_neg (by omega), read_length, FrameReader.kMaxBuffered,
      kHeaderBytes, kMaxSnapshotPayloadBytes]
    omega

/-- A snapshot of one terminal that shows nothing but images. -/
def imageSnapshot (images : List UInt64) : Message :=
  .attached ⟨1, { terminals := [
    { term := 1, title := [100, 101, 115, 107, 116, 111, 112], images := images }] }⟩

/-- So many images that the snapshot is as large as one may be. -/
def fullSnapshot : Message := imageSnapshot (List.replicate 2097136 1)

/-- Any list of image ids can be written down, counted in thirty-two bits. -/
theorem images_written (images : List UInt64) :
    ∃ bytes, Put.counted Put.u64 images = some bytes := by
  have entries : ∃ bytes, Put.seq (images.map Put.u64) = some bytes := by
    induction images with
    | nil => exact ⟨[], rfl⟩
    | cons image images ih =>
        obtain ⟨bytes, written⟩ := ih
        exact ⟨_, by rw [List.map_cons, Put.seq_cons, written]; rfl⟩
  obtain ⟨bytes, written⟩ := entries
  exact ⟨_, by rw [Put.counted, Put.seq_cons, Put.seq_cons, written]; rfl⟩

/-- A snapshot of images alone can be said. -/
theorem imageSnapshot_written (images : List UInt64) :
    ∃ payload, Message.write (imageSnapshot images) = some payload := by
  obtain ⟨bytes, written⟩ := images_written images
  simp only [imageSnapshot, Message.write, Attached.write, Put.counted, List.map_cons,
    List.map_nil, TerminalState.write] at written ⊢
  rw [written]
  exact ⟨_, rfl⟩

/-- Eight bytes for each image, beside the rest of the snapshot. -/
theorem imageSnapshot_occupies (images : List UInt64) :
    Occupies (Message.write (imageSnapshot images)) (128 + 8 * images.length) := by
  refine (Occupies.cons (.u64 _) <| .cons (.u16 _) <| .cons (.u16 _) <| .cons (.u64 _) <|
    .cons (.counted TerminalState.occupies _) .nil).congr ?_
  simp only [TerminalState.encodedSize, List.map_cons, List.map_nil, List.sum_cons, List.sum_nil,
    encodedRuns, encodedLines, List.length_cons, List.length_nil]
  omega

/-- Its payload is exactly the cap of its type. -/
theorem fullSnapshot_length : (encode fullSnapshot).length = FrameReader.kMaxBuffered := by
  obtain ⟨payload, written⟩ := imageSnapshot_written (List.replicate 2097136 1)
  have sized := imageSnapshot_occupies _ payload written
  rw [List.length_replicate] at sized
  have cap : payloadCap (typeOf fullSnapshot) = 16777216 := rfl
  rw [fullSnapshot, encode_of_write written (by rw [sized]; exact cap.ge), List.length_append,
    header_length, sized]
  rfl

/-- A stream is what it is cut into. -/
theorem flatten_cut (size count : Nat) (stream : Bytes) : (cut size count stream).flatten = stream := by
  obtain ⟨earlier, split, front, -⟩ := cut_split size count stream
  rw [split, List.flatten_append, front, List.flatten_singleton, List.take_append_drop]

/-- The largest snapshot is taken in reads as large as they may be, and a ping behind it in a read of
its own. -/
theorem readLoop_accepts_snapshot :
    let reads := cut kReadBudget 16 (encode fullSnapshot) ++ [encode (.ping ⟨1⟩)]
    reads.flatten = ([fullSnapshot, .ping ⟨1⟩].map encode).flatten ∧
      @readLoop asciiVision {} reads ≠ .refused := by
  intro reads
  have stream : reads.flatten = ([fullSnapshot, .ping ⟨1⟩].map encode).flatten := by
    simp [reads, flatten_cut]
  have arrives : reads.flatten <+: ([fullSnapshot, .ping ⟨1⟩].map encode).flatten := by rw [stream]
  refine ⟨stream, (@readLoop_accepts_iff asciiVision _ reads arrives).mpr ?_⟩
  intro earlier read later split some_bytes _
  have full := fullSnapshot_length
  rw [List.map_cons, residue, full]
  rcases List.eq_nil_or_concat later with rfl | ⟨more, last, rfl⟩
  · -- The ping comes where the snapshot ends.
    obtain ⟨before, last⟩ : cut kReadBudget 16 (encode fullSnapshot) = earlier ∧
        [encode (.ping ⟨1⟩)] = [read] := List.append_inj' split rfl
    rw [← before, flatten_cut, full, if_pos (le_refl _), Nat.sub_self, ← List.singleton_inj.mp last]
    decide
  · have inside : cut kReadBudget 16 (encode fullSnapshot) = earlier ++ read :: more := by
      rw [List.concat_eq_append, ← List.cons_append, ← List.append_assoc] at split
      exact (List.append_inj' split rfl).1
    have lengths := congrArg (fun reads => (List.flatten reads).length) inside
    have positive := List.length_pos_iff.mpr some_bytes
    simp only [flatten_cut, full, List.flatten_append, List.flatten_cons, List.length_append] at lengths
    rw [if_neg (by omega)]
    omega

/-- The whole largest snapshot but eight bytes, and then those with a ping. -/
theorem fullSnapshot_refused :
    let reads := cut kReadBudget 16 (encode fullSnapshot ++ encode (.ping ⟨1⟩))
    reads.flatten = ([fullSnapshot, .ping ⟨1⟩].map encode).flatten ∧
      (∀ read ∈ reads, read.length ≤ kReadBudget) ∧
      @readLoop asciiVision {} reads = .refused := by
  have refused := @readLoop_refuses_behind asciiVision fullSnapshot (.ping ⟨1⟩)
    fullSnapshot_length (by decide)
  have full := fullSnapshot_length
  have ping : (encode (.ping ⟨1⟩)).length = 16 := by decide
  obtain ⟨earlier, split, front, sized⟩ :=
    cut_split kReadBudget 16 (encode fullSnapshot ++ encode (.ping ⟨1⟩))
  refine ⟨?_, ?_, refused⟩
  · rw [flatten_cut]
    simp
  · rw [split]
    intro read member
    obtain inside | last := List.mem_append.mp member
    · exact sized read inside
    · rw [List.mem_singleton.mp last, List.length_drop, List.length_append, full, ping]
      simp only [FrameReader.kMaxBuffered, kHeaderBytes, kMaxSnapshotPayloadBytes, kReadBudget]
      omega

end Ckmux.Proto
