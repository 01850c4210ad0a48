import Mathlib
import Ckmux.Proto.CodecLaws
import Ckmux.Proto.Frame

/-!
# What a frame round-trips

A message is read back from the front of any input that begins with its frame,
as long as its cells are ones the terminal library would build and its blob is
one the reader takes. The three limits on a blob (its length field, its type's
payload cap, the reader's own cap) are separate numbers: a blob between the last
two is put in a frame that no decoder takes.
-/

namespace Ckmux.Proto

open Grammar

/-! ### What a message carries -/

/-- Every run of cells a message carries. -/
def Message.runs : Message → List CellRun
  | .attached message => message.snapshot.terminals.flatMap TerminalState.runs
  | .gridDelta message => message.ops.flatMap GridOp.runs
  | _ => []

/-- A blob, the most bytes its reader takes, and the bytes of the payload around
it, its own length field included. -/
structure BlobField where
  bytes : Bytes
  cap : Nat
  around : Nat

/-- The blob a message carries, if it is of a kind that carries one. -/
def Message.blob : Message → Option BlobField
  | .input message => some ⟨message.bytes, kMaxStringBytes, 12⟩
  | .pasteChunk message => some ⟨message.bytes, kMaxStringBytes, 17⟩
  | .clipboardSet message => some ⟨message.text, kMaxStringBytes, 12⟩
  | .imageChunk message => some ⟨message.bytes, kMaxChunkPayloadBytes, 16⟩
  | .printJobData message => some ⟨message.bytes, kMaxChunkPayloadBytes, 25⟩
  | _ => none

/-- The blob is one its reader takes. -/
def Message.BlobFits (message : Message) : Prop :=
  ∀ field ∈ message.blob, field.bytes.length ≤ field.cap

/-- A message with a blob takes that many bytes and those around it. -/
theorem Message.blob_occupies {message : Message} {field : BlobField}
    (carries : message.blob = some field) :
    Occupies (Message.write message) (field.around + field.bytes.length) := by
  cases message <;> simp only [Message.blob, reduceCtorEq, Option.some.injEq] at carries
  case input message =>
    subst carries
    exact (Occupies.cons (.u64 _) <| .cons (.blob _) .nil).congr (by dsimp only; omega)
  case pasteChunk message =>
    subst carries
    exact (Occupies.cons (.u64 _) <| .cons (.u32 _) <| .cons (.u8 _) <| .cons (.blob _) .nil).congr (by dsimp only; omega)
  case imageChunk message =>
    subst carries
    exact (Occupies.cons (.u64 _) <| .cons (.u32 _) <| .cons (.blob _) .nil).congr (by dsimp only; omega)
  case clipboardSet message =>
    subst carries
    exact (Occupies.cons (.u64 _) <| .cons (.blob _) .nil).congr (by dsimp only; omega)
  case printJobData message =>
    subst carries
    exact (Occupies.cons (.u64 _) <| .cons (.u64 _) <| .cons (.u32 _) <| .cons (.u8 _) <| .cons (.blob _) .nil).congr (by dsimp only; omega)

/-- A blob its length field can say is written. -/
theorem Message.blob_written {message : Message} {field : BlobField}
    (carries : message.blob = some field) (short : field.bytes.length ≤ 0xFFFFFFFF) :
    ∃ payload, Message.write message = some payload := by
  have blob : Put.blob field.bytes =
      Put.seq [Put.u32 (UInt32.ofNat field.bytes.length), some field.bytes] := by
    rw [Put.blob, if_neg (by omega)]
  cases message <;> simp only [Message.blob, reduceCtorEq, Option.some.injEq] at carries
  all_goals
    subst carries
    dsimp only at blob
    simp only [Message.write, Input.write, PasteChunk.write, ClipboardSet.write, ImageChunk.write,
      PrintJobData.write, blob]
    exact ⟨_, rfl⟩

section

variable [CkVision] [CkVision.Lawful]

/-- Every message is read back from its own bytes. -/
theorem Message.sends {message : Message} (faithful : ∀ run ∈ message.runs, run.Faithful)
    (fits : message.BlobFits) :
    Sends (Message.write message) (decodeAlternative measured (typeOf message)) message := by
  cases message with
  | hello message => exact message.sends.map Message.hello
  | helloAck message => exact message.sends.map Message.helloAck
  | refuse message => exact message.sends.map Message.refuse
  | ping message => exact message.sends.map Message.ping
  | pong message => exact message.sends.map Message.pong
  | listSessions message => exact message.sends.map Message.listSessions
  | newSession message => exact message.sends.map Message.newSession
  | attach message => exact message.sends.map Message.attach
  | detach message => exact message.sends.map Message.detach
  | clientResize message => exact message.sends.map Message.clientResize
  | renameSession message => exact message.sends.map Message.renameSession
  | killSession message => exact message.sends.map Message.killSession
  | killServer message => exact message.sends.map Message.killServer
  | sessionList message => exact message.sends.map Message.sessionList
  | sessionsChanged message => exact message.sends.map Message.sessionsChanged
  | attached message =>
      refine (Attached.sends fun state member run inside => faithful run ?_).map Message.attached
      exact List.mem_flatMap.mpr ⟨state, member, inside⟩
  | detached message => exact message.sends.map Message.detached
  | newTerminal message => exact message.sends.map Message.newTerminal
  | closeTerminal message => exact message.sends.map Message.closeTerminal
  | killTerminal message => exact message.sends.map Message.killTerminal
  | respawnTerminal message => exact message.sends.map Message.respawnTerminal
  | setDesktopSize message => exact message.sends.map Message.setDesktopSize
  | setReaderMode message => exact message.sends.map Message.setReaderMode
  | readerMode message => exact message.sends.map Message.readerMode
  | moveTerminal message => exact message.sends.map Message.moveTerminal
  | moveResize message => exact message.sends.map Message.moveResize
  | raise message => exact message.sends.map Message.raise
  | focusTerm message => exact message.sends.map Message.focusTerm
  | zoomTerm message => exact message.sends.map Message.zoomTerm
  | setLayout message => exact message.sends.map Message.setLayout
  | renameTerminal message => exact message.sends.map Message.renameTerminal
  | input message => exact (message.sends (fits _ rfl)).map Message.input
  | pasteChunk message => exact (message.sends (fits _ rfl)).map Message.pasteChunk
  | pasteAck message => exact message.sends.map Message.pasteAck
  | layoutDelta message => exact message.sends.map Message.layoutDelta
  | termOpened message => exact message.sends.map Message.termOpened
  | termClosed message => exact message.sends.map Message.termClosed
  | termMeta message => exact message.sends.map Message.termMeta
  | gridDelta message =>
      refine (GridDelta.sends fun op member run inside => faithful run ?_).map Message.gridDelta
      exact List.mem_flatMap.mpr ⟨op, member, inside⟩
  | imageAddBegin message => exact message.sends.map Message.imageAddBegin
  | imageChunk message => exact (message.sends (fits _ rfl)).map Message.imageChunk
  | imageEnd message => exact message.sends.map Message.imageEnd
  | imagePlace message => exact message.sends.map Message.imagePlace
  | imageRemove message => exact message.sends.map Message.imageRemove
  | clipboardSet message => exact (message.sends (fits _ rfl)).map Message.clipboardSet
  | termDiagnostic message => exact message.sends.map Message.termDiagnostic
  | error message => exact message.sends.map Message.error
  | setPrinterPolicy message => exact message.sends.map Message.setPrinterPolicy
  | printState message => exact message.sends.map Message.printState
  | printJobAdded message => exact message.sends.map Message.printJobAdded
  | printJobFetch message => exact message.sends.map Message.printJobFetch
  | printJobData message => exact (message.sends (fits _ rfl)).map Message.printJobData
  | printJobDiscard message => exact message.sends.map Message.printJobDiscard
  | watchStats message => exact message.sends.map Message.watchStats
  | termStats message => exact message.sends.map Message.termStats

end

/-! ### Frames -/

/-- The eight bytes before a payload. -/
def header (length : Nat) (type : MessageType) : Bytes := (writeHeader length type).getD []

/-- A header can always be written. -/
theorem writeHeader_eq (length : Nat) (type : MessageType) :
    writeHeader length type = some (header length type) := rfl

/-- A header is as long as every other. -/
@[simp] theorem header_length (length : Nat) (type : MessageType) :
    (header length type).length = kHeaderBytes :=
  (Occupies.cons (.u32 _) <| .cons (.u16 _) <| .cons (.u16 _) .nil) _ (writeHeader_eq length type)

/-- No payload may be larger than a snapshot's. -/
theorem payloadCap_le (type : MessageType) : payloadCap type ≤ kMaxSnapshotPayloadBytes := by
  cases type <;> decide

/-- A header is read back, and what follows it is left. -/
theorem readHeader_header (length : Nat) (type : MessageType) (rest : Bytes) :
    readHeader.run (header length type ++ rest) =
      some ((UInt32.ofNat length, type.toWire, 0), rest) := by
  have sends : Sends (writeHeader length type) readHeader (UInt32.ofNat length, type.toWire, 0) :=
    .cons (.u32 _) <| .cons (.u16 _) <| .cons (.u16 _) <| .nil _
  exact sends _ (writeHeader_eq length type) (by rw [header_length]; decide) rest

/-- What `encode` produces is a header and a payload within its cap, or nothing. -/
theorem encode_eq {message : Message} (sent : encode message ≠ []) :
    ∃ payload, Message.write message = some payload ∧
      payload.length ≤ payloadCap (typeOf message) ∧
      encode message = header payload.length (typeOf message) ++ payload := by
  unfold encode at sent ⊢
  cases written : Message.write message with
  | none =>
      rw [written] at sent
      exact absurd rfl sent
  | some payload =>
      rw [written] at sent
      dsimp only at sent ⊢
      by_cases large : payload.length > payloadCap (typeOf message)
      · rw [if_pos large] at sent
        exact absurd rfl sent
      · exact ⟨payload, rfl, by omega, by rw [if_neg large]; rfl⟩

/-- A payload within its cap is what `encode` frames. -/
theorem encode_of_write {message : Message} {payload : Bytes}
    (written : Message.write message = some payload)
    (within : payload.length ≤ payloadCap (typeOf message)) :
    encode message = header payload.length (typeOf message) ++ payload := by
  unfold encode
  rw [written]
  dsimp only
  rw [if_neg (by omega)]
  rfl

/-- A payload past its cap, or one that cannot be written, is not framed. -/
theorem encode_eq_nil_of_past {message : Message} {size : Nat}
    (sized : Occupies (Message.write message) size) (past : payloadCap (typeOf message) < size) :
    encode message = [] := by
  by_contra sent
  obtain ⟨payload, written, within, -⟩ := encode_eq sent
  rw [sized payload written] at within
  omega

section

variable [CkVision]

/-- A whole frame is decoded by decoding its payload, whatever follows. -/
theorem decodeWith_frame (rebuild : Rebuild) (type : MessageType) (payload : Bytes)
    (within : payload.length ≤ payloadCap type) (rest : Bytes) :
    decodeWith rebuild (header payload.length type ++ payload ++ rest) =
      decodePayload rebuild type payload := by
  have small : payload.length < 2 ^ 32 := by
    have cap := payloadCap_le type
    unfold kMaxSnapshotPayloadBytes at cap
    omega
  have length : (UInt32.ofNat payload.length).toNat = payload.length :=
    UInt32.toNat_ofNat_of_lt small
  have named : MessageType.ofWire type.toWire = some type := MessageType.ofWire_eq_some.mpr rfl
  unfold decodeWith
  rw [List.append_assoc, readHeader_header]
  simp only [named, length, List.length_append, List.take_left']
  rw [if_neg (by omega), if_neg (by simp), if_neg (by omega)]

/-- A message whose blob is past the reader's cap is not read back. -/
theorem Message.refuses {message : Message} {field : BlobField}
    (carries : message.blob = some field) (past : field.cap < field.bytes.length) :
    Refuses (Message.write message) (decodeAlternative measured (typeOf message)) := by
  cases message <;> simp only [Message.blob, reduceCtorEq, Option.some.injEq] at carries
  case input message =>
    subst carries
    exact .map Message.input <| .cons (.u64 _) <| .here (.blob past)
  case pasteChunk message =>
    subst carries
    exact .map Message.pasteChunk <| .cons (.u64 _) <| .cons (.u32 _) <| .cons (.u8 _) <| .here (.blob past)
  case imageChunk message =>
    subst carries
    exact .map Message.imageChunk <| .cons (.u64 _) <| .cons (.u32 _) <| .here (.blob past)
  case clipboardSet message =>
    subst carries
    exact .map Message.clipboardSet <| .cons (.u64 _) <| .here (.blob past)
  case printJobData message =>
    subst carries
    exact .map Message.printJobData <| .cons (.u64 _) <| .cons (.u64 _) <| .cons (.u32 _) <| .cons (.u8 _) <| .here (.blob past)

/-- Such a message is framed all the same, when its payload is within the type's
cap, and the frame is refused. -/
theorem decode_encode_refused {message : Message} {field : BlobField}
    (carries : message.blob = some field) (past : field.cap < field.bytes.length)
    (within : field.around + field.bytes.length ≤ payloadCap (typeOf message)) :
    encode message ≠ [] ∧
      decode (encode message) =
        .error (.malformed, kHeaderBytes + (field.around + field.bytes.length)) := by
  obtain ⟨payload, written⟩ := Message.blob_written carries (by
    have cap := payloadCap_le (typeOf message)
    unfold kMaxSnapshotPayloadBytes at cap
    omega)
  have sized := Message.blob_occupies carries payload written
  have framed := encode_of_write written (by omega)
  have small : payload.length < 2 ^ 32 := by
    have cap := payloadCap_le (typeOf message)
    unfold kMaxSnapshotPayloadBytes at cap
    omega
  have refused := Message.refuses carries past payload written small []
  rw [List.append_nil] at refused
  have decoded := decodeWith_frame measured (typeOf message) payload (by omega) []
  rw [List.append_nil, ← framed] at decoded
  constructor
  · intro empty
    have lengths := congrArg List.length framed
    rw [empty, List.length_append, header_length] at lengths
    simp only [List.length_nil, kHeaderBytes] at lengths
    omega
  · rw [decode, decoded, decodePayload, refused, sized]

variable [CkVision.Lawful]

/-- Every frame of a message that can be read back is read back. -/
theorem decode_encode_append {message : Message}
    (faithful : ∀ run ∈ message.runs, run.Faithful) (fits : message.BlobFits)
    (sent : encode message ≠ []) (rest : Bytes) :
    decode (encode message ++ rest) = .ok (message, (encode message).length) := by
  obtain ⟨payload, written, within, framed⟩ := encode_eq sent
  have small : payload.length < 2 ^ 32 := by
    have cap := payloadCap_le (typeOf message)
    unfold kMaxSnapshotPayloadBytes at cap
    omega
  have read := Message.sends faithful fits payload written small []
  rw [List.append_nil] at read
  rw [framed, decode, decodeWith_frame measured _ _ within, decodePayload, read]
  simp

/-- A frame is decoded to the message it was encoded from, whatever follows it. -/
theorem decode_encode (message : Message) (faithful : ∀ run ∈ message.runs, run.Faithful)
    (fits : message.BlobFits) (sent : encode message ≠ []) (rest : Bytes) :
    decode (encode message ++ rest) = .ok (message, (encode message).length) :=
  decode_encode_append faithful fits sent rest

/-- A frame is accepted exactly when the blob in it is within its reader's cap;
a payload past its type's cap is not framed at all. -/
theorem encode_accepted_iff (message : Message) (faithful : ∀ run ∈ message.runs, run.Faithful) :
    (encode message = [] ∨ ∃ accepted, decode (encode message) = .ok accepted) ↔
      ∀ field ∈ message.blob, field.bytes.length ≤ field.cap ∨
        payloadCap (typeOf message) < field.around + field.bytes.length := by
  constructor
  · intro accepted field carries
    by_contra! gap
    obtain ⟨past, within⟩ := gap
    obtain ⟨sent, refused⟩ := decode_encode_refused carries past within
    obtain empty | ⟨result, decoded⟩ := accepted
    · exact sent empty
    · rw [refused] at decoded
      cases decoded
  · intro limits
    by_cases sent : encode message = []
    · exact .inl sent
    · refine .inr ⟨(message, (encode message).length), ?_⟩
      have fits : message.BlobFits := by
        intro field carries
        obtain within | past := limits field carries
        · exact within
        · exact absurd (encode_eq_nil_of_past (Message.blob_occupies carries) past) sent
      have decoded := decode_encode_append faithful fits sent []
      rwa [List.append_nil] at decoded

end

/-- A delta of three letters, stated so many columns wide. -/
def letterDelta (width : Int) : Message :=
  .gridDelta ⟨1, 1, [.cells ⟨0, 0, [⟨3, ⟨[97], width, {}⟩⟩]⟩]⟩

/-- Letters of one column, decoded from the front of a longer input. -/
theorem decode_encode_letter : @decode asciiVision (encode (letterDelta 1) ++ [7]) =
    .ok (letterDelta 1, (encode (letterDelta 1)).length) := by
  refine @decode_encode asciiVision asciiVision_lawful (letterDelta 1) ?_ ?_ (by decide) [7]
  · intro run member
    have only : run = ⟨3, ⟨[97], 1, {}⟩⟩ := by
      simpa [letterDelta, Message.runs, GridOp.runs] using member
    subst only
    exact ⟨by decide, @WireFaithful.mk asciiVision _ (by decide) (by decide) (by decide) rfl⟩
  · intro field carries
    cases carries

/-- A paste of one letter is framed and accepted. -/
theorem encode_accepted_letter :
    let paste : Message := .pasteChunk ⟨1, 1, 1, [97]⟩
    encode paste = [] ∨ ∃ accepted, @decode asciiVision (encode paste) = .ok accepted := by
  intro paste
  refine (@encode_accepted_iff asciiVision asciiVision_lawful paste ?_).mpr ?_
  · intro run member
    cases member
  · intro field carries
    cases carries
    exact .inl (by decide)

/-- Keystrokes past what their reader takes are framed and refused, up to the
payload cap. -/
theorem input_refused {bytes : Bytes} (past : kMaxStringBytes < bytes.length)
    (within : 12 + bytes.length ≤ kMaxPayloadBytes) :
    let input : Message := .input ⟨1, bytes⟩
    (∀ run ∈ input.runs, @CellRun.Faithful asciiVision run) ∧
      ¬(encode input = [] ∨ ∃ accepted, @decode asciiVision (encode input) = .ok accepted) := by
  intro input
  obtain ⟨sent, refused⟩ := @decode_encode_refused asciiVision input
    ⟨bytes, kMaxStringBytes, 12⟩ rfl past within
  refine ⟨fun run member => absurd member List.not_mem_nil, ?_⟩
  rintro (empty | ⟨result, decoded⟩)
  · exact sent empty
  · rw [refused] at decoded
    cases decoded

/-- One byte too many is enough. -/
theorem encode_input_refused :
    let input : Message := .input ⟨1, List.replicate 65537 0⟩
    (∀ run ∈ input.runs, @CellRun.Faithful asciiVision run) ∧
      ¬(encode input = [] ∨ ∃ accepted, @decode asciiVision (encode input) = .ok accepted) := by
  have long : (List.replicate 65537 (0 : UInt8)).length = 65537 := List.length_replicate
  exact input_refused (by rw [long]; decide) (by rw [long]; decide)

end Ckmux.Proto
