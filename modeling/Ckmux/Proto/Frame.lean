import Mathlib
import Ckmux.Proto.Codec

/-!
# Frames

A frame is a header, saying how long the payload is and which message it holds,
and the payload. `encode` produces one or nothing; `decode` looks at the front
of some bytes and either takes one frame or says why not. `FrameReader` is a
buffer that bytes are appended to and frames are taken from.
-/

namespace Ckmux.Proto

open Grammar (Bytes Put Get)

/-- The cap a type's payload is held to. -/
def payloadCap : MessageType → Nat
  | .attached => kMaxSnapshotPayloadBytes
  | .imageChunk | .printJobData => kMaxChunkPayloadBytes + 64
  | _ => kMaxPayloadBytes

/-- Every frame says how long its payload is and of what type, and has no flags. -/
def writeHeader (length : Nat) (type : MessageType) : Put := Put.seq [
  Put.u32 (UInt32.ofNat length), Put.u16 type.toWire, Put.u16 0]

/-- The frame of a message; no bytes at all for one this format cannot carry. -/
def encode (message : Message) : Bytes :=
  match Message.write message with
  | some payload =>
      if payload.length > payloadCap (typeOf message) then []
      else ((writeHeader payload.length (typeOf message)).getD []) ++ payload
  | none => []

/-- What may be wrong with the bytes of a frame. -/
inductive DecodeError where
  | incomplete | payloadTooLarge | unknownType | reservedFlags | malformed | trailingBytes
deriving DecidableEq

/-- A message and how many bytes it took, or an error and how many bytes it
condemns. -/
abbrev DecodeResult := Except (DecodeError × Nat) (Message × Nat)

/-- The three fields of a header: the payload's length, its type and its flags. -/
def readHeader : Get (UInt32 × UInt16 × UInt16) := do
  let payloadLength ← Get.u32
  let type ← Get.u16
  let flags ← Get.u16
  pure (payloadLength, type, flags)

/-- The payload is decoded whole, with nothing left over. -/
def decodePayload [CkVision] (rebuild : Rebuild) (type : MessageType) (payload : Bytes) :
    DecodeResult :=
  let frameLength := kHeaderBytes + payload.length
  match (decodeAlternative rebuild type).run payload with
  | none => .error (.malformed, frameLength)
  | some (message, []) => .ok (message, frameLength)
  | some (_, _ :: _) => .error (.trailingBytes, frameLength)

/-- What the front of some bytes is. A length past its cap is refused before the
payload has arrived. -/
def decodeWith [CkVision] (rebuild : Rebuild) (bytes : Bytes) : DecodeResult :=
  -- The header cannot be read exactly when there are fewer than eight bytes.
  match readHeader.run bytes with
  | none => .error (.incomplete, 0)
  | some ((payloadLength, typeNumber, flags), body) =>
      match MessageType.ofWire typeNumber with
      | none => .error (.unknownType, 0)
      | some type =>
          if payloadLength.toNat > payloadCap type then .error (.payloadTooLarge, 0)
          else if flags ≠ 0 then .error (.reservedFlags, 0)
          else if body.length < payloadLength.toNat then .error (.incomplete, 0)
          else decodePayload rebuild type (body.take payloadLength.toNat)

/-- A frame as the program reads it, its cells measured again. -/
def decode [CkVision] (bytes : Bytes) : DecodeResult := decodeWith measured bytes

/-! ### The receive buffer -/

/-- What has arrived, and how much of it has been taken out again. -/
structure FrameReader where
  buffer : Bytes := []
  consumed : Nat := 0

namespace FrameReader

/-- The bytes no frame has been taken from yet. -/
def pending (reader : FrameReader) : Bytes := reader.buffer.drop reader.consumed

/-- Everything is forgotten. -/
def clear (_ : FrameReader) : FrameReader := {}

/-- What has been taken out is thrown away. -/
def compact (reader : FrameReader) : FrameReader :=
  if reader.consumed = 0 then reader
  else { buffer := reader.buffer.drop reader.consumed, consumed := 0 }

/-- The largest a frame may be, plus its header. -/
def kMaxBuffered : Nat := kHeaderBytes + kMaxSnapshotPayloadBytes

/-- Whether the bytes were taken, and the reader afterwards. -/
def append (reader : FrameReader) (bytes : Bytes) : Bool × FrameReader :=
  let compacted := reader.compact
  if compacted.buffer.length + bytes.length > kMaxBuffered then (false, compacted)
  else (true, { compacted with buffer := compacted.buffer ++ bytes })

/-- The next message, or why there is none. -/
def next [CkVision] (reader : FrameReader) : Except DecodeError Message × FrameReader :=
  match decode reader.pending with
  | .ok (message, consumed) =>
      let reader := { reader with consumed := reader.consumed + consumed }
      if reader.consumed = reader.buffer.length then (.ok message, reader.clear)
      else (.ok message, reader)
  | .error (error, _) => (.error error, reader)

end FrameReader

end Ckmux.Proto
