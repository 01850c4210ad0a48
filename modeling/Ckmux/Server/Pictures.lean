import Mathlib
import Ckmux.Terminal.Subsession

/-!
# Pictures, as the server sends them

A differ holds the pictures its readers are believed to see. A tick matches what the
terminal shows now against them, first by the object that holds the pixels and then
by the place, and says the difference: what is gone, what has moved, and the pixels
of what is new. The pixels behind one object never change; `pixels` says what they
are.

A picture's id on the wire is a count of sixty-four bits, which no run exhausts; here
it is a number.
-/

namespace Ckmux

open Grammar (Bytes)

/-- A picture's number on the wire. -/
abbrev WireId := Nat
/-- A picture in the server's memory. -/
abbrev ImageObject := Nat

/-- Rows of four bytes a pixel, with nothing between them. -/
structure Picture where
  width : UInt16
  height : UInt16
  data : Bytes
  sized : data.length = width.toNat * height.toNat * 4
deriving DecidableEq

/-- A picture on a terminal's screen, and the cells it stands on. -/
structure TerminalRaster where
  image : Option ImageObject
  cells : Proto.Rect
deriving DecidableEq

/-- A picture a client is believed to have, and where. -/
structure BelievedRaster where
  image : ImageObject
  wireId : WireId
  cells : Proto.Rect
deriving DecidableEq

/-- One message about a picture. -/
inductive PictureOp where
  | addBegin (id : WireId) (width height : UInt16)
  | chunk (id : WireId) (seq : Nat) (bytes : Bytes)
  | done (id : WireId)
  | place (term : TerminalId) (id : WireId) (cells : Proto.Rect)
  | remove (term : TerminalId) (id : WireId)
deriving DecidableEq

namespace PictureOp

/-- The picture a message is about. -/
def subject : PictureOp → WireId
  | .addBegin id _ _ | .chunk id _ _ | .done id | .place _ id _ | .remove _ id => id

/-- A message as it goes on the wire. -/
def message : PictureOp → Proto.Message
  | .addBegin id width height => .imageAddBegin ⟨UInt64.ofNat id, width, height⟩
  | .chunk id seq bytes => .imageChunk ⟨UInt64.ofNat id, UInt32.ofNat seq, bytes⟩
  | .done id => .imageEnd ⟨UInt64.ofNat id⟩
  | .place term id cells => .imagePlace { term := term, id := UInt64.ofNat id, cells := cells }
  | .remove term id => .imageRemove ⟨term, UInt64.ofNat id⟩

end PictureOp

/-- Bytes in pieces of at most so many. -/
def pieces (limit : Nat) (bytes : Bytes) : List Bytes :=
  (List.range ((bytes.length + limit - 1) / limit)).map fun index =>
    (bytes.drop (index * limit)).take limit

/-- The whole of a picture: its size, its pixels in numbered pieces, and that they are
all there. -/
def imagePayload (id : WireId) (picture : Picture) : List PictureOp :=
  .addBegin id picture.width picture.height ::
    ((pieces Proto.kMaxChunkPayloadBytes picture.data).zipIdx.map fun piece =>
      .chunk id piece.2 piece.1) ++ [.done id]

/-! ### Matching -/

/-- A picture on the screen and which believed one it is, if any. It is `replaced` if
it only stands where that one stood. -/
structure Matched where
  raster : TerminalRaster
  found : Option Nat := none
  replaced : Bool := false

/-- The first believed picture that fits and that no other has been matched with. -/
def firstFit (believed : List BelievedRaster) (kept : List Nat) (fits : BelievedRaster → Bool) :
    Option Nat :=
  (List.range believed.length).find? fun index =>
    index ∉ kept && (believed[index]?.map fits).getD false

/-- One pass over what is on the screen and not matched yet. -/
def matchPass (believed : List BelievedRaster) (fits : ImageObject → Proto.Rect → BelievedRaster → Bool)
    (replaced : Bool) : List Nat → List Matched → List Nat × List Matched
  | kept, [] => (kept, [])
  | kept, entry :: entries =>
      let claimed :=
        match entry.found, entry.raster.image with
        | none, some image => firstFit believed kept (fits image entry.raster.cells)
        | _, _ => none
      match claimed with
      | none =>
          let rest := matchPass believed fits replaced kept entries
          (rest.1, entry :: rest.2)
      | some index =>
          let rest := matchPass believed fits replaced (index :: kept) entries
          (rest.1, { entry with found := some index, replaced := replaced } :: rest.2)

/-- Each picture on the screen with the believed one it is, by its object, or else the one it
replaces, by its place. -/
def matchRasters (believed : List BelievedRaster) (current : List TerminalRaster) :
    List Nat × List Matched :=
  let byObject := matchPass believed (fun image _ entry => entry.image = image) false []
    (current.map fun raster => { raster := raster })
  matchPass believed (fun _ cells entry => entry.cells = cells) true byObject.1 byObject.2

/-! ### A tick -/

/-- What one client is believed to show, and the next number to give out. -/
structure PictureDiffer where
  believed : List BelievedRaster := []
  /-- The next picture's id. All the differs of a server share it. -/
  nextImageId : WireId := 1

section

variable (pixels : ImageObject → Picture) (term : TerminalId) (ready : WireId → Bool)

/-- What is said of a picture on the screen that was believed before. -/
def sayMatched (entry : BelievedRaster) (image : ImageObject) (cells : Proto.Rect)
    (replaced : Bool) : List PictureOp × BelievedRaster :=
  if replaced then
    -- Nobody can take this frame, so nobody pays for it.
    if ready entry.wireId = false then ([], entry)
    else if pixels entry.image = pixels image then ([], { entry with image := image })
    else
      (imagePayload entry.wireId (pixels image) ++ [.place term entry.wireId entry.cells],
       { entry with image := image })
  else if entry.cells = cells then ([], entry)
  else ([.place term entry.wireId cells], { entry with cells := cells })

/-- What is said of everything on the screen, and what that leaves believed. -/
def sayPictures (believed : List BelievedRaster) :
    WireId → List Matched → List PictureOp × List BelievedRaster × WireId
  | next, [] => ([], [], next)
  | next, matched :: rest =>
      match matched.raster.image with
      | none => sayPictures believed next rest
      | some image =>
          match matched.found.bind fun index => believed[index]? with
          | some entry =>
              let said := sayMatched pixels term ready entry image matched.raster.cells
                matched.replaced
              let others := sayPictures believed next rest
              (said.1 ++ others.1, said.2 :: others.2.1, others.2.2)
          | none =>
              let entry : BelievedRaster := ⟨image, next, matched.raster.cells⟩
              let others := sayPictures believed (next + 1) rest
              (imagePayload next (pixels image) ++ .place term next entry.cells :: others.1,
               entry :: others.2.1, others.2.2)

/-- The pictures of a tick: first what is gone, then what has moved or is new. -/
def PictureDiffer.flush (differ : PictureDiffer) (current : List TerminalRaster) :
    List PictureOp × PictureDiffer :=
  if current.isEmpty ∧ differ.believed.isEmpty then ([], differ)
  else
    let matched := matchRasters differ.believed current
    let removes := (differ.believed.zipIdx.filter fun entry => entry.2 ∉ matched.1).map fun entry =>
      PictureOp.remove term entry.1.wireId
    let said := sayPictures pixels term ready differ.believed differ.nextImageId matched.2
    (removes ++ said.1, { believed := said.2.1, nextImageId := said.2.2 })

/-- Every believed picture, for a client that has just come. -/
def PictureDiffer.attachImages (differ : PictureDiffer) : List PictureOp :=
  differ.believed.flatMap fun entry =>
    imagePayload entry.wireId (pixels entry.image) ++ [.place term entry.wireId entry.cells]

end

/-! ### A debt of pictures -/

/-- Messages a client is still to be sent; the first `sent` of them have been. -/
structure PictureDebt where
  owed : List PictureOp := []
  sent : Nat := 0

/-- Does the operation begin a new picture?. -/
def PictureOp.begins : PictureOp → Bool
  | .addBegin .. => true
  | _ => false

/-- Does it place one the client has?. -/
def PictureOp.places : PictureOp → Bool
  | .place .. => true
  | _ => false

/-- Does it take one away?. -/
def PictureOp.removes : PictureOp → Bool
  | .remove .. => true
  | _ => false

/-- What is left of some messages once all of a picture's from its next beginning on
are taken out. -/
def withoutStale (subject : WireId) (unsent : List PictureOp) : List PictureOp :=
  let fresh := unsent.takeWhile fun op => !(op.subject = subject && op.begins)
  let stale := unsent.dropWhile fun op => !(op.subject = subject && op.begins)
  fresh ++ stale.filter fun op => op.subject ≠ subject

/-- One more message owed. What it supersedes of what has not begun to be sent goes. -/
def PictureDebt.owe (debt : PictureDebt) (op : PictureOp) : PictureDebt :=
  let gone := debt.owed.take debt.sent
  let unsent := debt.owed.drop debt.sent
  let unsent :=
    if (op.begins || op.removes) && op.subject ≠ 0 then withoutStale op.subject unsent else unsent
  let unsent :=
    if op.places && op.subject ≠ 0 then
      unsent.filter fun owed => !(owed.subject = op.subject && owed.places)
    else unsent
  { debt with owed := gone ++ unsent ++ [op] }

/-- Whether anything is still to be sent. -/
def PictureDebt.outstanding (debt : PictureDebt) : Bool := debt.sent < debt.owed.length

end Ckmux
