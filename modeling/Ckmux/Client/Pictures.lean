import Mathlib
import Ckmux.Server.Pictures

/-!
# Pictures, as a client takes them

Pixels arrive under a picture's id: a beginning that says how many there will be, the
pieces in order, and an end. Only a place puts them on a terminal, and takes them out of
the store as it does. A picture that is placed again without new pixels has moved.
-/

namespace Ckmux

open Grammar (Bytes)

/-- A picture whose pixels are still arriving. -/
structure PendingImage where
  width : UInt16
  height : UInt16
  nextSeq : Nat := 0
  bytes : Bytes := []

/-- Four bytes for each pixel. -/
def PendingImage.total (pending : PendingImage) : Nat :=
  pending.width.toNat * pending.height.toNat * 4

/-- What has arrived of the pictures of a connection and is on no terminal yet. -/
structure ImageStore where
  pending : WireId → Option PendingImage := fun _ => none
  completed : WireId → Option Picture := fun _ => none

/-- A picture on a mirror's screen. -/
structure PlacedImage where
  id : WireId
  picture : Picture
  cells : Proto.Rect
deriving DecidableEq

namespace ImageStore

variable (store : ImageStore) (id : WireId)

/-- An image begins, and whatever was pending under its id is forgotten. -/
def begin (width height : UInt16) : ImageStore :=
  { store with pending := Function.update store.pending id (some { width, height }) }

/-- A piece of a picture. One out of order, or of more than was announced, is the end of
the assembly. -/
def chunk (seq : Nat) (bytes : Bytes) : ImageStore :=
  match store.pending id with
  | none => store
  | some pending =>
      if seq ≠ pending.nextSeq ∨ pending.bytes.length + bytes.length > pending.total then
        { store with pending := Function.update store.pending id none }
      else
        { store with
          pending := Function.update store.pending id (some { pending with
            bytes := pending.bytes ++ bytes
            nextSeq := pending.nextSeq + 1 }) }

/-- The end of a picture, which is complete if every pixel came and there was any. -/
def finish : ImageStore :=
  match store.pending id with
  | none => store
  | some pending =>
      let completed :=
        if whole : pending.total ≠ 0 ∧ pending.bytes.length = pending.total then
          Function.update store.completed id
            (some ⟨pending.width, pending.height, pending.bytes, whole.2⟩)
        else store.completed
      { pending := Function.update store.pending id none, completed := completed }

/-- A completed picture, handed over once. -/
def collect : Option Picture × ImageStore :=
  (store.completed id,
   { store with completed := Function.update store.completed id none })

/-- An image is forgotten, whole or not. -/
def discard : ImageStore where
  pending := Function.update store.pending id none
  completed := Function.update store.completed id none

end ImageStore

/-- A picture moved, given other pixels, or put where there was none. Without pixels a
picture that is not there stays away. -/
def placeImage (id : WireId) (image : Option Picture) (cells : Proto.Rect) :
    List PlacedImage → List PlacedImage
  | [] =>
      match image with
      | none => []
      | some picture => [⟨id, picture, cells⟩]
  | held :: others =>
      if held.id = id then { held with cells := cells, picture := image.getD held.picture } :: others
      else held :: placeImage id image cells others

/-- The first of that id is taken away. -/
def removeImage (id : WireId) (placed : List PlacedImage) : List PlacedImage :=
  placed.eraseP fun held => held.id = id

/-- The pictures a snapshot names, which stay. -/
def keepImages (named : List WireId) (placed : List PlacedImage) : List PlacedImage :=
  placed.filter fun held => held.id ∈ named

end Ckmux
