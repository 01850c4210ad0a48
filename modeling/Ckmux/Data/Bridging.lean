import Mathlib

/-!
# Sending blocks, with a header for each piece

Blocks stand in a row, each with a cost, and some of them have to be sent. They are sent in
pieces of adjacent blocks, and each piece costs a header more. Between two blocks that have
to be sent it is therefore a matter of what is dearer: the blocks between them, or another
header. `least` is what is paid by one who chooses the cheaper each time.
-/

namespace Ckmux.Data

/-- What a piece costs, and whether it cannot be left out. -/
structure Block where
  cost : Nat
  needed : Bool
deriving DecidableEq

/-- What the needed blocks cost from here on. With a piece open it is known what the blocks
cost that were passed since the last needed one. -/
def least (header : Nat) : Option Nat → List Block → Nat
  | _, [] => 0
  | none, block :: blocks =>
      if block.needed then header + block.cost + least header (some 0) blocks
      else least header none blocks
  | some gap, block :: blocks =>
      if block.needed then min header gap + block.cost + least header (some 0) blocks
      else least header (some (gap + block.cost)) blocks

variable {header : Nat}

/-- An open piece is never a loss. -/
theorem least_some_le_none (gap : Nat) (blocks : List Block) :
    least header (some gap) blocks ≤ least header none blocks := by
  induction blocks generalizing gap with
  | nil => exact le_refl _
  | cons block blocks ih =>
      rw [least, least]
      split
      · have cheaper := Nat.min_le_left header gap
        omega
      · exact ih _

/-- An open piece is worth a header at most. -/
theorem least_none_le (gap : Nat) (blocks : List Block) :
    least header none blocks ≤ header + least header (some gap) blocks := by
  induction blocks generalizing gap with
  | nil => exact Nat.zero_le _
  | cons block blocks ih =>
      rw [least, least]
      split
      · omega
      · exact ih _

/-- Blocks that were passed cost no more than themselves. -/
theorem least_gap_le (passed gap : Nat) (blocks : List Block) :
    least header (some (passed + gap)) blocks ≤ passed + least header (some gap) blocks := by
  induction blocks generalizing gap with
  | nil => exact Nat.zero_le _
  | cons block blocks ih =>
      rw [least, least]
      split
      · omega
      · rw [Nat.add_assoc]
        exact ih _

end Ckmux.Data
