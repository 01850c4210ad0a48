import Mathlib

/-!
# Tilings of an area, and what becomes of them when it is stretched

An area of cells is tiled by boxes if each of its cells lies in one of them. Moving every
boundary by one monotone map across and one down carries a tiling to a tiling. If right and
lower edges may come to lie a cell beside their boundary, the boxes still tile only if no edge
does, as long as no box gets narrow: one that is short of its boundary leaves a gap that no
other box can reach, and one beyond it overlaps its neighbour.
-/

namespace Ckmux.Data

/-- A rectangle of columns and rows. -/
structure Box where
  x : Int
  y : Int
  width : Int
  height : Int
deriving DecidableEq

/-- Whether a place is in the box. -/
def Box.Holds (box : Box) (column row : Int) : Prop :=
  (box.x ≤ column ∧ column < box.x + box.width) ∧ (box.y ≤ row ∧ row < box.y + box.height)

instance (box : Box) (column row : Int) : Decidable (box.Holds column row) :=
  inferInstanceAs (Decidable (_ ∧ _))

/-- Two boxes without a cell in common. -/
def Box.Apart (one other : Box) : Prop := ∀ column row, one.Holds column row → ¬other.Holds column row

/-- Boxes that fill an area and do not overlap. -/
structure Tiles (area : Box) (boxes : List Box) : Prop where
  inside : ∀ box ∈ boxes, ∀ column row, box.Holds column row → area.Holds column row
  apart : boxes.Pairwise Box.Apart
  filled : ∀ column row, area.Holds column row → ∃ box ∈ boxes, box.Holds column row

/-- A cell of a tiling lies in one box only. -/
theorem only_box {boxes : List Box} {shape : Box → Box}
    (apart : (boxes.map shape).Pairwise Box.Apart) {one other : Box} (one_in : one ∈ boxes)
    (other_in : other ∈ boxes) {column row : Int} (one_holds : (shape one).Holds column row)
    (other_holds : (shape other).Holds column row) : one = other := by
  induction boxes with
  | nil => cases one_in
  | cons box boxes ih =>
      rw [List.map_cons, List.pairwise_cons] at apart
      rcases List.mem_cons.mp one_in with rfl | one_later <;>
        rcases List.mem_cons.mp other_in with rfl | other_later
      · rfl
      · exact absurd other_holds (apart.1 _ (List.mem_map_of_mem other_later) _ _ one_holds)
      · exact absurd one_holds (apart.1 _ (List.mem_map_of_mem one_later) _ _ other_holds)
      · exact ih apart.2 one_later other_later

/-- In a tiling, where a box ends before the area does, others begin. -/
theorem Tiles.next {area : Box} {boxes : List Box} (tiles : Tiles area boxes) {box : Box}
    (box_in : box ∈ boxes) {row : Int} (holds : box.Holds (box.x + box.width - 1) row)
    (inner : box.x + box.width < area.x + area.width) :
    ∃ next ∈ boxes, next.x = box.x + box.width ∧ next.y ≤ row ∧ row < next.y + next.height := by
  have area_holds := tiles.inside box box_in _ _ holds
  obtain ⟨next, next_in, next_holds⟩ := tiles.filled (box.x + box.width) row
    ⟨⟨by have := area_holds.1.1; omega, inner⟩, area_holds.2⟩
  refine ⟨next, next_in, ?_, next_holds.2⟩
  by_contra elsewhere
  have both : next.Holds (box.x + box.width - 1) row :=
    ⟨⟨by have := next_holds.1.1; omega, by have := next_holds.1.2; omega⟩, next_holds.2⟩
  have apart : (boxes.map id).Pairwise Box.Apart := by
    rw [List.map_id]
    exact tiles.apart
  have same := only_box apart box_in next_in holds both
  have not_past := next_holds.1.2
  rw [← same] at not_past
  exact lt_irrefl _ not_past

/-! ### Monotone boundaries -/

section

variable {boundary : Int → Int}

/-- Every cell between the images of two boundaries lies between those of adjacent ones. -/
theorem exists_step (first : Int) (count : Nat) {cell : Int} (after : boundary first ≤ cell)
    (before : cell < boundary (first + count)) :
    ∃ column, boundary column ≤ cell ∧ cell < boundary (column + 1) := by
  induction count with
  | zero =>
      rw [Nat.cast_zero, add_zero] at before
      omega
  | succ count ih =>
      by_cases earlier : cell < boundary (first + count)
      · exact ih earlier
      · rw [Nat.cast_succ, ← add_assoc] at before
        exact ⟨first + count, not_lt.mp earlier, before⟩

/-- A cell between the images of adjacent boundaries lies between those of two others just if
the column does between these. -/
theorem between_iff (monotone : Monotone boundary) {column cell : Int}
    (after : boundary column ≤ cell) (before : cell < boundary (column + 1)) (first last : Int) :
    (boundary first ≤ cell ∧ cell < boundary last) ↔ (first ≤ column ∧ column < last) := by
  constructor
  · rintro ⟨begins, ends⟩
    constructor
    · by_contra later
      have late := monotone (show column + 1 ≤ first by omega)
      omega
    · by_contra earlier
      have early := monotone (show last ≤ column by omega)
      omega
  · rintro ⟨begins, ends⟩
    exact ⟨(monotone begins).trans after, before.trans_le (monotone (show column + 1 ≤ last by omega))⟩

/-- The column that a cell between two images comes from. -/
theorem exists_column (monotone : Monotone boundary) {first last cell : Int}
    (after : boundary first ≤ cell) (before : cell < boundary last) :
    ∃ column, boundary column ≤ cell ∧ cell < boundary (column + 1) := by
  have ordered : first ≤ last := by
    by_contra reversed
    have back := monotone (show last ≤ first by omega)
    omega
  have reached : first + ((last - first).toNat : Int) = last := by omega
  exact exists_step first (last - first).toNat after (by rwa [reached])

/-- What is mapped to less was less. -/
theorem lt_of_image_lt (monotone : Monotone boundary) {one other : Int}
    (less : boundary one < boundary other) : one < other := by
  by_contra reversed
  have back := monotone (not_lt.mp reversed)
  omega

end

/-! ### Stretching -/

/-- A box with its boundaries moved. -/
def Box.stretch (across down : Int → Int) (box : Box) : Box where
  x := across box.x
  y := down box.y
  width := across (box.x + box.width) - across box.x
  height := down (box.y + box.height) - down box.y

section

variable {across down : Int → Int} {area : Box} {boxes : List Box}

/-- The cell that a cell of a stretched area comes from: each stretched box holds the one just
if the box holds the other. -/
theorem Box.stretch_holds (right : Monotone across) (below : Monotone down) {box : Box}
    {column row : Int} (holds : (box.stretch across down).Holds column row) :
    ∃ column' row', ∀ other : Box,
      (other.stretch across down).Holds column row ↔ other.Holds column' row' := by
  obtain ⟨⟨left, ends⟩, top, bottom⟩ := holds
  rw [stretch, add_sub_cancel] at ends bottom
  obtain ⟨column', begins, before⟩ := exists_column right left ends
  obtain ⟨row', starts, above⟩ := exists_column below top bottom
  refine ⟨column', row', fun other => ?_⟩
  rw [Holds, Holds, ← between_iff right begins before, ← between_iff below starts above, stretch,
    add_sub_cancel, add_sub_cancel]

/-- A stretched tiling tiles the stretched area. -/
theorem Tiles.stretch (tiles : Tiles area boxes) (right : Monotone across) (below : Monotone down) :
    Tiles (area.stretch across down) (boxes.map (Box.stretch across down)) where
  inside := by
    intro stretched listed column row holds
    obtain ⟨box, box_in, rfl⟩ := List.mem_map.mp listed
    obtain ⟨column', row', comes_from⟩ := Box.stretch_holds right below holds
    exact (comes_from area).mpr (tiles.inside box box_in _ _ ((comes_from box).mp holds))
  apart := by
    refine List.pairwise_map.mpr (tiles.apart.imp fun apart column row holds other_holds => ?_)
    obtain ⟨column', row', comes_from⟩ := Box.stretch_holds right below holds
    exact apart _ _ ((comes_from _).mp holds) ((comes_from _).mp other_holds)
  filled := by
    intro column row holds
    obtain ⟨column', row', comes_from⟩ := Box.stretch_holds right below holds
    obtain ⟨box, box_in, box_holds⟩ := tiles.filled _ _ ((comes_from area).mp holds)
    exact ⟨_, List.mem_map_of_mem box_in, (comes_from box).mpr box_holds⟩

end

/-! ### Ragged edges -/

/-- A box whose left and upper boundaries are moved, and whose right and lower edges are said
for itself. -/
def Box.ragged (across down : Int → Int) (ends bottom : Box → Int) (box : Box) : Box where
  x := across box.x
  y := down box.y
  width := ends box - across box.x
  height := bottom box - down box.y

/-- A place is in a ragged box if its own ends have it. -/
theorem Box.ragged_holds {across down : Int → Int} {ends bottom : Box → Int} {box : Box}
    {column row : Int} : (box.ragged across down ends bottom).Holds column row ↔
      (across box.x ≤ column ∧ column < ends box) ∧ (down box.y ≤ row ∧ row < bottom box) := by
  rw [Holds, ragged, add_sub_cancel, add_sub_cancel]

/-- A tiling whose boxes, their edges a cell beside the moved boundaries at most and none of
them narrow, tile the stretched area again. -/
structure Ragged (across down : Int → Int) (ends bottom : Box → Int) (area : Box)
    (boxes : List Box) : Prop where
  right : Monotone across
  below : Monotone down
  tiles : Tiles area boxes
  retiles : Tiles (area.stretch across down) (boxes.map (Box.ragged across down ends bottom))
  wide : ∀ box ∈ boxes, across box.x + 2 ≤ ends box
  high : ∀ box ∈ boxes, down box.y + 2 ≤ bottom box
  ends_near : ∀ box ∈ boxes,
    across (box.x + box.width) - 1 ≤ ends box ∧ ends box ≤ across (box.x + box.width) + 1
  bottom_near : ∀ box ∈ boxes,
    down (box.y + box.height) - 1 ≤ bottom box ∧ bottom box ≤ down (box.y + box.height) + 1

/-- A box with its columns and rows exchanged. -/
def Box.transpose (box : Box) : Box := ⟨box.y, box.x, box.height, box.width⟩

/-- Columns and rows change places. -/
theorem Box.transpose_holds {box : Box} {column row : Int} :
    box.transpose.Holds column row ↔ box.Holds row column := and_comm

/-- A tiling turned over is one. -/
theorem Tiles.transpose {area : Box} {boxes : List Box} (tiles : Tiles area boxes) :
    Tiles area.transpose (boxes.map Box.transpose) where
  inside := by
    intro turned listed column row holds
    obtain ⟨box, box_in, rfl⟩ := List.mem_map.mp listed
    exact Box.transpose_holds.mpr (tiles.inside box box_in _ _ (Box.transpose_holds.mp holds))
  apart := by
    refine List.pairwise_map.mpr (tiles.apart.imp fun apart column row holds other_holds => ?_)
    exact apart _ _ (Box.transpose_holds.mp holds) (Box.transpose_holds.mp other_holds)
  filled := by
    intro column row holds
    obtain ⟨box, box_in, box_holds⟩ := tiles.filled _ _ (Box.transpose_holds.mp holds)
    exact ⟨_, List.mem_map_of_mem box_in, Box.transpose_holds.mpr box_holds⟩

namespace Ragged

variable {across down : Int → Int} {ends bottom : Box → Int} {area : Box} {boxes : List Box}

/-- A ragged tiling turned over is one. -/
theorem transpose (ragged : Ragged across down ends bottom area boxes) :
    Ragged down across (bottom ∘ Box.transpose) (ends ∘ Box.transpose) area.transpose
      (boxes.map Box.transpose) where
  right := ragged.below
  below := ragged.right
  tiles := ragged.tiles.transpose
  retiles := by
    have turned := ragged.retiles.transpose
    rw [List.map_map] at turned ⊢
    exact turned
  wide := List.forall_mem_map.mpr ragged.high
  high := List.forall_mem_map.mpr ragged.wide
  ends_near := List.forall_mem_map.mpr ragged.bottom_near
  bottom_near := List.forall_mem_map.mpr ragged.ends_near

/-- A place is in one ragged box at most. -/
theorem only (ragged : Ragged across down ends bottom area boxes) {one other : Box}
    (one_in : one ∈ boxes) (other_in : other ∈ boxes) {column row : Int}
    (one_holds : (one.ragged across down ends bottom).Holds column row)
    (other_holds : (other.ragged across down ends bottom).Holds column row) : one = other :=
  only_box ragged.retiles.apart one_in other_in one_holds other_holds

/-- A place was in one box at most. -/
theorem only_before (ragged : Ragged across down ends bottom area boxes) {one other : Box}
    (one_in : one ∈ boxes) (other_in : other ∈ boxes) {column row : Int}
    (one_holds : one.Holds column row) (other_holds : other.Holds column row) : one = other := by
  have apart : (boxes.map id).Pairwise Box.Apart := by
    rw [List.map_id]
    exact ragged.tiles.apart
  exact only_box apart one_in other_in one_holds other_holds

/-- The box is not empty, and neither would it be with its edges on the boundaries. -/
theorem filled_box (ragged : Ragged across down ends bottom area boxes) {box : Box}
    (box_in : box ∈ boxes) : box.x < box.x + box.width ∧ box.y < box.y + box.height := by
  have wide := ragged.wide box box_in
  have high := ragged.high box box_in
  have ends_near := ragged.ends_near box box_in
  have bottom_near := ragged.bottom_near box box_in
  exact ⟨lt_of_image_lt ragged.right (by omega), lt_of_image_lt ragged.below (by omega)⟩

/-- Behind a box lies, in its uppermost row once moved, another that begins at its boundary. -/
theorem behind (ragged : Ragged across down ends bottom area boxes) {box : Box}
    (box_in : box ∈ boxes)
    (inner : across (box.x + box.width) < across (area.x + area.width)) :
    ∃ next ∈ boxes, next.x = box.x + box.width ∧ down next.y ≤ down box.y ∧
      down box.y < down (next.y + next.height) := by
  obtain ⟨filled_across, filled_down⟩ := ragged.filled_box box_in
  have high := ragged.high box box_in
  have bottom_near := ragged.bottom_near box box_in
  obtain ⟨row, starts, above⟩ := exists_column ragged.below (le_refl (down box.y))
    (show down box.y < down (box.y + box.height) by omega)
  have row_in : box.y ≤ row ∧ row < box.y + box.height :=
    (between_iff ragged.below starts above _ _).mp ⟨le_refl _, by omega⟩
  have last_holds : box.Holds (box.x + box.width - 1) row := ⟨⟨by omega, by omega⟩, row_in⟩
  have within : box.x + box.width < area.x + area.width := lt_of_image_lt ragged.right inner
  obtain ⟨next, next_in, begins, top, bottom⟩ := ragged.tiles.next box_in last_holds within
  refine ⟨next, next_in, begins, (ragged.below top).trans starts, ?_⟩
  exact above.trans_le (ragged.below (show row + 1 ≤ next.y + next.height from bottom))

/-- Two boxes of which one begins in a column of the other lie above one another. -/
theorem above_or_below (ragged : Ragged across down ends bottom area boxes) {one other : Box}
    (one_in : one ∈ boxes) (other_in : other ∈ boxes) (after : one.x < other.x)
    (before : other.x < one.x + one.width) :
    other.y + other.height ≤ one.y ∨ one.y + one.height ≤ other.y := by
  by_contra overlap
  obtain ⟨_, one_filled⟩ := ragged.filled_box one_in
  obtain ⟨other_wide, other_filled⟩ := ragged.filled_box other_in
  have one_holds : one.Holds other.x (max one.y other.y) :=
    ⟨⟨after.le, before⟩, le_max_left _ _, by omega⟩
  have other_holds : other.Holds other.x (max one.y other.y) :=
    ⟨⟨le_refl _, other_wide⟩, le_max_right _ _, by omega⟩
  have same := ragged.only_before one_in other_in one_holds other_holds
  rw [same] at after
  exact lt_irrefl _ after

/-- What fills the gap of a box short of its boundary begins there. -/
theorem filler (ragged : Ragged across down ends bottom area boxes) {box : Box}
    (box_in : box ∈ boxes) (short : ends box < across (box.x + box.width)) :
    ∃ filler ∈ boxes, across filler.x = ends box ∧ down filler.y ≤ down box.y ∧
      down box.y < bottom filler := by
  have wide := ragged.wide box box_in
  have high := ragged.high box box_in
  obtain ⟨filled_across, filled_down⟩ := ragged.filled_box box_in
  have own : (box.ragged across down ends bottom).Holds (ends box - 1) (down box.y) :=
    Box.ragged_holds.mpr ⟨⟨by omega, by omega⟩, le_refl _, by omega⟩
  have own_area := ragged.retiles.inside _ (List.mem_map_of_mem box_in) _ _ own
  have area_end : across (box.x + box.width) ≤ across (area.x + area.width) := by
    have last := ragged.tiles.inside box box_in (box.x + box.width - 1) box.y
      ⟨⟨by omega, by omega⟩, le_refl _, filled_down⟩
    exact ragged.right (by have := last.1.2; omega)
  have gap : (area.stretch across down).Holds (ends box) (down box.y) := by
    refine ⟨⟨by have := own_area.1.1; omega, ?_⟩, own_area.2⟩
    rw [Box.stretch, add_sub_cancel]
    omega
  obtain ⟨stretched, listed, holds⟩ := ragged.retiles.filled _ _ gap
  obtain ⟨filler, filler_in, rfl⟩ := List.mem_map.mp listed
  have fills := Box.ragged_holds.mp holds
  refine ⟨filler, filler_in, ?_, fills.2⟩
  by_contra elsewhere
  have also : (filler.ragged across down ends bottom).Holds (ends box - 1) (down box.y) :=
    Box.ragged_holds.mpr ⟨⟨by have := fills.1.1; omega, by have := fills.1.2; omega⟩, fills.2⟩
  have same := ragged.only box_in filler_in own also
  have past := fills.1.2
  rw [← same] at past
  exact lt_irrefl _ past

/-- No box is short of its boundary: what would have to fill the gap is too wide for it. -/
theorem not_short (ragged : Ragged across down ends bottom area boxes) {box : Box}
    (box_in : box ∈ boxes) : across (box.x + box.width) ≤ ends box := by
  by_contra short
  have high := ragged.high box box_in
  have wide := ragged.wide box box_in
  have ends_near := ragged.ends_near box box_in
  have bottom_near := ragged.bottom_near box box_in
  obtain ⟨filler, filler_in, begins, top, reaches⟩ := ragged.filler box_in (not_le.mp short)
  have filler_wide := ragged.wide filler filler_in
  have filler_high := ragged.high filler filler_in
  have filler_near := ragged.bottom_near filler filler_in
  -- the filler comes from above, and reaches one row down
  have from_above : bottom filler = down box.y + 1 := by
    have after : box.x < filler.x := lt_of_image_lt ragged.right (by omega)
    have before : filler.x < box.x + box.width := lt_of_image_lt ragged.right (by omega)
    rcases ragged.above_or_below box_in filler_in after before with over_it | under
    · have moved := ragged.below over_it
      omega
    · have moved := ragged.below under
      omega
  have holds (row : Int) (after : down box.y - 1 ≤ row) (before : row ≤ down box.y) :
      (filler.ragged across down ends bottom).Holds (across (box.x + box.width)) row :=
    Box.ragged_holds.mpr ⟨⟨by omega, by omega⟩, by omega, by omega⟩
  -- so it meets what begins at the boundary
  have inner : across (box.x + box.width) < across (area.x + area.width) := by
    have held := ragged.retiles.inside _ (List.mem_map_of_mem filler_in) _ _
      (holds (down box.y) (by omega) (le_refl _))
    have past := held.1.2
    rwa [Box.stretch, add_sub_cancel] at past
  obtain ⟨next, next_in, next_begins, next_top, next_bottom⟩ := ragged.behind box_in inner
  have next_wide := ragged.wide next next_in
  have next_high := ragged.high next next_in
  have next_near := ragged.bottom_near next next_in
  rw [next_begins] at next_wide
  have meets : ∃ row, down box.y - 1 ≤ row ∧ row ≤ down box.y ∧ down next.y ≤ row ∧
      row < bottom next := by
    by_cases same_row : down box.y < bottom next
    · exact ⟨down box.y, by omega, le_refl _, next_top, same_row⟩
    · exact ⟨down box.y - 1, le_refl _, by omega, by omega, by omega⟩
  obtain ⟨row, after, before, next_after, next_before⟩ := meets
  have next_holds : (next.ragged across down ends bottom).Holds (across (box.x + box.width)) row :=
    Box.ragged_holds.mpr ⟨⟨by rw [next_begins], by omega⟩, next_after, next_before⟩
  have same := ragged.only filler_in next_in (holds row after before) next_holds
  rw [same, next_begins] at begins
  omega

/-- Nor is one beyond its boundary: it would meet the next one. -/
theorem not_beyond (ragged : Ragged across down ends bottom area boxes) {box : Box}
    (box_in : box ∈ boxes) : ends box ≤ across (box.x + box.width) := by
  by_contra beyond
  have high := ragged.high box box_in
  obtain ⟨filled_across, _⟩ := ragged.filled_box box_in
  have holds : (box.ragged across down ends bottom).Holds (across (box.x + box.width)) (down box.y) :=
    Box.ragged_holds.mpr ⟨⟨ragged.right filled_across.le, by omega⟩, le_refl _, by omega⟩
  have inner : across (box.x + box.width) < across (area.x + area.width) := by
    have held := ragged.retiles.inside _ (List.mem_map_of_mem box_in) _ _ holds
    have past := held.1.2
    rwa [Box.stretch, add_sub_cancel] at past
  obtain ⟨next, next_in, next_begins, next_top, next_bottom⟩ := ragged.behind box_in inner
  have next_wide := ragged.wide next next_in
  rw [next_begins] at next_wide
  have low : down (next.y + next.height) ≤ bottom next :=
    ragged.transpose.not_short (List.mem_map_of_mem next_in)
  have next_holds :
      (next.ragged across down ends bottom).Holds (across (box.x + box.width)) (down box.y) :=
    Box.ragged_holds.mpr ⟨⟨by rw [next_begins], by omega⟩, next_top, by omega⟩
  have same := ragged.only box_in next_in holds next_holds
  rw [← same] at next_begins
  omega

/-- Each edge lies on its boundary. -/
theorem meets (ragged : Ragged across down ends bottom area boxes) {box : Box}
    (box_in : box ∈ boxes) :
    ends box = across (box.x + box.width) ∧ bottom box = down (box.y + box.height) :=
  ⟨le_antisymm (ragged.not_beyond box_in) (ragged.not_short box_in),
    le_antisymm (ragged.transpose.not_beyond (List.mem_map_of_mem box_in))
      (ragged.transpose.not_short (List.mem_map_of_mem box_in))⟩

end Ragged

end Ckmux.Data
