import Mathlib

/-!
# Flat buffers of rows

A grid kept as one list is read as rows of a width. Everything written into it is
a `splice`: some entries replaced in place, the length and everything around them
unchanged. `Within` says where a list may have changed, and `ext_rows` that rows
are all there is to a buffer whose length is a whole number of them.
-/

namespace Ckmux.Data

variable {α : Type}

/-- The entries from `first` up to `last`. -/
def slice (entries : List α) (first last : Nat) : List α := (entries.drop first).take (last - first)

/-- Some entries replaced in place by as many others. -/
def splice (entries : List α) (offset : Nat) (incoming : List α) : List α :=
  entries.take offset ++ incoming ++ entries.drop (offset + incoming.length)

/-- One row of a flat buffer. -/
def row (width : Nat) (entries : List α) (index : Nat) : List α :=
  (entries.drop (index * width)).take width

/-- The whole rows of a flat buffer. -/
def rows (width : Nat) (entries : List α) : List (List α) :=
  (List.range (entries.length / width)).map (row width entries)

/-! ### Slices and splices -/

/-- A slice has as many entries as places. -/
theorem length_slice {entries : List α} {first last : Nat} (ordered : first ≤ last)
    (inside : last ≤ entries.length) : (slice entries first last).length = last - first := by
  rw [slice, List.length_take, List.length_drop]
  omega

/-- A slice's entries are the list's, from its beginning on. -/
theorem getElem?_slice {entries : List α} {first last index : Nat} (before : index < last - first) :
    (slice entries first last)[index]? = entries[first + index]? := by
  rw [slice, List.getElem?_take_of_lt before, List.getElem?_drop]

/-- Putting entries over others makes no list longer. -/
theorem length_splice {entries incoming : List α} {offset : Nat}
    (fits : offset + incoming.length ≤ entries.length) :
    (splice entries offset incoming).length = entries.length := by
  simp only [splice, List.length_append, List.length_take, List.length_drop]
  omega

/-- What a place holds after a splice. -/
theorem getElem?_splice {entries incoming : List α} {offset : Nat}
    (fits : offset + incoming.length ≤ entries.length) (index : Nat) :
    (splice entries offset incoming)[index]? =
      if offset ≤ index ∧ index < offset + incoming.length then incoming[index - offset]?
      else entries[index]? := by
  rw [splice, List.append_assoc]
  by_cases before : index < offset
  · rw [List.getElem?_append_left (by rw [List.length_take]; omega),
      List.getElem?_take_of_lt before, if_neg (by omega)]
  have start : (entries.take offset).length = offset := by
    rw [List.length_take]
    omega
  rw [List.getElem?_append_right (by omega), start]
  by_cases inside : index < offset + incoming.length
  · rw [List.getElem?_append_left (by omega), if_pos (by omega)]
  · rw [List.getElem?_append_right (by omega), List.getElem?_drop, if_neg (by omega)]
    congr 1
    omega

/-! ### Where a buffer has changed -/

/-- Outside `first` up to `last`, nothing has changed. -/
def Within (first last : Nat) (before after : List α) : Prop :=
  after.length = before.length ∧
    ∀ index, index < first ∨ last ≤ index → after[index]? = before[index]?

namespace Within

/-- Nothing is changed. -/
theorem refl (first last : Nat) (entries : List α) : Within first last entries entries :=
  ⟨rfl, fun _ _ => rfl⟩

/-- Two changes within the same places are one. -/
theorem trans {first last : Nat} {before between after : List α}
    (front : Within first last before between) (back : Within first last between after) :
    Within first last before after :=
  ⟨back.1.trans front.1, fun index outside =>
    (back.2 index outside).trans (front.2 index outside)⟩

/-- Entries put within the places change nothing elsewhere. -/
theorem splice {entries incoming : List α} {first last offset : Nat} (left : first ≤ offset)
    (right : offset + incoming.length ≤ last) (inside : last ≤ entries.length) :
    Within first last entries (splice entries offset incoming) := by
  refine ⟨length_splice (by omega), fun index outside => ?_⟩
  rw [getElem?_splice (by omega), if_neg (by omega)]

end Within

/-! ### Buffers that may be touched in one place only -/

/-- The entries from `begins` up to `ends`, for one who may touch those from `first` up to
`last`. -/
def readWithin (first last : Nat) (entries : List α) (begins ends : Nat) : Option (List α) :=
  if first ≤ begins ∧ begins ≤ ends ∧ ends ≤ last ∧ last ≤ entries.length then
    some (slice entries begins ends)
  else none

/-- Entries replaced by one who may touch those from `first` up to `last`. -/
def writeWithin (first last : Nat) (entries : List α) (offset : Nat) (incoming : List α) :
    Option (List α) :=
  if first ≤ offset ∧ offset + incoming.length ≤ last ∧ last ≤ entries.length then
    some (splice entries offset incoming)
  else none

/-- A reading within the places is a slice. -/
theorem readWithin_eq {entries : List α} {first last begins ends : Nat} (left : first ≤ begins)
    (ordered : begins ≤ ends) (right : ends ≤ last) (inside : last ≤ entries.length) :
    readWithin first last entries begins ends = some (slice entries begins ends) :=
  if_pos ⟨left, ordered, right, inside⟩

/-- A writing within the places is a splice. -/
theorem writeWithin_eq {entries incoming : List α} {first last offset : Nat} (left : first ≤ offset)
    (right : offset + incoming.length ≤ last) (inside : last ≤ entries.length) :
    writeWithin first last entries offset incoming = some (splice entries offset incoming) :=
  if_pos ⟨left, right, inside⟩

/-! ### Rows -/

/-- A row that is there ends where the grid does, or before. -/
theorem row_end_le {width height index : Nat} (inside : index < height) :
    index * width + width ≤ height * width := by
  calc index * width + width = (index + 1) * width := by rw [Nat.succ_mul]
    _ ≤ height * width := Nat.mul_le_mul_right width inside

/-- A row is as long as the grid is wide. -/
theorem length_row {width height index : Nat} {entries : List α}
    (sized : entries.length = height * width) (inside : index < height) :
    (row width entries index).length = width := by
  have room := @row_end_le width _ _ inside
  rw [row, List.length_take, List.length_drop]
  omega

/-- A row's entries are the grid's. -/
theorem getElem?_row {width : Nat} {entries : List α} {index column : Nat} (inside : column < width) :
    (row width entries index)[column]? = entries[index * width + column]? := by
  rw [row, List.getElem?_take_of_lt inside, List.getElem?_drop]

/-- Rows are all there is to a buffer of whole rows. -/
theorem ext_rows {width height : Nat} {left right : List α}
    (leftSized : left.length = height * width) (rightSized : right.length = height * width)
    (same : ∀ index < height, row width left index = row width right index) : left = right := by
  apply List.ext_getElem?
  intro place
  by_cases inside : place < height * width
  · have positive : 0 < width := by
      rcases Nat.eq_zero_or_pos width with rfl | positive
      · simp at inside
      · exact positive
    have rowInside : place / width < height := Nat.div_lt_of_lt_mul (by rwa [Nat.mul_comm])
    have columnInside : place % width < width := Nat.mod_lt _ positive
    have split : place / width * width + place % width = place := Nat.div_add_mod' place width
    have equal := congrArg (fun entries => entries[place % width]?) (same _ rowInside)
    simpa only [getElem?_row columnInside, split] using equal
  · rw [List.getElem?_eq_none (by omega), List.getElem?_eq_none (by omega)]

/-- A change that spares a row's entries spares the row. -/
theorem row_of_within {width first last index : Nat} {before after : List α}
    (within : Within first last before after)
    (spared : index * width + width ≤ first ∨ last ≤ index * width) :
    row width after index = row width before index := by
  apply List.ext_getElem?
  intro column
  by_cases inside : column < width
  · rw [getElem?_row inside, getElem?_row inside]
    exact within.2 _ (by omega)
  · rw [List.getElem?_eq_none (by rw [row, List.length_take]; omega),
      List.getElem?_eq_none (by rw [row, List.length_take]; omega)]

/-- Writing a whole row makes it that row. -/
theorem row_splice {width height index : Nat} {entries incoming : List α}
    (sized : entries.length = height * width) (inside : index < height)
    (whole : incoming.length = width) :
    row width (splice entries (index * width) incoming) index = incoming := by
  have room := @row_end_le width _ _ inside
  apply List.ext_getElem?
  intro column
  by_cases within : column < width
  · rw [getElem?_row within, getElem?_splice (by omega), if_pos (by omega)]
    congr 1
    omega
  · rw [List.getElem?_eq_none (by rw [row, List.length_take]; omega),
      List.getElem?_eq_none (by omega)]

/-! ### Buffers of whole rows -/

/-- There are as many rows as fit. -/
theorem length_rows (width : Nat) (entries : List α) :
    (rows width entries).length = entries.length / width := by
  rw [rows, List.length_map, List.length_range]

/-- Nothing has no rows. -/
theorem rows_nil (width : Nat) : rows width ([] : List α) = [] := by
  rw [rows, List.length_nil, Nat.zero_div]
  rfl

/-- A buffer with room for a row is that row and the rest. -/
theorem rows_cons {width : Nat} {entries : List α} (positive : 0 < width)
    (room : width ≤ entries.length) :
    rows width entries = entries.take width :: rows width (entries.drop width) := by
  have count : entries.length / width = (entries.drop width).length / width + 1 := by
    rw [List.length_drop, Nat.div_eq_sub_div positive room]
  have first : row width entries 0 = entries.take width := by
    rw [row, Nat.zero_mul, List.drop_zero]
  have next (index : Nat) : row width entries (index + 1) = row width (entries.drop width) index := by
    rw [row, row, List.drop_drop, Nat.succ_mul, Nat.add_comm]
  rw [rows, rows, count, List.range_succ_eq_map, List.map_cons, List.map_map, first]
  congr 1
  exact List.map_congr_left fun index _ => next index

/-- Less than a row is none. -/
theorem rows_of_length_lt {width : Nat} {entries : List α} (short : entries.length < width) :
    rows width entries = [] := by
  rw [rows, Nat.div_eq_of_lt short]
  rfl

/-- A line in front is a row in front. -/
theorem rows_line_append {width : Nat} {line : List α} (positive : 0 < width)
    (whole : line.length = width) (entries : List α) :
    rows width (line ++ entries) = line :: rows width entries := by
  rw [rows_cons positive (by rw [List.length_append]; omega), List.take_left' whole,
    List.drop_left' whole]

/-- Lines of a width, put one after another, are the rows of the buffer. -/
theorem rows_flatten {width : Nat} {lines : List (List α)} (positive : 0 < width)
    (whole : ∀ line ∈ lines, line.length = width) : rows width lines.flatten = lines := by
  induction lines with
  | nil => exact rows_nil width
  | cons line lines ih =>
      rw [List.flatten_cons, rows_line_append positive (whole line List.mem_cons_self),
        ih fun other listed => whole other (List.mem_cons_of_mem _ listed)]

/-- Every row is as long as the grid is wide. -/
theorem length_of_mem_rows {width : Nat} {entries line : List α} (listed : line ∈ rows width entries) :
    line.length = width := by
  obtain ⟨index, within, rfl⟩ := List.mem_map.mp listed
  rw [List.mem_range] at within
  have room := @row_end_le width _ _ within
  have whole := Nat.div_mul_le_self entries.length width
  rw [row, List.length_take, List.length_drop]
  omega

/-- A buffer of whole rows is its rows, one after another. -/
theorem flatten_rows {width count : Nat} {entries : List α} (positive : 0 < width)
    (whole : entries.length = count * width) : (rows width entries).flatten = entries := by
  induction count generalizing entries with
  | zero =>
      rw [Nat.zero_mul, List.length_eq_zero_iff] at whole
      rw [whole, rows_nil]
      rfl
  | succ count ih =>
      rw [Nat.succ_mul] at whole
      have rest : (entries.drop width).length = count * width := by
        rw [List.length_drop]
        omega
      rw [rows_cons positive (by omega), List.flatten_cons, ih rest, List.take_append_drop]

/-- Rows behind whole rows are behind them. -/
theorem rows_append {width count : Nat} {front : List α} (positive : 0 < width)
    (whole : front.length = count * width) (back : List α) :
    rows width (front ++ back) = rows width front ++ rows width back := by
  induction count generalizing front with
  | zero =>
      rw [Nat.zero_mul, List.length_eq_zero_iff] at whole
      rw [whole, rows_nil]
      rfl
  | succ count ih =>
      rw [Nat.succ_mul] at whole
      have rest : (front.drop width).length = count * width := by
        rw [List.length_drop]
        omega
      have room : width ≤ front.length := by omega
      rw [rows_cons positive (by rw [List.length_append]; omega),
        List.take_append_of_le_length room, List.drop_append_of_le_length room, ih rest,
        rows_cons positive room, List.cons_append]

/-- The rows left where some are dropped. -/
theorem rows_drop {width : Nat} {entries : List α} (positive : 0 < width) (count : Nat) :
    rows width (entries.drop (count * width)) = (rows width entries).drop count := by
  induction count generalizing entries with
  | zero => rw [Nat.zero_mul, List.drop_zero, List.drop_zero]
  | succ count ih =>
      rcases Nat.lt_or_ge entries.length width with short | room
      · rw [rows_of_length_lt short, rows_of_length_lt (by rw [List.length_drop]; omega),
          List.drop_nil]
      · rw [rows_cons positive room, List.drop_succ_cons, ← ih, List.drop_drop, Nat.succ_mul,
          Nat.add_comm]

end Ckmux.Data
