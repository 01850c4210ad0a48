import Mathlib
import Ckmux.Data.Ranges
import Ckmux.Grammar.Wire

/-!
# Copy mode

A reader selects in a document that stands still: the history of a terminal and its screen, a
grapheme for each column, and none for the far half of a wide character. What is drawn as
selected is found cell by cell, and what is copied line by line.
-/

namespace Ckmux

open Data (flatMap_range_between flatMap_range_single)
open Grammar (Bytes)

/-- A column and a row of the lines copied from. -/
structure Point where
  x : Int := 0
  y : Int := 0
deriving DecidableEq

/-- A line, a grapheme for each column. -/
abbrev CopyLine := List Bytes

/-- How what is marked is shaped. -/
inductive SelectionMode where
  | none | character | line | rectangular
deriving DecidableEq

/-- Two corners, the one that is read first in front. -/
def ordered (first second : Point) : Point × Point :=
  if first.y > second.y ∨ first.y = second.y ∧ first.x > second.x then (second, first)
  else (first, second)

/-! ### What is copied -/

/-- A line without the blanks it is filled up with. -/
def trimBlanks (text : Bytes) : Bytes := text.rdropWhile fun byte => byte = 0x20

/-- The text of some columns, up to where the line ends. -/
def lineText (line : CopyLine) (first last : Int) : Bytes :=
  let start := (max 0 first).toNat
  let stop := (min last line.length).toNat
  trimBlanks ((List.range' start (stop - start)).flatMap fun column => line.getD column [])

/-- The columns of a row that a selection takes: from the first to before the second. -/
def selectedColumns (mode : SelectionMode) (anchor cursor : Point) (row width : Int) : Int × Int :=
  let corners := ordered anchor cursor
  match mode with
  | .character =>
      (if row = corners.1.y then corners.1.x else 0,
        if row = corners.2.y then min width (corners.2.x + 1) else width)
  | .rectangular => (min anchor.x cursor.x, min width (max anchor.x cursor.x + 1))
  | .line | .none => (0, width)

/-- A number kept between two others. -/
def clampTo (number lowest highest : Int) : Int := min highest (max lowest number)

/-- What is copied: of every line between the corners the part that is marked, with the lines
joined. -/
def selectedText (lines : List CopyLine) (mode : SelectionMode) (anchor cursor : Point) : Bytes :=
  if lines.isEmpty ∨ mode = .none then []
  else
    let corners := ordered anchor cursor
    let top := (clampTo corners.1.y 0 (lines.length - 1)).toNat
    let bottom := (clampTo corners.2.y 0 (lines.length - 1)).toNat
    (List.range' top (bottom + 1 - top)).flatMap fun row =>
      let line := lines.getD row []
      let columns := selectedColumns mode anchor cursor row line.length
      (if row > top then [0x0A] else []) ++ lineText line columns.1 columns.2

/-! ### What is drawn -/

/-- A reader's view of a document: what is in it, what is selected, and which part is seen. -/
structure CopyModeView where
  lines : List CopyLine
  mode : SelectionMode := .none
  anchor : Point := {}
  cursor : Point := {}
  top : Nat := 0
  width : Nat := 0
  height : Nat := 0

/-- A grapheme drawn. -/
structure DrawnCell where
  row : Nat
  column : Nat
  grapheme : Bytes
  inside : Bool
  atCursor : Bool

namespace CopyModeView

variable (view : CopyModeView)

/-- The last row is the status line's. -/
def visibleRows : Nat := max 1 (view.height - 1)

/-- Whether a cell of the document is selected. -/
def inside (row column : Int) : Bool :=
  let corners := ordered view.anchor view.cursor
  let between : Bool := row ≥ corners.1.y ∧ row ≤ corners.2.y
  match view.mode with
  | .none => false
  | .line => between
  | .rectangular =>
      between && (column ≥ min view.anchor.x view.cursor.x ∧
        column ≤ max view.anchor.x view.cursor.x : Bool)
  | .character =>
      let afterStart : Bool := row > corners.1.y ∨ column ≥ corners.1.x
      let beforeEnd : Bool := row < corners.2.y ∨ column ≤ corners.2.x
      between && (afterStart && beforeEnd)

/-- What is drawn of one column: nothing at the far half of a wide character. -/
def drawCell (row : Nat) (line : CopyLine) (column : Nat) : Option DrawnCell :=
  let grapheme := line.getD column []
  let index := view.top + row
  if grapheme = [] then none
  else
    some
      { row := row
        column := column
        grapheme := grapheme
        inside := view.inside index column
        atCursor := (index : Int) = view.cursor.y ∧ (column : Int) = view.cursor.x }

/-- What is drawn of one line, at a row of the view. -/
def drawLine (row : Nat) (line : CopyLine) : List DrawnCell :=
  (List.range (min view.width line.length)).filterMap (view.drawCell row line)

/-- What is drawn of the document. -/
def draw : List DrawnCell :=
  if view.width = 0 ∨ view.height = 0 then []
  else
    (List.range (min view.visibleRows (view.lines.length - view.top))).flatMap fun row =>
      view.drawLine row (view.lines.getD (view.top + row) [])

/-- The graphemes drawn as selected on one line of the document. -/
def highlighted (row : Nat) : Bytes :=
  (view.draw.filter fun cell => cell.inside && view.top + cell.row = row).flatMap
    DrawnCell.grapheme

/-- Every line in the selection is shown whole, above the status line. -/
structure Shows : Prop where
  wide : ∀ line ∈ view.lines, line.length ≤ view.width
  above : (view.top : Int) ≤ (ordered view.anchor view.cursor).1.y
  below : (ordered view.anchor view.cursor).2.y < view.top + view.height - 1

end CopyModeView

/-- A point on one of the document's lines. -/
def Point.Within (point : Point) (lines : List CopyLine) : Prop :=
  0 ≤ point.y ∧ point.y < lines.length

/-! ### Line by line -/

/-- The corners are put in order by their rows. -/
theorem ordered_cases (first second : Point) :
    ordered first second = (first, second) ∧ first.y ≤ second.y ∨
      ordered first second = (second, first) ∧ second.y ≤ first.y := by
  rw [ordered]
  split
  · exact .inr ⟨rfl, by omega⟩
  · exact .inl ⟨rfl, by omega⟩

namespace CopyModeView

variable {view : CopyModeView}

/-- A cell of a selected line is selected where its column is one of those that are copied. -/
theorem inside_iff {row : Int} {line : CopyLine} {column : Nat} (selecting : view.mode ≠ .none)
    (between : (ordered view.anchor view.cursor).1.y ≤ row ∧
      row ≤ (ordered view.anchor view.cursor).2.y) (present : column < line.length) :
    view.inside row column = true ↔
      let columns := selectedColumns view.mode view.anchor view.cursor row line.length
      (max 0 columns.1).toNat ≤ column ∧ column < (min columns.2 line.length).toNat := by
  cases mode : view.mode with
  | none => exact absurd mode selecting
  | line =>
      simp only [inside, mode, selectedColumns, decide_eq_true_eq]
      omega
  | rectangular =>
      simp only [inside, mode, selectedColumns, Bool.and_eq_true, decide_eq_true_eq]
      omega
  | character =>
      simp only [inside, mode, selectedColumns, Bool.and_eq_true, decide_eq_true_eq]
      split <;> split <;> omega

/-- What is copied of a selected line is what of it is selected, without trailing blanks. -/
theorem lineText_eq {row : Int} {line : CopyLine} (selecting : view.mode ≠ .none)
    (between : (ordered view.anchor view.cursor).1.y ≤ row ∧
      row ≤ (ordered view.anchor view.cursor).2.y) :
    let columns := selectedColumns view.mode view.anchor view.cursor row line.length
    lineText line columns.1 columns.2 =
      trimBlanks ((List.range line.length).flatMap fun column : Nat =>
        if view.inside row column then line.getD column [] else []) := by
  intro columns
  have tested : ∀ column ∈ List.range line.length,
      (if view.inside row column then line.getD column [] else []) =
        if (max 0 columns.1).toNat ≤ column ∧ column < (min columns.2 line.length).toNat then
          line.getD column [] else [] := by
    intro column listed
    exact if_congr (inside_iff selecting between (List.mem_range.mp listed)) rfl rfl
  rw [lineText, List.flatMap_congr tested, flatMap_range_between]
  have inner : min (min columns.2 line.length).toNat line.length =
      (min columns.2 line.length).toNat := by omega
  rw [inner]

/-- Of one column drawn, what is marked is its text, if it is inside. -/
theorem drawCell_inside (row : Nat) (line : CopyLine) (column : Nat) :
    ((view.drawCell row line column).toList.filter DrawnCell.inside).flatMap DrawnCell.grapheme =
      if view.inside (view.top + row : Nat) column then line.getD column [] else [] := by
  rw [drawCell]
  by_cases far : line.getD column [] = []
  · simp only [far, if_true, ite_self]
    rfl
  · simp only [far, if_false, Option.toList_some]
    by_cases marked : view.inside (view.top + row : Nat) column = true
    · simp only [List.filter_cons, marked, if_true, List.filter_nil, List.flatMap_singleton]
    · simp only [List.filter_cons, marked, Bool.false_eq_true, if_false, List.filter_nil,
        List.flatMap_nil]

/-- The graphemes that are drawn as selected on a line. -/
theorem drawLine_inside (row : Nat) {line : CopyLine} (wide : line.length ≤ view.width) :
    ((view.drawLine row line).filter DrawnCell.inside).flatMap DrawnCell.grapheme =
      (List.range line.length).flatMap fun column : Nat =>
        if view.inside (view.top + row : Nat) column then line.getD column [] else [] := by
  rw [drawLine, Nat.min_eq_right wide]
  induction List.range line.length with
  | nil => rfl
  | cons column columns ih =>
      rw [List.flatMap_cons, ← ih, ← drawCell_inside, List.filterMap_cons]
      cases view.drawCell row line column with
      | none => rfl
      | some cell =>
          simp only [Option.toList_some, ← List.flatMap_append, ← List.filter_append,
            List.singleton_append]

/-- A line is drawn in its own row. -/
theorem drawLine_row {row : Nat} {line : CopyLine} {cell : DrawnCell}
    (drawn : cell ∈ view.drawLine row line) : cell.row = row := by
  obtain ⟨column, _, drawn⟩ := List.mem_filterMap.mp drawn
  rw [drawCell] at drawn
  split at drawn
  · cases drawn
  · exact Option.some.inj drawn ▸ rfl

/-- A line that is shown whole is drawn with the graphemes that are selected of it. -/
theorem highlighted_eq {row : Nat} (wide : (view.lines.getD row []).length ≤ view.width)
    (above : view.top ≤ row) (below : row + 1 < view.top + view.height)
    (present : row < view.lines.length) :
    view.highlighted row =
      (List.range (view.lines.getD row []).length).flatMap fun column : Nat =>
        if view.inside row column then (view.lines.getD row []).getD column [] else [] := by
  obtain ⟨shown, rfl⟩ := Nat.exists_eq_add_of_le above
  by_cases narrow : view.width = 0
  · have empty : (view.lines.getD (view.top + shown) []).length = 0 := by omega
    rw [empty, highlighted, draw, if_pos (.inl narrow)]
    rfl
  · rw [highlighted, draw, if_neg (by omega), List.filter_flatMap, List.flatMap_assoc,
      ← drawLine_inside shown wide]
    have inView : shown < min view.visibleRows (view.lines.length - view.top) := by
      rw [visibleRows]
      omega
    rw [flatMap_range_single inView]
    · congr 1
      refine List.filter_congr fun cell drawn => ?_
      rw [drawLine_row drawn, decide_eq_true rfl, Bool.and_true]
    · intro other _ apart
      have none_here : (view.drawLine other (view.lines.getD (view.top + other) [])).filter
          (fun cell => cell.inside && view.top + cell.row = view.top + shown) = [] := by
        refine List.filter_eq_nil_iff.mpr fun cell drawn marked => apart ?_
        rw [drawLine_row drawn, Bool.and_eq_true, decide_eq_true_eq] at marked
        omega
      rw [none_here, List.flatMap_nil]

/-! ### What is copied is what is highlighted -/

/-- What is marked lies between the corners' rows. -/
theorem inside_between {row column : Int} (marked : view.inside row column = true) :
    view.mode ≠ .none ∧ (ordered view.anchor view.cursor).1.y ≤ row ∧
      row ≤ (ordered view.anchor view.cursor).2.y := by
  rw [inside] at marked
  cases mode : view.mode with
  | none => simp [mode] at marked
  | line => simpa [mode] using marked
  | rectangular =>
      simp only [mode, Bool.and_eq_true, decide_eq_true_eq] at marked
      exact ⟨SelectionMode.noConfusion, marked.1⟩
  | character =>
      simp only [mode, Bool.and_eq_true, decide_eq_true_eq] at marked
      exact ⟨SelectionMode.noConfusion, marked.1⟩

/-- A cell is drawn marked exactly if its place is. -/
theorem drawn_inside {cell : DrawnCell} (drawn : cell ∈ view.draw) :
    cell.inside = view.inside (view.top + cell.row : Nat) cell.column := by
  rw [draw] at drawn
  split at drawn
  · cases drawn
  · obtain ⟨row, _, drawn⟩ := List.mem_flatMap.mp drawn
    rw [drawLine_row drawn]
    obtain ⟨column, _, drawn⟩ := List.mem_filterMap.mp drawn
    rw [drawCell] at drawn
    split at drawn
    · cases drawn
    · exact Option.some.inj drawn ▸ rfl

/-- Both corners lie on lines of the document, in their order. -/
theorem corners_within {first last : Point}
    (corners : ordered view.anchor view.cursor = (first, last))
    (anchored : view.anchor.Within view.lines) (placed : view.cursor.Within view.lines) :
    0 ≤ first.y ∧ first.y ≤ last.y ∧ last.y < view.lines.length := by
  obtain ⟨anchor_above, anchor_below⟩ := anchored
  obtain ⟨cursor_above, cursor_below⟩ := placed
  rcases ordered_cases view.anchor view.cursor with ⟨same, le⟩ | ⟨same, le⟩
  · obtain ⟨rfl, rfl⟩ := Prod.mk.inj (same.symm.trans corners)
    exact ⟨anchor_above, le, cursor_below⟩
  · obtain ⟨rfl, rfl⟩ := Prod.mk.inj (same.symm.trans corners)
    exact ⟨cursor_above, le, anchor_below⟩

/-- A line of the selection is copied as it is highlighted. -/
theorem lineText_highlighted {first last : Point} (selecting : view.mode ≠ .none)
    (corners : ordered view.anchor view.cursor = (first, last)) (shows : view.Shows) {row : Nat}
    (after : first.y ≤ row) (before : (row : Int) ≤ last.y) (present : row < view.lines.length) :
    let line := view.lines.getD row []
    let columns := selectedColumns view.mode view.anchor view.cursor row line.length
    lineText line columns.1 columns.2 = trimBlanks (view.highlighted row) := by
  have wide : (view.lines.getD row []).length ≤ view.width := by
    rw [List.getD_eq_getElem _ _ present]
    exact shows.wide _ (List.getElem_mem present)
  have above := shows.above
  have below := shows.below
  rw [corners] at above below
  dsimp only at above below
  rw [highlighted_eq wide (by omega) (by omega) present]
  exact lineText_eq selecting (by rw [corners]; exact ⟨after, before⟩)

/-- The lines of a selection, without their trailing blanks and with an end of line between them. -/
theorem selectedText_selecting {first last : Point} (selecting : view.mode ≠ .none)
    (corners : ordered view.anchor view.cursor = (first, last))
    (anchored : view.anchor.Within view.lines) (placed : view.cursor.Within view.lines)
    (shows : view.Shows) :
    selectedText view.lines view.mode view.anchor view.cursor =
      [0x0A].intercalate ((List.range' first.y.toNat (last.y.toNat + 1 - first.y.toNat)).map
        fun row => trimBlanks (view.highlighted row)) := by
  obtain ⟨above, in_order, below⟩ := corners_within corners anchored placed
  have filled : view.lines ≠ [] := by
    intro empty
    rw [empty, List.length_nil] at below
    omega
  have top : clampTo first.y 0 (view.lines.length - 1) = first.y := by
    rw [clampTo]
    omega
  have bottom : clampTo last.y 0 (view.lines.length - 1) = last.y := by
    rw [clampTo]
    omega
  have copied : ∀ row ∈ List.range' first.y.toNat (last.y.toNat + 1 - first.y.toNat),
      (let line := view.lines.getD row []
        let columns := selectedColumns view.mode view.anchor view.cursor row line.length
        lineText line columns.1 columns.2) = trimBlanks (view.highlighted row) := by
    intro row listed
    obtain ⟨after, before⟩ := List.mem_range'_1.mp listed
    exact lineText_highlighted selecting corners shows (by omega) (by omega) (by omega)
  obtain ⟨more, count⟩ : ∃ more, last.y.toNat + 1 - first.y.toNat = more + 1 :=
    ⟨last.y.toNat - first.y.toNat, by omega⟩
  rw [selectedText, if_neg (by simp [filled, selecting])]
  simp only [corners, top, bottom]
  rw [count] at copied ⊢
  obtain ⟨head, others⟩ := List.forall_mem_cons.mp (List.range'_succ ▸ copied)
  rw [List.range'_succ, List.flatMap_cons, List.map_cons, Data.intercalate_cons, List.flatMap_map,
    if_neg (lt_irrefl _), List.nil_append, head]
  congr 1
  refine List.flatMap_congr fun row listed => ?_
  rw [others row listed, if_pos]
  have := (List.mem_range'_1.mp listed).1
  omega

/-- What is copied is what is highlighted: of each line of the selection the graphemes that are
drawn as selected, without trailing blanks, and with an end of line between one line and the next.
Without a selection nothing is copied, and nothing is drawn as selected. -/
theorem selectedText_highlighted (view : CopyModeView)
    (anchored : view.anchor.Within view.lines) (placed : view.cursor.Within view.lines)
    (shows : view.Shows) :
    let corners := ordered view.anchor view.cursor
    (∀ cell ∈ view.draw, cell.inside = true → view.mode ≠ .none ∧
      corners.1.y ≤ (view.top + cell.row : Nat) ∧ ((view.top + cell.row : Nat) : Int) ≤ corners.2.y) ∧
    selectedText view.lines view.mode view.anchor view.cursor =
      if view.mode = .none then []
      else
        [0x0A].intercalate ((List.range' corners.1.y.toNat
          (corners.2.y.toNat + 1 - corners.1.y.toNat)).map fun row =>
            trimBlanks (view.highlighted row)) := by
  refine ⟨fun cell drawn marked => inside_between (drawn_inside drawn ▸ marked), ?_⟩
  split
  · rename_i nothing
    rw [selectedText, if_pos (.inr nothing)]
  · rename_i selecting
    exact selectedText_selecting selecting rfl anchored placed shows

/-- A block dragged from its lower right corner, over a line that ends in it. -/
def draggedBlock : CopyModeView :=
  { lines := [[[0x61], [0x62], [0x63]], [[0x64], [0x20]], [[0x65], [0x66], [0x67]]]
    mode := .rectangular
    anchor := ⟨2, 2⟩
    cursor := ⟨1, 0⟩
    width := 3
    height := 4 }

/-- A block is copied as it is drawn marked. -/
theorem selectedText_highlighted_block :
    let corners := ordered draggedBlock.anchor draggedBlock.cursor
    (∀ cell ∈ draggedBlock.draw, cell.inside = true → draggedBlock.mode ≠ .none ∧
      corners.1.y ≤ (draggedBlock.top + cell.row : Nat) ∧
        ((draggedBlock.top + cell.row : Nat) : Int) ≤ corners.2.y) ∧
    selectedText draggedBlock.lines draggedBlock.mode draggedBlock.anchor draggedBlock.cursor =
      if draggedBlock.mode = .none then []
      else
        [0x0A].intercalate ((List.range' corners.1.y.toNat
          (corners.2.y.toNat + 1 - corners.1.y.toNat)).map fun row =>
            trimBlanks (draggedBlock.highlighted row)) :=
  selectedText_highlighted draggedBlock ⟨by decide, by decide⟩ ⟨by decide, by decide⟩
    ⟨by decide, by decide, by decide⟩

example : selectedText draggedBlock.lines draggedBlock.mode draggedBlock.anchor
    draggedBlock.cursor = [0x62, 0x63, 0x0A, 0x0A, 0x66, 0x67] := by decide

end CopyModeView

end Ckmux
