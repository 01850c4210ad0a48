import Mathlib
import Ckmux.Data.Tiling
import Ckmux.Server.Snapshot

/-!
# Windows put back where they were

A window that was part of a filled tiling is put back by its share of the desktop. Shares
travel as ten-thousandths, each of the four numbers rounded on its own, and are laid out as
edges: a window ends where its origin and its extent, added, come to. The next begins where
its own origin does.
-/

namespace Ckmux

open Data (Box Tiles)

/-! ### Shares -/

/-- A number rounded to the nearest whole one, a half away from zero. -/
def llround (value : ℚ) : Int := if 0 ≤ value then ⌊value + 1 / 2⌋ else -⌊-value + 1 / 2⌋

/-- Where a boundary falls on an extent of so many cells. -/
def tileEdge (fraction : ℚ) (extent : Int) : Int := llround (fraction * extent)

/-- The whole, as shares of it are sent. -/
def kTileFractionWhole : Nat := 10000

/-- A share as it was sent. -/
def tileShare (fixed : UInt16) : ℚ := fixed.toNat / kTileFractionWhole

/-- A share as it is sent, rounded to the nearest. -/
def tileFixed (share : ℚ) : UInt16 :=
  if ¬share > 0 then 0
  else UInt16.ofNat (min (max (llround (share * kTileFractionWhole)) 0) kTileFractionWhole).toNat

/-- What fraction of the desktop a window has, if it is part of a filled tiling. -/
structure TileShare where
  x : ℚ := 0
  y : ℚ := 0
  width : ℚ := 0
  height : ℚ := 0
deriving DecidableEq

/-- Whether there is any share at all. -/
def TileShare.filled (tile : TileShare) : Bool := tile.width > 0 ∧ tile.height > 0

/-- A terminal's window, where it is on the desktop. -/
structure WindowPlacement where
  terminal : TerminalId
  rect : Box
  zOrder : UInt16 := 0
  zoomed : Bool := false
  tile : TileShare := {}
deriving DecidableEq

/-- Where a window is put back. -/
def restoredBounds (resizeWindowsToFit : Bool) (placed : WindowPlacement) (area : Box) : Box :=
  if placed.tile.filled then
    let left := area.x + tileEdge placed.tile.x area.width
    let right := area.x + tileEdge (placed.tile.x + placed.tile.width) area.width
    let top := area.y + tileEdge placed.tile.y area.height
    let bottom := area.y + tileEdge (placed.tile.y + placed.tile.height) area.height
    ⟨left, top, max 1 (right - left), max 1 (bottom - top)⟩
  else
    let x := max (min placed.rect.x (area.x + area.width - placed.rect.width)) area.x
    let y := max (min placed.rect.y (area.y + area.height - placed.rect.height)) area.y
    if resizeWindowsToFit then
      ⟨x, y, min placed.rect.width area.width, min placed.rect.height area.height⟩
    else ⟨x, y, placed.rect.width, placed.rect.height⟩

/-! ### To the server and back -/

/-- A rectangle as it is sent. -/
def toWire (rect : Box) : Proto.Rect :=
  ⟨Int16.ofInt rect.x, Int16.ofInt rect.y, UInt16.ofNat (max 0 rect.width).toNat,
    UInt16.ofNat (max 0 rect.height).toNat⟩

/-- A rectangle as it was sent. -/
def fromWire (rect : Proto.Rect) : Box :=
  ⟨rect.x.toInt, rect.y.toInt, rect.width.toNat, rect.height.toNat⟩

/-- What a client reports of a window. -/
def WindowPlacement.report (placed : WindowPlacement) : Proto.LayoutEntry where
  term := placed.terminal
  rect := toWire placed.rect
  zOrder := placed.zOrder
  zoomed := if placed.zoomed then 1 else 0
  tile := ⟨tileFixed placed.tile.x, tileFixed placed.tile.y, tileFixed placed.tile.width,
    tileFixed placed.tile.height⟩

/-- What a client makes of what it is told of a window. -/
def statedPlacement (entry : Proto.LayoutEntry) : WindowPlacement where
  terminal := entry.term
  rect := fromWire entry.rect
  zOrder := entry.zOrder
  zoomed := entry.zoomed ≠ 0
  tile := ⟨tileShare entry.tile.x, tileShare entry.tile.y, tileShare entry.tile.width,
    tileShare entry.tile.height⟩

/-- What a snapshot says of a window. -/
def layoutEntry (state : Proto.TerminalState) : Proto.LayoutEntry :=
  ⟨state.term, state.rect, state.zOrder, state.zoomed, state.tile⟩

/-- The terminal that keeps a window's place, and what else a snapshot says of it. -/
structure Keeper where
  terminal : Terminal
  policy : EffectivePrinterPolicy
  index : UInt16
  state : Proto.TerminalState

/-- What comes back of a window's place: it is reported, kept with the terminal and stated in
a snapshot. -/
def Keeper.restate (keeper : Keeper) (placed : WindowPlacement) : WindowPlacement :=
  let entry := placed.report
  let kept := keeper.terminal.setLayout ⟨entry.rect, entry.zOrder, entry.zoomed ≠ 0, entry.tile⟩
  statedPlacement (layoutEntry (kept.describe keeper.policy keeper.index keeper.state))

/-- A window's share once it has been through the wire. -/
def TileShare.carried (tile : TileShare) : TileShare :=
  ⟨tileShare (tileFixed tile.x), tileShare (tileFixed tile.y), tileShare (tileFixed tile.width),
    tileShare (tileFixed tile.height)⟩

/-- The share that comes back is the one reported. -/
theorem Keeper.restate_tile (keeper : Keeper) (placed : WindowPlacement) :
    (keeper.restate placed).tile = placed.tile.carried := by
  have kept (layout : WindowLayout) : (keeper.terminal.setLayout layout).layout = layout := by
    rw [Terminal.setLayout]
    split
    · assumption
    · rfl
  rw [restate, statedPlacement, layoutEntry, Terminal.describe, kept]
  rfl

/-! ### Filled tilings -/

/-- The share that a window has of an area. -/
def shareOf (area rect : Box) : TileShare where
  x := (rect.x - area.x : Int) / area.width
  y := (rect.y - area.y : Int) / area.height
  width := rect.width / area.width
  height := rect.height / area.height

/-- Windows that tile a content area, each with its share of it. -/
structure FilledTiling where
  area : Box
  arrangement : List WindowPlacement
  wide : 0 < area.width
  high : 0 < area.height
  tiles : Tiles area (arrangement.map WindowPlacement.rect)
  shares : ∀ placed ∈ arrangement, placed.tile = shareOf area placed.rect

namespace FilledTiling

variable (tiling : FilledTiling) (keeper : WindowPlacement → Keeper) (resizeWindowsToFit : Bool)
variable (area : Box)

/-- The windows put back on another content area. -/
def restored : List Box :=
  tiling.arrangement.map fun placed =>
    restoredBounds resizeWindowsToFit ((keeper placed).restate placed) area

/-- The windows where they were, seen from the corner of another content area. -/
def shifted : List Box :=
  tiling.arrangement.map fun placed =>
    { placed.rect with
      x := placed.rect.x - tiling.area.x + area.x
      y := placed.rect.y - tiling.area.y + area.y }

/-- How many cells lie between the edges asked for. -/
def cells (tile : TileShare) : Int × Int :=
  (tileEdge (tile.x + tile.width) area.width - tileEdge tile.x area.width,
    tileEdge (tile.y + tile.height) area.height - tileEdge tile.y area.height)

/-- Every tile keeps so many cells each way. -/
def Keeps (count : Int) : Prop :=
  ∀ placed ∈ tiling.arrangement,
    count ≤ (cells area placed.tile.carried).1 ∧ count ≤ (cells area placed.tile.carried).2

/-- Whether the area is as large as the one that was tiled. -/
def SameSize : Prop := area.width = tiling.area.width ∧ area.height = tiling.area.height

/-- What is promised: the windows tile the new area, and are where they were if it has the
size of the old one. -/
def Restores : Prop :=
  tiling.Keeps area 1 →
    Tiles area (tiling.restored keeper resizeWindowsToFit area) ∧
      (tiling.SameSize area →
        tiling.restored keeper resizeWindowsToFit area = tiling.shifted area)

end FilledTiling

/-- Two numbers of ten-thousandths that come to the same cell of an extent. -/
def SameCell (extent : Int) (one other : Nat) : Prop :=
  (2 * one * extent + 10000) / 20000 = (2 * other * extent + 10000) / 20000

/-- A share whose ten-thousandths come back to it on an extent of so many cells. -/
def Named (extent : Int) (share : ℚ) : Prop :=
  ((2 * (tileFixed share).toNat * extent + 10000) / 20000 : Int) = share * extent

/-- The ten-thousandths of origin and extent, added, come to the cell that the ten-thousandths
of the boundary come to. -/
def MeetsAt (extent : Int) (origin size : ℚ) : Prop :=
  SameCell extent ((tileFixed origin).toNat + (tileFixed size).toNat) (tileFixed (origin + size)).toNat

/-- Every window ends where the next begins; and if the area has the size of the old one, the
ten-thousandths still name its cells. -/
def FilledTiling.Meets (tiling : FilledTiling) (area : Box) : Prop :=
  ∀ placed ∈ tiling.arrangement,
    (MeetsAt area.width placed.tile.x placed.tile.width ∧
      MeetsAt area.height placed.tile.y placed.tile.height) ∧
    (tiling.SameSize area →
      (Named area.width placed.tile.x ∧ Named area.width (placed.tile.x + placed.tile.width)) ∧
      (Named area.height placed.tile.y ∧ Named area.height (placed.tile.y + placed.tile.height)))

/-! ### Rounding -/

/-- What is not below nought is rounded by adding a half. -/
theorem llround_eq {value : ℚ} (positive : 0 ≤ value) : llround value = ⌊value + 1 / 2⌋ :=
  if_pos positive

/-- Where so many ten-thousandths fall, in whole numbers. -/
def nearest (fixed : Nat) (extent : Int) : Int := (2 * fixed * extent + 10000) / 20000

/-- A share's edge is the nearest column to it. -/
theorem tileEdge_fixed {fixed : Nat} {extent : Int} (some_cells : 0 ≤ extent) :
    tileEdge (fixed / kTileFractionWhole) extent = nearest fixed extent := by
  have positive : (0 : ℚ) ≤ fixed / kTileFractionWhole * extent := by
    have cells : (0 : ℚ) ≤ extent := by exact_mod_cast some_cells
    positivity
  rw [tileEdge, llround_eq positive, nearest]
  have whole : (fixed / kTileFractionWhole * extent + 1 / 2 : ℚ) =
      ((2 * fixed * extent + 10000 : Int) : ℚ) / (20000 : Nat) := by
    rw [kTileFractionWhole]
    push_cast
    ring
  rw [whole, Rat.floor_intCast_div_natCast]
  rfl

/-- Rounding keeps the order. -/
theorem llround_mono {one other : ℚ} (ordered : one ≤ other) : llround one ≤ llround other := by
  rw [llround, llround]
  split_ifs with one_sign other_sign other_sign
  · exact Int.floor_mono (by linarith)
  · exact absurd (one_sign.trans ordered) other_sign
  · have low : 0 ≤ ⌊-one + 1 / 2⌋ := Int.floor_nonneg.mpr (by linarith)
    have high : 0 ≤ ⌊other + 1 / 2⌋ := Int.floor_nonneg.mpr (by linarith)
    omega
  · have turned : ⌊-other + 1 / 2⌋ ≤ ⌊-one + 1 / 2⌋ := Int.floor_mono (by linarith)
    omega

/-- The ten-thousandths of a share: the nearest number of them that a whole has. -/
theorem tileFixed_toNat (share : ℚ) :
    ((tileFixed share).toNat : Int) = min (max ⌊share * 10000 + 1 / 2⌋ 0) 10000 := by
  rw [tileFixed, kTileFractionWhole]
  push_cast
  by_cases some_share : share > 0
  · rw [if_neg (not_not.mpr some_share), llround_eq (by positivity)]
    generalize ⌊share * 10000 + 1 / 2⌋ = scaled
    have held : (UInt16.ofNat (min (max scaled 0) 10000).toNat).toNat =
        (min (max scaled 0) 10000).toNat :=
      UInt16.toNat_ofNat_of_lt (by rw [UInt16.size]; omega)
    omega
  · have none_left : ⌊share * 10000 + 1 / 2⌋ ≤ 0 := by
      refine Int.lt_add_one_iff.mp (Int.floor_lt.mpr ?_)
      push_cast
      linarith
    rw [if_pos some_share]
    change (0 : Int) = _
    omega

/-- Shares that are sent keep their order. -/
theorem tileFixed_mono {one other : ℚ} (ordered : one ≤ other) :
    (tileFixed one).toNat ≤ (tileFixed other).toNat := by
  have nearer : ⌊one * 10000 + 1 / 2⌋ ≤ ⌊other * 10000 + 1 / 2⌋ := Int.floor_mono (by linarith)
  have one_fixed := tileFixed_toNat one
  have other_fixed := tileFixed_toNat other
  omega

/-- A share that is sent is off by half of a ten-thousandth at most. -/
theorem tileFixed_near {share : ℚ} (some_share : 0 ≤ share) (part : share ≤ 1) :
    share * 10000 - 1 / 2 < (tileFixed share).toNat ∧
      ((tileFixed share).toNat : ℚ) ≤ share * 10000 + 1 / 2 := by
  have fixed := tileFixed_toNat share
  have below : 0 ≤ ⌊share * 10000 + 1 / 2⌋ := Int.floor_nonneg.mpr (by linarith)
  have above : ⌊share * 10000 + 1 / 2⌋ < 10001 := Int.floor_lt.mpr (by push_cast; linarith)
  have near : ((tileFixed share).toNat : ℚ) = (⌊share * 10000 + 1 / 2⌋ : Int) := by
    have whole : ((tileFixed share).toNat : Int) = ⌊share * 10000 + 1 / 2⌋ := by omega
    exact_mod_cast whole
  have floor_le := Int.floor_le (share * 10000 + 1 / 2)
  have lt_floor := Int.lt_floor_add_one (share * 10000 + 1 / 2)
  rw [near]
  constructor <;> linarith

/-- Nearest columns keep the order of the shares. -/
theorem nearest_mono {one other : Nat} (ordered : one ≤ other) {extent : Int}
    (some_cells : 0 ≤ extent) : nearest one extent ≤ nearest other extent := by
  refine Int.ediv_le_ediv (by norm_num) ?_
  have more : (one : Int) * extent ≤ other * extent :=
    mul_le_mul_of_nonneg_right (by exact_mod_cast ordered) some_cells
  linarith

/-- On an extent that ten-thousandths can name, one of them is worth a cell at most. -/
theorem nearest_succ_le (fixed : Nat) {extent : Int} (few : extent ≤ 10000) :
    nearest (fixed + 1) extent ≤ nearest fixed extent + 1 := by
  have more : 2 * ((fixed + 1 : Nat) : Int) * extent = 2 * fixed * extent + 2 * extent := by
    push_cast
    ring
  rw [nearest, nearest, more]
  omega

/-- Origin and extent, rounded each, are a ten-thousandth off the boundary at most. -/
theorem tileFixed_add {origin size : ℚ} (begins : 0 ≤ origin) (positive : 0 ≤ size)
    (part : origin + size ≤ 1) :
    (tileFixed (origin + size)).toNat ≤ (tileFixed origin).toNat + (tileFixed size).toNat + 1 ∧
      (tileFixed origin).toNat + (tileFixed size).toNat ≤ (tileFixed (origin + size)).toNat + 1 := by
  obtain ⟨origin_low, origin_high⟩ := tileFixed_near begins (by linarith)
  obtain ⟨size_low, size_high⟩ := tileFixed_near positive (by linarith)
  obtain ⟨whole_low, whole_high⟩ := tileFixed_near (add_nonneg begins positive) part
  constructor
  · have close : ((tileFixed (origin + size)).toNat : ℚ) <
        ((tileFixed origin).toNat + (tileFixed size).toNat + 1 + 1 : Nat) := by
      push_cast
      linarith
    exact Nat.lt_succ_iff.mp (by exact_mod_cast close)
  · have close : ((tileFixed origin).toNat + (tileFixed size).toNat : ℚ) <
        ((tileFixed (origin + size)).toNat + 1 + 1 : Nat) := by
      push_cast
      linarith
    exact Nat.lt_succ_iff.mp (by exact_mod_cast close)

/-- On an extent that ten-thousandths can name, they name every boundary. -/
theorem named_of_few {extent : Int} (some_cells : 0 < extent) (few : extent ≤ 10000) {column : Int}
    (inside : 0 ≤ column) (before : column ≤ extent) : Named extent (column / extent) := by
  have cells : (0 : ℚ) < extent := by exact_mod_cast some_cells
  have some_share : (0 : ℚ) ≤ column / extent :=
    div_nonneg (by exact_mod_cast inside) cells.le
  have part : (column / extent : ℚ) ≤ 1 := by
    rw [div_le_one cells]
    exact_mod_cast before
  obtain ⟨low, high⟩ := tileFixed_near some_share part
  rw [Named, div_mul_cancel₀ _ cells.ne']
  generalize (tileFixed (column / extent)).toNat = fixed at low high
  have above : 20000 * column < 2 * fixed * extent + extent := by
    rw [div_mul_eq_mul_div, sub_lt_iff_lt_add, div_lt_iff₀ cells] at low
    have whole : (20000 * column : ℚ) < 2 * fixed * extent + extent := by linarith
    exact_mod_cast whole
  have below : 2 * fixed * extent ≤ 20000 * column + extent := by
    rw [div_mul_eq_mul_div, ← sub_le_iff_le_add, le_div_iff₀ cells] at high
    have whole : (2 * fixed * extent : ℚ) ≤ 20000 * column + extent := by linarith
    exact_mod_cast whole
  have back : (2 * fixed * extent + 10000) / 20000 = column := by
    rcases eq_or_lt_of_le few with all | fewer
    · subst all
      omega
    · omega
  rw [back]

/-! ### One way across -/

/-- Where a boundary of one extent falls on another. -/
def cut (origin extent start cells column : Int) : Int :=
  start + nearest (tileFixed ((column - origin : Int) / extent)).toNat cells

/-- Where what begins at a boundary and has some size is made to end. -/
def reach (origin extent start cells first size : Int) : Int :=
  start + nearest ((tileFixed ((first - origin : Int) / extent)).toNat +
    (tileFixed (size / extent)).toNat) cells

section

variable {origin extent start cells : Int} (some_extent : 0 < extent)

include some_extent

/-- Cuts keep their order on another size. -/
theorem cut_mono (some_cells : 0 ≤ cells) : Monotone (cut origin extent start cells) := by
  intro one other ordered
  have further : ((one - origin : Int) / extent : ℚ) ≤ (other - origin : Int) / extent := by
    have positive : (0 : ℚ) < extent := by exact_mod_cast some_extent
    rw [div_le_div_iff_of_pos_right positive]
    exact_mod_cast sub_le_sub_right ordered origin
  have fall := nearest_mono (tileFixed_mono further) some_cells
  rw [cut, cut]
  omega

omit some_extent in
/-- Where the area began it begins. -/
theorem cut_origin : cut origin extent start cells origin = start := by
  have none_fixed : tileFixed 0 = 0 := rfl
  rw [cut, sub_self, Int.cast_zero, zero_div, none_fixed, nearest]
  change start + (2 * 0 * cells + 10000) / 20000 = start
  omega

/-- Where the area ended it ends. -/
theorem cut_end : cut origin extent start cells (origin + extent) = start + cells := by
  have positive : (extent : ℚ) ≠ 0 := by exact_mod_cast some_extent.ne'
  have all_fixed : (tileFixed 1).toNat = 10000 := by decide +kernel
  rw [cut, add_sub_cancel_left, div_self positive, all_fixed, nearest]
  push_cast
  omega

omit some_extent in
/-- A beginning's share and a size's share make the end's. -/
theorem shares_add (first size : Int) :
    ((first - origin : Int) / extent + size / extent : ℚ) =
      (first + size - origin : Int) / extent := by
  rw [← add_div]
  push_cast
  congr 1
  ring

omit some_extent in
/-- A window meets the next exactly where it reaches that one's cut. -/
theorem meetsAt_iff {first size : Int} :
    MeetsAt cells ((first - origin : Int) / extent) (size / extent) ↔
      reach origin extent start cells first size =
        cut origin extent start cells (first + size) := by
  rw [MeetsAt, shares_add, reach, cut, add_right_inj]
  rfl

/-- A window reaches its end's cut but for one column at most. -/
theorem reach_near (few : cells ≤ 10000) (some_cells : 0 ≤ cells) {first size : Int}
    (begins : origin ≤ first) (positive : 0 ≤ size) (inside : first + size ≤ origin + extent) :
    cut origin extent start cells (first + size) - 1 ≤ reach origin extent start cells first size ∧
      reach origin extent start cells first size ≤
        cut origin extent start cells (first + size) + 1 := by
  have whole : (0 : ℚ) < extent := by exact_mod_cast some_extent
  have begins_share : (0 : ℚ) ≤ (first - origin : Int) / extent :=
    div_nonneg (by exact_mod_cast sub_nonneg.mpr begins) whole.le
  have size_share : (0 : ℚ) ≤ size / extent := div_nonneg (by exact_mod_cast positive) whole.le
  have part : ((first - origin : Int) / extent + size / extent : ℚ) ≤ 1 := by
    rw [shares_add, div_le_one whole]
    exact_mod_cast (by omega : first + size - origin ≤ extent)
  obtain ⟨above, below⟩ := tileFixed_add begins_share size_share part
  rw [shares_add] at above below
  rw [reach, cut]
  have up := nearest_mono above some_cells
  have up_one := nearest_succ_le ((tileFixed ((first - origin : Int) / extent)).toNat +
    (tileFixed (size / extent)).toNat) few
  have down := nearest_mono below some_cells
  have down_one := nearest_succ_le (tileFixed ((first + size - origin : Int) / extent)).toNat few
  omega

/-- With as many cells as before a cut stays where it was exactly if its share names it. -/
theorem named_iff {column : Int} :
    Named extent ((column - origin : Int) / extent) ↔
      cut origin extent start extent column = start + (column - origin) := by
  have positive : (extent : ℚ) ≠ 0 := by exact_mod_cast some_extent.ne'
  rw [Named, div_mul_cancel₀ _ positive, cut, add_right_inj, nearest]
  exact Int.cast_inj

end

/-! ### Putting a tiling back -/

namespace FilledTiling

variable {tiling : FilledTiling} {keeper : WindowPlacement → Keeper} {resizeWindowsToFit : Bool}
variable {area : Box}

/-- Where a column of the tiling is on the area. -/
def across (tiling : FilledTiling) (area : Box) : Int → Int :=
  cut tiling.area.x tiling.area.width area.x area.width

/-- Where a row of the tiling is on the area. -/
def down (tiling : FilledTiling) (area : Box) : Int → Int :=
  cut tiling.area.y tiling.area.height area.y area.height

/-- Where a window's right edge comes to be. -/
def ends (tiling : FilledTiling) (area rect : Box) : Int :=
  reach tiling.area.x tiling.area.width area.x area.width rect.x rect.width

/-- Where a window's lower edge comes to be. -/
def bottom (tiling : FilledTiling) (area rect : Box) : Int :=
  reach tiling.area.y tiling.area.height area.y area.height rect.y rect.height

/-- Columns keep their order. -/
theorem across_mono (tiling : FilledTiling) (some_cells : 0 ≤ area.width) : Monotone (tiling.across area) :=
  cut_mono tiling.wide some_cells

/-- Rows keep their order. -/
theorem down_mono (tiling : FilledTiling) (some_cells : 0 ≤ area.height) : Monotone (tiling.down area) :=
  cut_mono tiling.high some_cells

/-- The new area is the old one with its boundaries moved. -/
theorem stretch_area : tiling.area.stretch (tiling.across area) (tiling.down area) = area := by
  rw [Box.stretch, across, down, cut_origin, cut_origin, cut_end tiling.wide, cut_end tiling.high,
    add_sub_cancel_left, add_sub_cancel_left]

/-- There is a window. -/
theorem exists_placed (tiling : FilledTiling) : ∃ placed, placed ∈ tiling.arrangement := by
  have wide := tiling.wide
  have high := tiling.high
  obtain ⟨rect, rect_in, _⟩ := tiling.tiles.filled tiling.area.x tiling.area.y
    ⟨⟨le_refl _, by omega⟩, le_refl _, by omega⟩
  obtain ⟨placed, placed_in, _⟩ := List.mem_map.mp rect_in
  exact ⟨placed, placed_in⟩

/-- Between edges one cell apart there is a share, of an area that has cells. -/
theorem edges_apart {origin size : UInt16} {extent : Int}
    (apart : 1 ≤ tileEdge (tileShare origin + tileShare size) extent -
      tileEdge (tileShare origin) extent) : 0 < extent ∧ 0 < tileShare size := by
  have shares (fixed : UInt16) : 0 ≤ tileShare fixed := by
    rw [tileShare]
    positivity
  have share_left : 0 < tileShare size := by
    refine lt_of_le_of_ne (shares size) fun none_left => ?_
    rw [← none_left, add_zero, sub_self] at apart
    omega
  refine ⟨?_, share_left⟩
  by_contra no_cells
  have reversed : tileEdge (tileShare origin + tileShare size) extent ≤
      tileEdge (tileShare origin) extent := by
    refine llround_mono (mul_le_mul_of_nonpos_right ?_ ?_)
    · linarith
    · exact_mod_cast not_lt.mp no_cells
  omega

/-- A tiling is kept only on an area that has a cell. -/
theorem Keeps.area_filled (keeps : tiling.Keeps area 1) : 0 < area.width ∧ 0 < area.height := by
  obtain ⟨placed, placed_in⟩ := tiling.exists_placed
  obtain ⟨wide, high⟩ := keeps placed placed_in
  exact ⟨(edges_apart wide).1, (edges_apart high).1⟩

/-- A share that was sent has its edge at the nearest column. -/
theorem tileEdge_share (fixed : UInt16) {extent : Int} (some_cells : 0 ≤ extent) :
    tileEdge (tileShare fixed) extent = nearest fixed.toNat extent := tileEdge_fixed some_cells

/-- Two shares that were sent have their edge at the nearest column to their sum. -/
theorem tileEdge_shares (origin size : UInt16) {extent : Int} (some_cells : 0 ≤ extent) :
    tileEdge (tileShare origin + tileShare size) extent =
      nearest (origin.toNat + size.toNat) extent := by
  rw [← tileEdge_fixed some_cells, tileShare, tileShare, ← add_div]
  push_cast
  rfl

/-- How many cells lie between the edges asked for of a window. -/
theorem cells_eq (area_filled : 0 < area.width ∧ 0 < area.height) {placed : WindowPlacement}
    (placed_in : placed ∈ tiling.arrangement) :
    cells area placed.tile.carried =
      (tiling.ends area placed.rect - tiling.across area placed.rect.x,
        tiling.bottom area placed.rect - tiling.down area placed.rect.y) := by
  rw [cells, tiling.shares placed placed_in, TileShare.carried,
    tileEdge_share _ area_filled.1.le, tileEdge_share _ area_filled.2.le,
    tileEdge_shares _ _ area_filled.1.le, tileEdge_shares _ _ area_filled.2.le, ends, bottom,
    across, down, reach, reach, cut, cut, add_sub_add_left_eq_sub, add_sub_add_left_eq_sub]
  rfl

/-- A window whose tile keeps a cell each way is laid out between the edges asked for. -/
theorem restoredBounds_keeps (keeps : tiling.Keeps area 1) {placed : WindowPlacement}
    (placed_in : placed ∈ tiling.arrangement) (keeper : Keeper) (resizeWindowsToFit : Bool) :
    restoredBounds resizeWindowsToFit (keeper.restate placed) area =
      placed.rect.ragged (tiling.across area) (tiling.down area) (tiling.ends area)
        (tiling.bottom area) := by
  have area_filled := keeps.area_filled
  obtain ⟨wide, high⟩ := keeps placed placed_in
  have filled : placed.tile.carried.filled = true := by
    rw [TileShare.filled, decide_eq_true_eq]
    exact ⟨(edges_apart wide).2, (edges_apart high).2⟩
  have counted := tiling.cells_eq area_filled placed_in
  have left : tileEdge placed.tile.carried.x area.width =
      tiling.across area placed.rect.x - area.x := by
    rw [tiling.shares placed placed_in, TileShare.carried, tileEdge_share _ area_filled.1.le, across,
      cut, add_sub_cancel_left]
    rfl
  have top : tileEdge placed.tile.carried.y area.height =
      tiling.down area placed.rect.y - area.y := by
    rw [tiling.shares placed placed_in, TileShare.carried, tileEdge_share _ area_filled.2.le, down,
      cut, add_sub_cancel_left]
    rfl
  rw [counted] at wide high
  have across_cells := congrArg Prod.fst counted
  have down_cells := congrArg Prod.snd counted
  dsimp only [cells] at wide high across_cells down_cells
  rw [restoredBounds, keeper.restate_tile, if_pos filled]
  dsimp only
  rw [add_sub_add_left_eq_sub, add_sub_add_left_eq_sub, across_cells, down_cells, left, top,
    max_eq_right wide, max_eq_right high, add_sub_cancel, add_sub_cancel]
  rfl

/-- Where the tiling is kept every window is restored to where its edges come to be. -/
theorem restored_keeps (keeps : tiling.Keeps area 1) :
    tiling.restored keeper resizeWindowsToFit area =
      (tiling.arrangement.map WindowPlacement.rect).map
        (Box.ragged (tiling.across area) (tiling.down area) (tiling.ends area)
          (tiling.bottom area)) := by
  rw [restored, List.map_map]
  exact List.map_congr_left fun placed placed_in => restoredBounds_keeps keeps placed_in _ _

/-- A window's edges lie on the boundaries where the two ways to ask for them come to the same. -/
theorem meets_edges {placed : WindowPlacement} (placed_in : placed ∈ tiling.arrangement) :
    (MeetsAt area.width placed.tile.x placed.tile.width ∧
        MeetsAt area.height placed.tile.y placed.tile.height) ↔
      tiling.ends area placed.rect = tiling.across area (placed.rect.x + placed.rect.width) ∧
        tiling.bottom area placed.rect =
          tiling.down area (placed.rect.y + placed.rect.height) := by
  rw [tiling.shares placed placed_in]
  exact and_congr meetsAt_iff meetsAt_iff

/-- Windows whose edges lie on the boundaries tile the new area. -/
theorem tiles_of_edges (keeps : tiling.Keeps area 1)
    (edges : ∀ placed ∈ tiling.arrangement,
      tiling.ends area placed.rect = tiling.across area (placed.rect.x + placed.rect.width) ∧
        tiling.bottom area placed.rect =
          tiling.down area (placed.rect.y + placed.rect.height)) :
    Tiles area (tiling.restored keeper resizeWindowsToFit area) := by
  have stretched := tiling.tiles.stretch (tiling.across_mono keeps.area_filled.1.le)
    (tiling.down_mono keeps.area_filled.2.le)
  rw [stretch_area] at stretched
  have same : tiling.restored keeper resizeWindowsToFit area =
      (tiling.arrangement.map WindowPlacement.rect).map
        (Box.stretch (tiling.across area) (tiling.down area)) := by
    rw [restored_keeps keeps]
    refine List.map_congr_left fun rect rect_in => ?_
    obtain ⟨placed, placed_in, rfl⟩ := List.mem_map.mp rect_in
    obtain ⟨ends_there, bottom_there⟩ := edges placed placed_in
    rw [Box.ragged, ends_there, bottom_there]
    rfl
  rw [same]
  exact stretched

/-- On an area of the same size a window is where it was just if the boundaries it lies between
are. -/
theorem shifted_iff (keeps : tiling.Keeps area 1) :
    tiling.restored keeper resizeWindowsToFit area = tiling.shifted area ↔
      ∀ placed ∈ tiling.arrangement,
        (tiling.across area placed.rect.x = area.x + (placed.rect.x - tiling.area.x) ∧
          tiling.ends area placed.rect =
            area.x + (placed.rect.x + placed.rect.width - tiling.area.x)) ∧
        (tiling.down area placed.rect.y = area.y + (placed.rect.y - tiling.area.y) ∧
          tiling.bottom area placed.rect =
            area.y + (placed.rect.y + placed.rect.height - tiling.area.y)) := by
  rw [restored_keeps keeps, shifted, List.map_map, List.map_inj_left]
  refine forall₂_congr fun placed placed_in => ?_
  rw [Function.comp_apply, Box.ragged, Box.mk.injEq]
  constructor
  · rintro ⟨left, top, wide, high⟩
    omega
  · rintro ⟨⟨left, right⟩, top, low⟩
    omega

/-- On an area of the same size ten-thousandths name a window's boundaries just if they fall
where they were. -/
theorem named_edges (same : tiling.SameSize area) {placed : WindowPlacement}
    (placed_in : placed ∈ tiling.arrangement) :
    ((Named area.width placed.tile.x ∧ Named area.width (placed.tile.x + placed.tile.width)) ∧
        (Named area.height placed.tile.y ∧
          Named area.height (placed.tile.y + placed.tile.height))) ↔
      (tiling.across area placed.rect.x = area.x + (placed.rect.x - tiling.area.x) ∧
          tiling.across area (placed.rect.x + placed.rect.width) =
            area.x + (placed.rect.x + placed.rect.width - tiling.area.x)) ∧
        (tiling.down area placed.rect.y = area.y + (placed.rect.y - tiling.area.y) ∧
          tiling.down area (placed.rect.y + placed.rect.height) =
            area.y + (placed.rect.y + placed.rect.height - tiling.area.y)) := by
  rw [tiling.shares placed placed_in, shareOf, shares_add, shares_add, across, down, same.1, same.2]
  exact and_congr (and_congr (named_iff tiling.wide) (named_iff tiling.wide))
    (and_congr (named_iff tiling.high) (named_iff tiling.high))

/-- A window whose tile keeps a cell each way was not empty, and lay in its area. -/
theorem Keeps.inside (keeps : tiling.Keeps area 1) {placed : WindowPlacement}
    (placed_in : placed ∈ tiling.arrangement) :
    (tiling.area.x ≤ placed.rect.x ∧ 0 < placed.rect.width ∧
        placed.rect.x + placed.rect.width ≤ tiling.area.x + tiling.area.width) ∧
      tiling.area.y ≤ placed.rect.y ∧ 0 < placed.rect.height ∧
        placed.rect.y + placed.rect.height ≤ tiling.area.y + tiling.area.height := by
  have positive {size extent : Int} (some_extent : 0 < extent)
      (fixed : 0 < tileShare (tileFixed (size / extent))) : 0 < size := by
    by_contra none_left
    have no_share : ¬(size / extent : ℚ) > 0 := by
      refine not_lt.mpr (div_nonpos_of_nonpos_of_nonneg ?_ ?_)
      · exact_mod_cast not_lt.mp none_left
      · exact_mod_cast some_extent.le
    rw [tileFixed, if_pos no_share] at fixed
    exact absurd fixed (by decide +kernel)
  obtain ⟨wide, high⟩ := keeps placed placed_in
  rw [tiling.shares placed placed_in] at wide high
  have wide_rect : 0 < placed.rect.width := positive tiling.wide (edges_apart wide).2
  have high_rect : 0 < placed.rect.height := positive tiling.high (edges_apart high).2
  have inside := tiling.tiles.inside placed.rect (List.mem_map_of_mem placed_in)
  have first := inside placed.rect.x placed.rect.y ⟨⟨le_refl _, by omega⟩, le_refl _, by omega⟩
  have last := inside (placed.rect.x + placed.rect.width - 1)
    (placed.rect.y + placed.rect.height - 1) ⟨⟨by omega, by omega⟩, by omega, by omega⟩
  have left := first.1.1
  have top := first.2.1
  have right := last.1.2
  have low := last.2.2
  omega

/-- Where a window ends, the area does, or another window begins. -/
theorem ends_or_next (keeps : tiling.Keeps area 1) {placed : WindowPlacement}
    (placed_in : placed ∈ tiling.arrangement) :
    (placed.rect.x + placed.rect.width = tiling.area.x + tiling.area.width ∨
        ∃ next ∈ tiling.arrangement, next.rect.x = placed.rect.x + placed.rect.width) ∧
      (placed.rect.y + placed.rect.height = tiling.area.y + tiling.area.height ∨
        ∃ next ∈ tiling.arrangement, next.rect.y = placed.rect.y + placed.rect.height) := by
  obtain ⟨⟨left, wide, right⟩, top, high, low⟩ := keeps.inside placed_in
  have rect_in : placed.rect ∈ tiling.arrangement.map WindowPlacement.rect :=
    List.mem_map_of_mem placed_in
  constructor
  · rcases eq_or_lt_of_le right with all | inner
    · exact .inl all
    · have holds : placed.rect.Holds (placed.rect.x + placed.rect.width - 1) placed.rect.y :=
        ⟨⟨by omega, by omega⟩, le_refl _, by omega⟩
      obtain ⟨rect, listed, begins, _⟩ := tiling.tiles.next rect_in holds inner
      obtain ⟨next, next_in, rfl⟩ := List.mem_map.mp listed
      exact .inr ⟨next, next_in, begins⟩
  · rcases eq_or_lt_of_le low with all | inner
    · exact .inl all
    · have holds : placed.rect.transpose.Holds (placed.rect.y + placed.rect.height - 1)
          placed.rect.x := Box.transpose_holds.mpr ⟨⟨le_refl _, by omega⟩, by omega, by omega⟩
      obtain ⟨rect, listed, begins, _⟩ :=
        tiling.tiles.transpose.next (List.mem_map_of_mem rect_in) holds inner
      obtain ⟨turned, turned_in, rfl⟩ := List.mem_map.mp listed
      obtain ⟨next, next_in, rfl⟩ := List.mem_map.mp turned_in
      exact .inr ⟨next, next_in, begins⟩

/-- What meets is restored. -/
theorem restores_of_meets (meets : tiling.Meets area) :
    tiling.Restores keeper resizeWindowsToFit area := by
  intro keeps
  have edges := fun placed placed_in => (meets_edges placed_in).mp (meets placed placed_in).1
  refine ⟨tiles_of_edges keeps edges, fun same => (shifted_iff keeps).mpr fun placed placed_in => ?_⟩
  obtain ⟨⟨left, right⟩, top, low⟩ :=
    (named_edges same placed_in).mp ((meets placed placed_in).2 same)
  obtain ⟨ends_there, bottom_there⟩ := edges placed placed_in
  exact ⟨⟨left, ends_there.trans right⟩, top, bottom_there.trans low⟩

/-- On an area of the same size, what is restored meets. -/
theorem meets_of_same (keeps : tiling.Keeps area 1) (same : tiling.SameSize area)
    (restores : tiling.Restores keeper resizeWindowsToFit area) : tiling.Meets area := by
  have edges := (shifted_iff keeps).mp ((restores keeps).2 same)
  intro placed placed_in
  obtain ⟨ends_all, bottom_all⟩ := ends_or_next keeps placed_in
  obtain ⟨⟨left, right⟩, top, low⟩ := edges placed placed_in
  have right_boundary : tiling.across area (placed.rect.x + placed.rect.width) =
      area.x + (placed.rect.x + placed.rect.width - tiling.area.x) := by
    rcases ends_all with all | ⟨next, next_in, begins⟩
    · rw [all, across, cut_end tiling.wide, add_sub_cancel_left, same.1]
    · rw [← begins]
      exact (edges next next_in).1.1
  have low_boundary : tiling.down area (placed.rect.y + placed.rect.height) =
      area.y + (placed.rect.y + placed.rect.height - tiling.area.y) := by
    rcases bottom_all with all | ⟨next, next_in, begins⟩
    · rw [all, down, cut_end tiling.high, add_sub_cancel_left, same.2]
    · rw [← begins]
      exact (edges next next_in).2.1
  exact ⟨(meets_edges placed_in).mpr
      ⟨right.trans right_boundary.symm, low.trans low_boundary.symm⟩,
    fun _ => (named_edges same placed_in).mpr ⟨⟨left, right_boundary⟩, top, low_boundary⟩⟩

/-- An area that ten-thousandths can name. -/
def Small (area : Box) : Prop := area.width ≤ 10000 ∧ area.height ≤ 10000

/-- Where every tile keeps two cells each way, what is restored meets. -/
theorem meets_of_roomy (roomy : tiling.Keeps area 2) (small : Small area)
    (restores : tiling.Restores keeper resizeWindowsToFit area) : tiling.Meets area := by
  have keeps : tiling.Keeps area 1 := fun placed placed_in =>
    (roomy placed placed_in).imp (by omega) (by omega)
  have area_filled := keeps.area_filled
  have retiles := (restores keeps).1
  rw [restored_keeps keeps] at retiles
  have ragged : Data.Ragged (tiling.across area) (tiling.down area) (tiling.ends area)
      (tiling.bottom area) tiling.area (tiling.arrangement.map WindowPlacement.rect) := by
    refine ⟨tiling.across_mono area_filled.1.le, tiling.down_mono area_filled.2.le, tiling.tiles,
      ?_, ?_, ?_, ?_, ?_⟩
    · rwa [stretch_area]
    · refine List.forall_mem_map.mpr fun placed placed_in => ?_
      have wide := (roomy placed placed_in).1
      rw [cells_eq area_filled placed_in] at wide
      dsimp only at wide
      omega
    · refine List.forall_mem_map.mpr fun placed placed_in => ?_
      have high := (roomy placed placed_in).2
      rw [cells_eq area_filled placed_in] at high
      dsimp only at high
      omega
    · refine List.forall_mem_map.mpr fun placed placed_in => ?_
      obtain ⟨⟨left, wide, right⟩, _⟩ := keeps.inside placed_in
      exact reach_near tiling.wide small.1 area_filled.1.le left wide.le right
    · refine List.forall_mem_map.mpr fun placed placed_in => ?_
      obtain ⟨_, top, high, low⟩ := keeps.inside placed_in
      exact reach_near tiling.high small.2 area_filled.2.le top high.le low
  intro placed placed_in
  obtain ⟨⟨left, wide, right⟩, top, high, low⟩ := keeps.inside placed_in
  refine ⟨(meets_edges placed_in).mpr (ragged.meets (List.mem_map_of_mem placed_in)), fun same => ?_⟩
  rw [tiling.shares placed placed_in, shareOf, shares_add, shares_add, same.1, same.2]
  have few_columns : tiling.area.width ≤ 10000 := same.1 ▸ small.1
  have few_rows : tiling.area.height ≤ 10000 := same.2 ▸ small.2
  exact ⟨⟨named_of_few tiling.wide few_columns (by omega) (by omega),
      named_of_few tiling.wide few_columns (by omega) (by omega)⟩,
    named_of_few tiling.high few_rows (by omega) (by omega),
    named_of_few tiling.high few_rows (by omega) (by omega)⟩

end FilledTiling

/-- **When a restored tiling is a tiling**: windows whose own ten-thousandths, added, come to the
cell that the next one's come to are put back as a tiling, and where they were if the area has
the size it had. No others are, as long as tiles are not narrow: where each keeps two cells each
way, or the area has its old size. -/
theorem restores_iff_meets (tiling : FilledTiling) (keeper : WindowPlacement → Keeper)
    (resizeWindowsToFit : Bool) (area : Box) :
    (tiling.Meets area → tiling.Restores keeper resizeWindowsToFit area) ∧
      ((tiling.Keeps area 2 ∧ FilledTiling.Small area) ∨
          (tiling.Keeps area 1 ∧ tiling.SameSize area) →
        (tiling.Restores keeper resizeWindowsToFit area ↔ tiling.Meets area)) := by
  refine ⟨FilledTiling.restores_of_meets, fun known => ⟨fun restores => ?_, FilledTiling.restores_of_meets⟩⟩
  rcases known with ⟨roomy, small⟩ | ⟨keeps, same⟩
  · exact FilledTiling.meets_of_roomy roomy small restores
  · exact FilledTiling.meets_of_same keeps same restores

/-- The area of the three columns has a cell. -/
theorem threeColumns_area : (0 : Int) < 24 ∧ (0 : Int) < 10 := by decide

/-- The three columns fill it. -/
theorem threeColumns_tile :
    Tiles ⟨0, 0, 24, 10⟩ [⟨0, 0, 5, 10⟩, ⟨5, 0, 2, 10⟩, ⟨7, 0, 17, 10⟩] := by
  refine ⟨?_, ?_, ?_⟩
  · simp only [List.forall_mem_cons, Box.Holds]
    exact ⟨by omega, by omega, by omega, fun rect listed => by cases listed⟩
  · simp only [List.pairwise_cons, List.forall_mem_cons, Box.Apart, Box.Holds]
    exact ⟨⟨by omega, by omega, fun rect listed => by cases listed⟩,
      ⟨by omega, fun rect listed => by cases listed⟩, (fun rect listed => by cases listed), .nil⟩
  · simp only [List.exists_mem_cons_iff, Box.Holds]
    omega

/-- A desktop of twenty-four columns, cut at five and seven. -/
def threeColumns : FilledTiling where
  area := ⟨0, 0, 24, 10⟩
  arrangement := [⟨0, 0, 5, 10⟩, ⟨5, 0, 2, 10⟩, ⟨7, 0, 17, 10⟩].map fun rect =>
    ⟨1, rect, 0, false, shareOf ⟨0, 0, 24, 10⟩ rect⟩
  wide := threeColumns_area.1
  high := threeColumns_area.2
  tiles := by exact threeColumns_tile
  shares := List.forall_mem_map.mpr fun _ _ => rfl

/-- On twice as many columns and rows they meet, and are put back as a tiling. -/
theorem restores_iff_meets_doubled :
    threeColumns.Meets ⟨0, 0, 48, 20⟩ ∧
      ∀ (keeper : WindowPlacement → Keeper) (resizeWindowsToFit : Bool),
        Tiles ⟨0, 0, 48, 20⟩ (threeColumns.restored keeper resizeWindowsToFit ⟨0, 0, 48, 20⟩) := by
  have keeps : threeColumns.Keeps ⟨0, 0, 48, 20⟩ 1 := by
    simp only [FilledTiling.Keeps]
    decide +kernel
  have meet : ∀ placed ∈ threeColumns.arrangement,
      MeetsAt 48 placed.tile.x placed.tile.width ∧ MeetsAt 20 placed.tile.y placed.tile.height := by
    simp only [MeetsAt, SameCell]
    decide +kernel
  have meets : threeColumns.Meets ⟨0, 0, 48, 20⟩ := fun placed listed =>
    ⟨meet placed listed, fun same => absurd same.1 (by decide)⟩
  exact ⟨meets, fun keeper resizeWindowsToFit =>
    ((restores_iff_meets threeColumns keeper resizeWindowsToFit _).1 meets keeps).1⟩

/-- On twelve columns the second of them ends at the third column, and the third begins at the
fourth. -/
theorem threeColumns_gap :
    threeColumns.Keeps ⟨0, 0, 12, 10⟩ 1 ∧
      ∀ (keeper : WindowPlacement → Keeper) (resizeWindowsToFit : Bool),
        ¬threeColumns.Restores keeper resizeWindowsToFit ⟨0, 0, 12, 10⟩ := by
  have keeps : threeColumns.Keeps ⟨0, 0, 12, 10⟩ 1 := by
    simp only [FilledTiling.Keeps]
    decide +kernel
  refine ⟨keeps, fun keeper resizeWindowsToFit restores => ?_⟩
  have tiles := (restores keeps).1
  have restored : threeColumns.restored keeper resizeWindowsToFit ⟨0, 0, 12, 10⟩ =
      [⟨0, 0, 2, 10⟩, ⟨2, 0, 1, 10⟩, ⟨4, 0, 8, 10⟩] := by
    rw [FilledTiling.restored_keeps keeps]
    decide +kernel
  rw [restored] at tiles
  have covered := tiles.filled 3 0 (by decide)
  revert covered
  decide

end Ckmux
