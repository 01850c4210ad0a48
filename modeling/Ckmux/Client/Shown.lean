import Mathlib
import Ckmux.Client.Session
import Ckmux.Grid.Followers
import Ckmux.Proto.Sayable

/-!
# What a view has still to draw

A view draws from a mirror and says when it has caught up. From then on the mirror notes
what a view would have to draw again: some columns of some rows, the cursor, the modes, the
title, the pictures, or everything. What is noted is read off the operations of a delta and
not off the screens before and after it, so that nothing changed goes unnoted is a theorem.
-/

namespace Ckmux

open Proto (GridDelta GridOp TermMeta TermClosed fromRuns totalLength)

/-- What is to be drawn again. -/
structure MirrorDamage where
  full : Bool := false
  cursor : Bool := false
  modes : Bool := false
  title : Bool := false
  rasters : Bool := false
  scrollbackPushed : Nat := 0
  rows : List RowDamage := []
deriving DecidableEq

/-- A mirror and its pictures, with what a view has still to draw of them. -/
structure ShownMirror where
  mirror : TerminalMirror := {}
  pictures : List PlacedImage := []
  damage : MirrorDamage := {}

/-- The screen that is shown. -/
def ShownMirror.state (shown : ShownMirror) : GridState := shown.mirror.state

/-! ### Noting -/

/-- Everything, on a screen of a size. -/
def everything (cells : Size) : MirrorDamage where
  full := true
  cursor := true
  modes := true
  title := true
  rasters := true
  rows := List.replicate cells.height ⟨0, cells.width⟩

/-- A span of no columns gives way to the noted one, any other grows. -/
def RowDamage.note (width : Nat) (first last : Int) (span : RowDamage) : RowDamage :=
  let clampedFirst := max 0 (min first width)
  let clampedLast := max 0 (min last width)
  if span.empty then ⟨clampedFirst, clampedLast⟩
  else ⟨min span.first clampedFirst, max span.last clampedLast⟩

/-- Some columns of a row noted among the spans of a screen, one for each of its rows. -/
def noteRow (cells : Size) (rows : List RowDamage) (row : Nat) (first last : Int) :
    List RowDamage :=
  if row ≥ cells.height then rows
  else
    let sized :=
      if rows.length ≠ cells.height then
        rows.take cells.height ++ List.replicate (cells.height - rows.length) ({} : RowDamage)
      else rows
    sized.modify row (RowDamage.note cells.width first last)

/-- Whole rows noted, so many from one on. -/
def noteRows (cells : Size) (rows : List RowDamage) (top count : Nat) : List RowDamage :=
  (List.range' top count).foldl (fun rows row => noteRow cells rows row 0 cells.width) rows

/-- What an operation of a delta changes on a screen of the size the delta leaves. -/
def noteOp (cells : Size) (damage : MirrorDamage) : GridOp → MirrorDamage
  | .resize _ =>
      -- What was pushed is kept: it is pushed at the new size.
      { damage with
        full := true
        cursor := true
        modes := true
        title := true
        rasters := true
        rows := List.replicate cells.height ⟨0, cells.width⟩ }
  | .cells op =>
      { damage with
        rows := noteRow cells damage.rows op.row.toNat op.column.toNat
          (op.column.toNat + (totalLength op.runs : Int)) }
  | .scroll op =>
      { damage with
        rows := noteRows cells damage.rows op.top.toNat (op.bottom.toNat - op.top.toNat) }
  | .scrollbackPush op =>
      { damage with scrollbackPushed := damage.scrollbackPushed + op.lines.length }
  | .cursor _ => { damage with cursor := true }
  | .modes _ => { damage with modes := true }
  | .title _ => { damage with title := true }

namespace ShownMirror

variable (shown : ShownMirror)

/-- The view has caught up. -/
def clearDamage : ShownMirror :=
  { shown with damage := { rows := List.replicate shown.state.cells.height {} } }

/-- Another title is noted. -/
def applyMeta (said : TermMeta) : ShownMirror :=
  { shown with
    mirror := shown.mirror.applyMeta said
    damage :=
      if said.title ≠ shown.state.title then { shown.damage with title := true } else shown.damage }

/-- A terminal's end is noted over the whole screen. -/
def applyClosed (closed : TermClosed) : ShownMirror :=
  { shown with
    mirror := shown.mirror.applyClosed closed
    damage := { shown.damage with
      rows := noteRows shown.state.cells shown.damage.rows 0 shown.state.cells.height } }

/-- A picture is noted where there was one or there is one now. -/
def placeImage (id : WireId) (image : Option Picture) (cells : Proto.Rect) : ShownMirror :=
  { shown with
    pictures := Ckmux.placeImage id image cells shown.pictures
    damage :=
      if (shown.pictures.any fun held => held.id = id) ∨ image.isSome then
        { shown.damage with rasters := true }
      else shown.damage }

/-- A picture that is gone is noted. -/
def removeImage (id : WireId) : ShownMirror :=
  { shown with
    pictures := Ckmux.removeImage id shown.pictures
    damage :=
      if shown.pictures.any fun held => held.id = id then { shown.damage with rasters := true }
      else shown.damage }

variable [CkVision]

/-- A snapshot in place of what was held. The pictures it names stay. -/
def adopt (said : Proto.TerminalState) : Bool × ShownMirror :=
  match shown.mirror.adopt said with
  | (true, mirror) =>
      (true,
        { mirror := mirror
          pictures := keepImages (said.images.map UInt64.toNat) shown.pictures
          damage := { everything mirror.state.cells with rasters := true } })
  | (false, mirror) => (false, { shown with mirror := mirror })

/-- The next delta, if it is the next and fits, and what it changes noted. -/
def apply (delta : GridDelta) : Bool × ShownMirror :=
  match shown.mirror.apply delta with
  | (true, mirror) =>
      (true,
        { shown with
          mirror := mirror
          damage := delta.ops.foldl (noteOp mirror.state.cells) shown.damage })
  | (false, mirror) => (false, { shown with mirror := mirror })

/-- A terminal that has come is noted whole. -/
def opened (cells : Size) : ShownMirror :=
  { shown with mirror := shown.mirror.opened cells, damage := everything cells }

end ShownMirror

/-! ### Snapshots -/

section Snapshots

variable [CkVision]

/-- A snapshot is adopted with the screen it states, cell for cell, or is refused and the
mirror is as it was, but for asking again. -/
def AdoptsWhole (shown : ShownMirror) (said : Proto.TerminalState) : Prop :=
  (shown.adopt said).1 = true ∧ (shown.adopt said).2.state.grid = fromRuns said.grid ∧
      totalLength said.grid = said.columns.toNat * said.rows.toNat ∨
    (shown.adopt said).1 = false ∧
      (shown.adopt said).2 = { shown with mirror := { shown.mirror with needsSnapshot := true } }

/-- A snapshot of a size the protocol carries is always adopted, whatever runs come with it. -/
theorem adopt_taken {shown : ShownMirror} {said : Proto.TerminalState}
    (columns : said.columns.toNat ≤ Proto.kMaxGridColumns)
    (rows : said.rows.toNat ≤ Proto.kMaxGridRows) :
    (shown.adopt said).1 = true ∧
      (totalLength said.grid = said.columns.toNat * said.rows.toNat →
        (shown.adopt said).2.state.grid = fromRuns said.grid) := by
  have taken : (shown.mirror.adopt said).1 = true := by
    rw [TerminalMirror.adopt, if_neg (by omega)]
  have grid (sums : totalLength said.grid = said.columns.toNat * said.rows.toNat) :
      (shown.mirror.adopt said).2.state.grid = fromRuns said.grid := by
    rw [TerminalMirror.adopt, if_neg (by omega)]
    dsimp only
    have view := foldl_adoptLine_view said.scrollback ((decodeGrid said.grid
      ⟨said.columns.toNat, said.rows.toNat⟩
      (blankState ⟨said.columns.toNat, said.rows.toNat⟩ shown.mirror.state.maxScrollbackLines)).getD
      (blankState ⟨said.columns.toNat, said.rows.toNat⟩ shown.mirror.state.maxScrollbackLines))
    refine (congrArg GridView.grid view).trans ?_
    have fits : totalLength said.grid = Size.area ⟨said.columns.toNat, said.rows.toNat⟩ := sums
    rw [decodeGrid, if_neg (by dsimp only; omega), if_neg (not_not.mpr fits)]
    rfl
  rw [ShownMirror.adopt]
  revert taken grid
  rcases shown.mirror.adopt said with ⟨answer, mirror⟩
  intro taken grid
  change answer = true at taken
  subst taken
  exact ⟨rfl, grid⟩

/-- A snapshot is adopted whole, or refused and nothing touched, exactly if its runs come to as
many cells as its size says or the size is refused. -/
theorem adopts_whole_iff (shown : ShownMirror) (said : Proto.TerminalState) :
    AdoptsWhole shown said ↔
      totalLength said.grid = said.columns.toNat * said.rows.toNat ∨
        said.columns.toNat > Proto.kMaxGridColumns ∨ said.rows.toNat > Proto.kMaxGridRows := by
  by_cases large : said.columns.toNat > Proto.kMaxGridColumns ∨ said.rows.toNat > Proto.kMaxGridRows
  · refine iff_of_true (.inr ?_) (.inr large)
    rw [ShownMirror.adopt, TerminalMirror.adopt, if_pos large]
    exact ⟨rfl, rfl⟩
  · have taken := @adopt_taken _ shown said (by omega) (by omega)
    rw [or_iff_left large]
    constructor
    · rintro (⟨_, _, sums⟩ | ⟨refused, _⟩)
      · exact sums
      · rw [taken.1] at refused
        cases refused
    · intro sums
      exact .inl ⟨taken.1, taken.2 sums, sums⟩

end Snapshots

/-- A snapshot of one cell whose runs come to none. -/
def cellWithoutRuns : Proto.TerminalState := { columns := 1, rows := 1 }

/-- It can be said and is read, and is adopted with a blank in place of the runs. -/
theorem adopts_whole_not_without_runs :
    (∃ bytes, Proto.TerminalState.write cellWithoutRuns = some bytes ∧
      (@Proto.TerminalState.read asciiVision (@Proto.measured asciiVision)).run bytes =
        some (cellWithoutRuns, [])) ∧
      ¬@AdoptsWhole asciiVision {} cellWithoutRuns := by
  constructor
  · have sayable : cellWithoutRuns.Sayable :=
      ⟨by decide, by decide, by decide, fun run listed => (by cases listed),
        fun line listed => (by cases listed)⟩
    obtain ⟨bytes, written, length⟩ := sayable.written.sized (Proto.TerminalState.occupies _)
    refine ⟨bytes, written, ?_⟩
    have sends := @Proto.TerminalState.sends asciiVision asciiVision_lawful cellWithoutRuns
      (fun run listed => by cases listed) bytes written (by rw [length]; decide) []
    rwa [List.append_nil] at sends
  · rw [@adopts_whole_iff asciiVision]
    decide

end Ckmux
