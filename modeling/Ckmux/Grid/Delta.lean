import Mathlib
import Ckmux.Grid.State
import Ckmux.Proto.Codec
import Ckmux.Proto.Runs

/-!
# Grid deltas

`diff` states how to get from one screen to another: a resize if the size
changed, the lines that scrolled off, a shift of a band of rows if that saves
repainting, the cells that are still wrong, and the cursor, modes and title that
differ. `applyDelta` checks a delta whole, against the size each operation will
meet, before it performs any of it.

The hash of a row only chooses which shift to try, so `diff` is stated over any
hash; `rowHash` is the one the program uses.
-/

namespace Ckmux

open Grammar (Bytes)
open Data (row splice slice)
open Proto (CellRun CellsOp CursorOp GridOp kMaxGridColumns kMaxGridRows sameCell toRuns fromRuns
  totalLength)

/-! ### Hashes -/

/-- One step of the hash. -/
def mix (hash : UInt64) (byte : UInt8) : UInt64 := (hash ^^^ byte.toUInt64) * 0x100000001B3

/-- A colour is mixed in with its kind first. -/
def mixColor (hash : UInt64) : Color → UInt64
  | .rgb red green blue => mix (mix (mix (mix hash 2) red) green) blue
  | .indexed index => mix (mix hash 1) index
  | .default => mix hash 0

/-- A cell is mixed in part by part, its text ended so that none runs into the next part. -/
def mixCell (hash : UInt64) (cell : Cell) : UInt64 :=
  let text := mix (cell.grapheme.foldl mix hash) 0xFF
  let width := mix text (UInt8.ofNat (cell.width % 256).toNat)
  let colours := mixColor (mixColor width cell.style.fg) cell.style.bg
  mixColor (mix (mix colours cell.style.attrs) cell.style.underline) cell.style.underlineColor

/-- A row's cells mixed in one after the other. -/
def rowHash (cells : List Cell) : UInt64 := cells.foldl mixCell 0xCBF29CE484222325

/-- A hash of rows; two rows may share one. -/
abbrev RowHash := List Cell → UInt64

/-! ### Rows that changed -/

/-- Where the run of identical cells that begins at `first` ends. -/
def runEnd (wanted : List Cell) (first : Nat) (begins : first < wanted.length) : Nat :=
  first + 1 + ((wanted.drop (first + 1)).takeWhile (sameCell wanted[first])).length

/-- A run is of one cell at least. -/
theorem runEnd_gt {wanted : List Cell} {first : Nat} (begins : first < wanted.length) :
    first < runEnd wanted first begins := by
  rw [runEnd]
  omega

/-- The first changed column of some columns, and the one past the last. -/
def changedColumns (mirror wanted : List Cell) (columns : List Nat) : Option (Nat × Nat) :=
  columns.foldl (fun changed column =>
    if mirror[column]? = wanted[column]? then changed
    else match changed with
      | none => some (column, column + 1)
      | some (first, _) => some (first, column + 1)) none

/-- The spans of a row that are sent, from `runFirst` on: a span open so far, and
the bytes of unchanged runs since it was last extended. An unchanged gap is
carried when that costs no more than another operation. -/
def changedSpansFrom (mirror wanted : List Cell) (runFirst : Nat) (span : Option (Nat × Nat))
    (gapBytes : Nat) : List (Nat × Nat) :=
  if begins : runFirst < wanted.length then
    let runLast := runEnd wanted runFirst begins
    match changedColumns mirror wanted (List.range' runFirst (runLast - runFirst)) with
    | none =>
        let gap := if span.isSome then
            gapBytes + CellRun.encodedSize ⟨UInt16.ofNat (runLast - runFirst), wanted[runFirst]⟩
          else gapBytes
        changedSpansFrom mirror wanted runLast span gap
    | some (firstChanged, lastChanged) =>
        match span with
        | none => changedSpansFrom mirror wanted runLast (some (firstChanged, lastChanged)) 0
        | some (spanFirst, spanLast) =>
            if gapBytes > CellsOp.encodedSize {} then
              (spanFirst, spanLast) ::
                changedSpansFrom mirror wanted runLast (some (firstChanged, lastChanged)) 0
            else changedSpansFrom mirror wanted runLast (some (spanFirst, lastChanged)) 0
  else span.toList
termination_by wanted.length - runFirst
decreasing_by all_goals
  have later := runEnd_gt begins
  omega

/-- The cells operations that bring a row of the mirror to the wanted one. -/
def emitChangedRow (index : Nat) (mirror wanted : List Cell) : List GridOp :=
  if mirror.length ≠ wanted.length ∨ wanted = [] then []
  else (changedSpansFrom mirror wanted 0 none 0).map fun span =>
    .cells ⟨UInt16.ofNat index, UInt16.ofNat span.1, toRuns (slice wanted span.1 span.2)⟩

/-- Every row as its own operation. -/
def emitEveryRow (current : GridView) : List GridOp :=
  if current.grid.length ≠ current.cells.area then []
  else (List.range current.cells.height).map fun index =>
    .cells ⟨UInt16.ofNat index, 0, toRuns (row current.cells.width current.grid index)⟩

/-! ### The band and the shift -/

/-- What a damage report says of a row: the columns that may have changed. -/
structure RowDamage where
  first : Int := 0
  last : Int := 0
deriving DecidableEq

/-- Whether a row is said to have no damage. -/
def RowDamage.empty (damage : RowDamage) : Bool := damage.first ≥ damage.last

/-- Whether a row is looked at: every row when there is no report. -/
def examined (damaged : List RowDamage) (index : Nat) : Bool :=
  match damaged with
  | [] => true
  | _ => match damaged[index]? with
    | some damage => !damage.empty
    | none => false

/-- The first row from `top` on, among so many, that is of interest. -/
def bandTop (interesting : Nat → Bool) : Nat → Nat → Nat
  | 0, top => top
  | more + 1, top => if interesting top then top else bandTop interesting more (top + 1)

/-- One past the last row down to `top` that is of interest. -/
def bandBottom (interesting : Nat → Bool) (top : Nat) : Nat → Nat
  | 0 => 0
  | bottom + 1 =>
      if bottom + 1 > top ∧ ¬interesting bottom then bandBottom interesting top bottom
      else bottom + 1

/-- How many rows of a band a shift would bring into place. -/
def scoreFor (before after : Nat → UInt64) (blank : UInt64) (top bottom : Nat) (lines : Int) : Nat :=
  ((List.range' top (bottom - top)).filter fun (index : Nat) =>
    let source := (index : Int) + lines
    let moved := if (top : Int) ≤ source ∧ source < bottom then before source.toNat else blank
    moved == after index).length

/-- The shifts a band of some height allows. -/
def shifts (band : Nat) : List Int :=
  (List.range (2 * band - 1)).map fun (index : Nat) => (index : Int) - ((band : Int) - 1)

/-- The shift that brings most rows into place and how many, standing still
included. -/
def bestShift (score : Int → Nat) (band : Nat) : Int × Nat :=
  (shifts band).foldl (fun best lines =>
    if lines = 0 then best
    else if score lines > best.2 then (lines, score lines)
    else best) (0, score 0)

/-- The shift of a band worth its bytes, if there is one. -/
def chooseShift [CkVision] (hash : RowHash) (held wanted : List Cell) (width top bottom : Nat) :
    Option Int :=
  if bottom - top < 2 then none
  else
    let before := fun index => hash (row width held index)
    let after := fun index => hash (row width wanted index)
    let score := scoreFor before after (hash (blankRow width)) top bottom
    let (lines, best) := bestShift score (bottom - top)
    if lines ≠ 0 ∧ best ≥ score 0 + 2 then some lines else none

/-- The operations that bring a grid to another of the same size: a shift, and
then whatever is not already right. -/
def gridOps [CkVision] (hash : RowHash) (held : List Cell) (current : GridView)
    (damaged : List RowDamage) : List GridOp :=
  let width := current.cells.width
  let height := current.cells.height
  let interesting := fun index => examined damaged index &&
    hash (row width held index) != hash (row width current.grid index)
  let top := bandTop interesting height 0
  let bottom := bandBottom interesting top height
  let repaint := fun (mirror : List Cell) (looked : Nat → Bool) =>
    (List.range height).flatMap fun index =>
      if looked index then emitChangedRow index (row width mirror index) (row width current.grid index)
      else []
  match chooseShift hash held current.grid width top bottom with
  | none => repaint held (examined damaged)
  | some lines =>
      .scroll ⟨UInt16.ofNat top, UInt16.ofNat bottom, Int16.ofInt lines⟩ ::
        -- Every row the shift touched is checked, whether or not it was named.
        repaint (shiftRows held width top bottom lines)
          fun index => examined damaged index || (top ≤ index && index < bottom)

/-! ### Diff -/

/-- The cursor as an operation. -/
def GridCursor.op (cursor : GridCursor) : CursorOp :=
  ⟨cursor.column, cursor.row, cursor.style, cursor.visible, cursor.blink⟩

/-- A size as an operation. -/
def resizeOp (cells : Size) : GridOp := .resize ⟨UInt16.ofNat cells.width, UInt16.ofNat cells.height⟩

/-- The lines that scrolled off, if any did. -/
def pushOps (pushed : List (List Cell)) : List GridOp :=
  if pushed = [] then [] else [.scrollbackPush ⟨pushed.map toRuns⟩]

/-- What brings a mirror of the previous grid to the current one, rows compared by some hash. -/
def diffWith [CkVision] (hash : RowHash) (previous : GridState) (current : GridView)
    (pushed : List (List Cell)) (damaged : List RowDamage) : List GridOp :=
  let expected := current.cells.area
  let sameGeometry := previous.cells = current.cells ∧ previous.grid.length = expected ∧
    current.grid.length = expected
  (if sameGeometry then [] else [resizeOp current.cells]) ++
  pushOps pushed ++
  (if ¬sameGeometry then emitEveryRow current
    else if 0 < current.cells.width ∧ 0 < current.cells.height then
      gridOps hash previous.grid current damaged
    else []) ++
  (if previous.cursor = current.cursor then [] else [.cursor current.cursor.op]) ++
  (if previous.modes = current.modes then []
    else [.modes ⟨previous.modes ^^^ current.modes, current.modes⟩]) ++
  (if previous.title = current.title then [] else [.title ⟨current.title⟩])

/-- What brings a mirror of the previous grid to the current one. -/
def diff [CkVision] (previous : GridState) (current : GridView) (pushed : List (List Cell))
    (damaged : List RowDamage) : List GridOp :=
  diffWith rowHash previous current pushed damaged

/-- A repaint that assumes nothing of the mirror. -/
def fullRepaint (current : GridView) (pushed : List (List Cell)) : List GridOp :=
  [resizeOp current.cells] ++ pushOps pushed ++ emitEveryRow current ++
    [.cursor current.cursor.op, .modes ⟨0xFFFFFFFF, current.modes⟩, .title ⟨current.title⟩]

/-! ### Apply -/

/-- What one operation asks of the size it meets, and the size it leaves; nothing
when it asks too much. -/
def checkOp (size : Size) : GridOp → Option Size
  | .resize op =>
      if op.columns = 0 ∨ op.rows = 0 ∨ op.columns.toNat > kMaxGridColumns ∨
        op.rows.toNat > kMaxGridRows then none
      else some ⟨op.columns.toNat, op.rows.toNat⟩
  | .scroll op =>
      if op.top > op.bottom ∨ op.bottom.toNat > size.height ∨
        op.lines.toInt.natAbs > op.bottom.toNat - op.top.toNat then none
      else some size
  | .cells op =>
      if op.row.toNat ≥ size.height ∨ op.column.toNat > size.width ∨
        totalLength op.runs > size.width - op.column.toNat then none
      else some size
  | .cursor op =>
      if op.row.toNat ≥ size.height ∨ op.column.toNat > size.width then none else some size
  | .scrollbackPush op =>
      if ∃ line ∈ op.lines, totalLength line = 0 ∨ totalLength line > size.width then none
      else some size
  | .modes _ => some size
  | .title _ => some size

/-- The size a list of operations leads to, if all of them may be done. -/
def checkOps (size : Size) : List GridOp → Option Size
  | [] => some size
  | op :: ops => do checkOps (← checkOp size op) ops

/-- One operation on a mirror that has been checked for it. -/
def performOp [CkVision] (mirror : GridState) : GridOp → GridState
  | .resize op => resizeState mirror ⟨op.columns.toNat, op.rows.toNat⟩
  | .scrollbackPush op =>
      if mirror.maxScrollbackLines = 0 then mirror
      else (op.lines.map fromRuns).foldl pushScrollbackLine mirror
  | .scroll op =>
      { mirror with
        grid := shiftRows mirror.grid mirror.cells.width op.top.toNat op.bottom.toNat
          op.lines.toInt }
  | .cells op =>
      { mirror with
        grid := splice mirror.grid (op.row.toNat * mirror.cells.width + op.column.toNat)
          (fromRuns op.runs) }
  | .cursor op => { mirror with cursor := ⟨op.column, op.row, op.style, op.visible, op.blink⟩ }
  | .modes op =>
      { mirror with
        modes := (mirror.modes &&& ~~~op.changedMask) ||| (op.values &&& op.changedMask) }
  | .title op => { mirror with title := op.title }

/-- The mirror a delta leaves, or nothing when the delta does not fit it. -/
def applyDelta [CkVision] (ops : List GridOp) (mirror : GridState) : Option GridState :=
  if mirror.grid.length ≠ mirror.cells.area then none
  else match checkOps mirror.cells ops with
    | none => none
    | some _ => some (ops.foldl performOp mirror)

/-! ### A grid of its own -/

/-- A grid as it is put in a snapshot. -/
def encodeGrid (state : GridState) : List CellRun := toRuns state.grid

/-- A grid as it is taken from a snapshot; runs of another number of cells are refused. -/
def decodeGrid (runs : List CellRun) (cells : Size) (state : GridState) : Option GridState :=
  if cells.width > kMaxGridColumns ∨ cells.height > kMaxGridRows then none
  else if totalLength runs ≠ cells.area then none
  else some { state with cells := cells, grid := fromRuns runs }

end Ckmux
