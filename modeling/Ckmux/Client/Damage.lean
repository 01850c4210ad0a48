import Mathlib
import Ckmux.Client.Shown

/-!
# Nothing changed goes unnoted

What a mirror notes is read off operations that have already been performed, against the size
they left. `NotedOps` is what performing and noting some operations have to do with each
other; it composes, and so holds of a whole delta, and `Noted` of everything since a view
caught up.
-/

namespace Ckmux

open Proto (GridDelta GridOp TermMeta TermClosed fromRuns totalLength)

/-! ### Spans -/

/-- A cell one of some spans reports. -/
def Spanned (rows : List RowDamage) (row column : Nat) : Prop :=
  ∃ span ∈ rows[row]?, span.first ≤ column ∧ (column : Int) < span.last

/-- What was reported damaged still is when more is noted. -/
theorem RowDamage.note_reports {width : Nat} {first last : Int} {span : RowDamage} {column : Nat}
    (inside : column < width)
    (reported : (span.first ≤ column ∧ (column : Int) < span.last) ∨
      (first ≤ column ∧ (column : Int) < last)) :
    (span.note width first last).first ≤ column ∧
      (column : Int) < (span.note width first last).last := by
  unfold RowDamage.note
  dsimp only
  by_cases none_yet : span.empty
  · rw [if_pos none_yet]
    rw [RowDamage.empty, decide_eq_true_iff] at none_yet
    dsimp only
    omega
  · rw [if_neg none_yet]
    dsimp only
    omega

section

variable {cells : Size} {rows : List RowDamage}

/-- Noting a row beyond the grid does nothing. -/
theorem noteRow_sized (whole : rows.length = cells.height) (row : Nat) (first last : Int) :
    noteRow cells rows row first last =
      if row ≥ cells.height then rows else rows.modify row (RowDamage.note cells.width first last) := by
  rw [noteRow]
  dsimp only
  rw [if_neg (not_not.mpr whole)]

/-- Noting a row leaves one report for each row. -/
theorem length_noteRow (whole : rows.length = cells.height) (row : Nat) (first last : Int) :
    (noteRow cells rows row first last).length = cells.height := by
  rw [noteRow_sized whole]
  split
  · exact whole
  · rw [List.length_modify, whole]

/-- What was reported stays so, and what is noted is. -/
theorem noteRow_reports (whole : rows.length = cells.height) {row : Nat} {first last : Int}
    (inside : row < cells.height) {index column : Nat} (within : column < cells.width)
    (reported : Spanned rows index column ∨
      index = row ∧ first ≤ column ∧ (column : Int) < last) :
    Spanned (noteRow cells rows row first last) index column := by
  rw [noteRow_sized whole, if_neg (by omega)]
  have listed : index < rows.length := by
    rcases reported with ⟨span, at_index, _⟩ | ⟨rfl, _⟩
    · exact (List.getElem?_eq_some_iff.mp at_index).1
    · omega
  by_cases same : row = index
  · subst same
    refine ⟨(rows[row]).note cells.width first last, ?_, ?_⟩
    · rw [List.getElem?_modify, List.getElem?_eq_getElem listed]
      simp
    · refine RowDamage.note_reports within ?_
      rcases reported with ⟨span, at_index, covers⟩ | ⟨_, covers⟩
      · have found := (List.getElem?_eq_some_iff.mp at_index).2
        exact .inl (found ▸ covers)
      · exact .inr covers
  · rcases reported with ⟨span, at_index, covers⟩ | ⟨here, _⟩
    · refine ⟨span, ?_, covers⟩
      rw [List.getElem?_modify, at_index]
      simp [same]
    · exact absurd here.symm same

/-- Rows noted whole. The induction is on how many. -/
theorem noteRows_reports (top count : Nat) (whole : rows.length = cells.height)
    (inside : top + count ≤ cells.height) :
    (noteRows cells rows top count).length = cells.height ∧
      ∀ index column, column < cells.width →
        (Spanned rows index column ∨ top ≤ index ∧ index < top + count) →
          Spanned (noteRows cells rows top count) index column := by
  induction count with
  | zero =>
      refine ⟨whole, fun index column _ reported => ?_⟩
      rcases reported with before | noted
      · exact before
      · omega
  | succ count ih =>
      obtain ⟨length, reports⟩ := ih (by omega)
      have last : noteRows cells rows top (count + 1) =
          noteRow cells (noteRows cells rows top count) (top + count) 0 cells.width := by
        rw [noteRows, List.range'_1_concat, List.foldl_append]
        rfl
      rw [last]
      refine ⟨length_noteRow length .., fun index column within reported => ?_⟩
      refine noteRow_reports length (by omega) within ?_
      by_cases here : index = top + count
      · exact .inr ⟨here, by omega, by omega⟩
      · refine .inl (reports index column within ?_)
        exact reported.imp_right fun noted => by omega

end

/-! ### Nothing changed goes unnoted -/

/-- A screen of the same size, and whatever else of its cells, cursor, modes, title and
pictures is not as before is noted. -/
structure Noted (before after : ShownMirror) : Prop where
  rows : after.damage.full = false → after.damage.rows.length = after.state.cells.height
  size : after.damage.full = false → after.state.cells = before.state.cells
  cells : after.damage.full = false → ∀ row column, column < after.state.cells.width →
    ¬Spanned after.damage.rows row column →
      after.state.grid[row * after.state.cells.width + column]? =
        before.state.grid[row * before.state.cells.width + column]?
  cursor : after.damage.cursor = false → after.state.cursor = before.state.cursor
  modes : after.damage.modes = false → after.state.modes = before.state.modes
  title : after.damage.title = false → after.state.title = before.state.title
  rasters : after.damage.rasters = false → after.pictures = before.pictures

/-- A view that has caught up has nothing to draw. -/
theorem Noted.cleared (shown : ShownMirror) : Noted shown.clearDamage shown.clearDamage where
  rows _ := List.length_replicate ..
  size _ := rfl
  cells _ _ _ _ _ := rfl
  cursor _ := rfl
  modes _ := rfl
  title _ := rfl
  rasters _ := rfl

/-- Everything noted is nothing unnoted. -/
theorem Noted.of_all {before after : ShownMirror} (full : after.damage.full = true)
    (cursor : after.damage.cursor = true) (modes : after.damage.modes = true)
    (title : after.damage.title = true) (rasters : after.damage.rasters = true) :
    Noted before after where
  rows none_noted := by rw [full] at none_noted; cases none_noted
  size none_noted := by rw [full] at none_noted; cases none_noted
  cells none_noted := by rw [full] at none_noted; cases none_noted
  cursor none_noted := by rw [cursor] at none_noted; cases none_noted
  modes none_noted := by rw [modes] at none_noted; cases none_noted
  title none_noted := by rw [title] at none_noted; cases none_noted
  rasters none_noted := by rw [rasters] at none_noted; cases none_noted

/-! #### Deltas -/

/-- What a delta's operations, performed and noted one after another, leave unnoted is as it
was: the state and the damage before, and both after. -/
structure NotedOps (cells : Size) (state : GridState) (damage : MirrorDamage) (later : GridState)
    (noted : MirrorDamage) : Prop where
  full : noted.full = false → damage.full = false
  size : noted.full = false → later.cells = state.cells
  spans : noted.full = false → state.cells = cells → damage.rows.length = cells.height →
    noted.rows.length = cells.height ∧ ∀ row column, column < cells.width →
      ¬Spanned noted.rows row column → ¬Spanned damage.rows row column ∧
        later.grid[row * cells.width + column]? = state.grid[row * cells.width + column]?
  cursor : noted.cursor = false → damage.cursor = false ∧ later.cursor = state.cursor
  modes : noted.modes = false → damage.modes = false ∧ later.modes = state.modes
  title : noted.title = false → damage.title = false ∧ later.title = state.title
  rasters : noted.rasters = false → damage.rasters = false

/-- Where nothing happens everything is noted. -/
theorem NotedOps.refl (cells : Size) (state : GridState) (damage : MirrorDamage) :
    NotedOps cells state damage state damage where
  full none_noted := none_noted
  size _ := rfl
  spans _ _ whole := ⟨whole, fun _ _ _ unnoted => ⟨unnoted, rfl⟩⟩
  cursor none_noted := ⟨none_noted, rfl⟩
  modes none_noted := ⟨none_noted, rfl⟩
  title none_noted := ⟨none_noted, rfl⟩
  rasters none_noted := none_noted

/-- What is noted step by step is noted over both. -/
theorem NotedOps.trans {cells : Size} {state between later : GridState}
    {damage half noted : MirrorDamage} (first : NotedOps cells state damage between half)
    (second : NotedOps cells between half later noted) :
    NotedOps cells state damage later noted where
  full none_noted := first.full (second.full none_noted)
  size none_noted := (second.size none_noted).trans (first.size (second.full none_noted))
  spans none_noted here whole := by
    have half_noted := second.full none_noted
    obtain ⟨half_whole, front⟩ := first.spans half_noted here whole
    obtain ⟨noted_whole, back⟩ := second.spans none_noted ((first.size half_noted).trans here)
      half_whole
    refine ⟨noted_whole, fun row column within unnoted => ?_⟩
    obtain ⟨half_unnoted, later_same⟩ := back row column within unnoted
    obtain ⟨before_unnoted, same⟩ := front row column within half_unnoted
    exact ⟨before_unnoted, later_same.trans same⟩
  cursor none_noted := by
    obtain ⟨half_noted, later_same⟩ := second.cursor none_noted
    exact ⟨(first.cursor half_noted).1, later_same.trans (first.cursor half_noted).2⟩
  modes none_noted := by
    obtain ⟨half_noted, later_same⟩ := second.modes none_noted
    exact ⟨(first.modes half_noted).1, later_same.trans (first.modes half_noted).2⟩
  title none_noted := by
    obtain ⟨half_noted, later_same⟩ := second.title none_noted
    exact ⟨(first.title half_noted).1, later_same.trans (first.title half_noted).2⟩
  rasters none_noted := first.rasters (second.rasters none_noted)

section

variable [CkVision]

/-- One operation that passed its check, performed and noted. -/
theorem NotedOps.op {cells size : Size} {state : GridState} {op : GridOp}
    (sized : state.grid.length = state.cells.area) (checked : checkOp state.cells op = some size)
    (damage : MirrorDamage) :
    NotedOps cells state damage (performOp state op) (noteOp cells damage op) := by
  have height : state.grid.length = state.cells.height * state.cells.width := by
    rw [sized, Size.area, Nat.mul_comm]
  cases op with
  | resize op =>
      refine ⟨?_, ?_, ?_, ?_, ?_, ?_, ?_⟩ <;> intro none_noted <;> cases none_noted
  | scrollbackPush op =>
      have still : (performOp state (.scrollbackPush op)).view = state.view := by
        rw [performOp]
        split
        · rfl
        · exact foldl_pushScrollbackLine_view ..
      have grid : (performOp state (.scrollbackPush op)).grid = state.grid :=
        congrArg GridView.grid still
      exact {
        full := fun none_noted => none_noted
        size := fun _ => congrArg GridView.cells still
        spans := fun _ _ whole => ⟨whole, fun _ _ _ unnoted => ⟨unnoted, by rw [grid]⟩⟩
        cursor := fun none_noted => ⟨none_noted, congrArg GridView.cursor still⟩
        modes := fun none_noted => ⟨none_noted, congrArg GridView.modes still⟩
        title := fun none_noted => ⟨none_noted, congrArg GridView.title still⟩
        rasters := fun none_noted => none_noted }
  | scroll op =>
      rw [checkOp] at checked
      split at checked
      · cases checked
      · rename_i within
        simp only [not_or, UInt16.lt_iff_toNat_lt, not_lt, gt_iff_lt] at within
        refine ⟨fun none_noted => none_noted, fun _ => rfl, fun _ here whole => ?_,
          fun none_noted => ⟨none_noted, rfl⟩, fun none_noted => ⟨none_noted, rfl⟩,
          fun none_noted => ⟨none_noted, rfl⟩, fun none_noted => none_noted⟩
        subst here
        obtain ⟨length, reports⟩ := noteRows_reports op.top.toNat (op.bottom.toNat - op.top.toNat)
          whole (by omega)
        refine ⟨length, fun row column inside unnoted => ⟨fun before => ?_, ?_⟩⟩
        · exact unnoted (reports row column inside (.inl before))
        · have outside : ¬(op.top.toNat ≤ row ∧ row < op.bottom.toNat) := fun noted =>
            unnoted (reports row column inside (.inr (by omega)))
          have shifted := shiftRows_within op.lines.toInt height within.1 within.2.1
          refine shifted.2 _ ?_
          rcases Nat.lt_or_ge row op.top.toNat with above | below
          · left
            have := @Data.row_end_le state.cells.width op.top.toNat row above
            omega
          · right
            have := Nat.mul_le_mul_right state.cells.width (show op.bottom.toNat ≤ row by omega)
            omega
  | cells op =>
      rw [checkOp] at checked
      split at checked
      · cases checked
      · rename_i within
        simp only [not_or, not_le, ge_iff_le, not_lt, gt_iff_lt] at within
        obtain ⟨row_inside, column_inside, room⟩ := within
        refine ⟨fun none_noted => none_noted, fun _ => rfl, fun _ here whole => ?_,
          fun none_noted => ⟨none_noted, rfl⟩, fun none_noted => ⟨none_noted, rfl⟩,
          fun none_noted => ⟨none_noted, rfl⟩, fun none_noted => none_noted⟩
        subst here
        refine ⟨length_noteRow whole .., fun row column inside unnoted => ⟨fun before => ?_, ?_⟩⟩
        · exact unnoted (noteRow_reports whole row_inside inside (.inl before))
        · have outside : ¬(row = op.row.toNat ∧ op.column.toNat ≤ column ∧
              column < op.column.toNat + totalLength op.runs) := fun noted =>
            unnoted (noteRow_reports whole row_inside inside
              (.inr ⟨noted.1, by omega, by omega⟩))
          have row_end := @Data.row_end_le state.cells.width state.cells.height op.row.toNat
            row_inside
          have short : (fromRuns op.runs).length ≤ totalLength op.runs := by
            rw [fromRuns]
            split
            · exact Nat.zero_le _
            · rw [Proto.length_expand]
          change (Data.splice state.grid (op.row.toNat * state.cells.width + op.column.toNat)
            (fromRuns op.runs))[row * state.cells.width + column]? = _
          rw [Data.getElem?_splice (by omega), if_neg ?_]
          rintro ⟨after, before⟩
          refine outside ?_
          rcases Nat.lt_trichotomy row op.row.toNat with above | same | below
          · have := @Data.row_end_le state.cells.width op.row.toNat row above
            omega
          · subst same
            exact ⟨rfl, by omega, by omega⟩
          · have := @Data.row_end_le state.cells.width row op.row.toNat below
            omega
  | cursor op =>
      exact ⟨fun none_noted => none_noted, fun _ => rfl,
        fun _ _ whole => ⟨whole, fun _ _ _ unnoted => ⟨unnoted, rfl⟩⟩,
        fun none_noted => (by cases none_noted), fun none_noted => ⟨none_noted, rfl⟩,
        fun none_noted => ⟨none_noted, rfl⟩, fun none_noted => none_noted⟩
  | modes op =>
      exact ⟨fun none_noted => none_noted, fun _ => rfl,
        fun _ _ whole => ⟨whole, fun _ _ _ unnoted => ⟨unnoted, rfl⟩⟩,
        fun none_noted => ⟨none_noted, rfl⟩, fun none_noted => (by cases none_noted),
        fun none_noted => ⟨none_noted, rfl⟩, fun none_noted => none_noted⟩
  | title op =>
      exact ⟨fun none_noted => none_noted, fun _ => rfl,
        fun _ _ whole => ⟨whole, fun _ _ _ unnoted => ⟨unnoted, rfl⟩⟩,
        fun none_noted => ⟨none_noted, rfl⟩, fun none_noted => ⟨none_noted, rfl⟩,
        fun none_noted => (by cases none_noted), fun none_noted => none_noted⟩

/-- Operations that were checked, performed and noted one after another. -/
theorem NotedOps.ops {cells : Size} {state : GridState} {ops : List GridOp} {size : Size}
    (sized : state.grid.length = state.cells.area) (checked : checkOps state.cells ops = some size)
    (damage : MirrorDamage) :
    NotedOps cells state damage (ops.foldl performOp state) (ops.foldl (noteOp cells) damage) := by
  induction ops generalizing state damage with
  | nil => exact .refl ..
  | cons op ops ih =>
      rw [checkOps] at checked
      cases first : checkOp state.cells op with
      | none =>
          rw [first] at checked
          cases checked
      | some next =>
          rw [first] at checked
          obtain ⟨met, area⟩ := performOp_checked sized first
          exact (NotedOps.op sized first damage).trans
            (ih (area.trans (met ▸ rfl)) (met.symm ▸ checked) _)

omit [CkVision] in
/-- Operations performed and noted on a mirror that has noted what was changed before. -/
theorem Noted.ops {before shown : ShownMirror} {later : GridState} {damage : MirrorDamage}
    {sequence : UInt32} (noted : Noted before shown)
    (ops : NotedOps later.cells shown.state shown.damage later damage) :
    Noted before
      { shown with
        mirror := { shown.mirror with state := later, sequence := sequence }
        damage := damage } := by
  have spans (none_noted : damage.full = false) := ops.spans none_noted (ops.size none_noted).symm
    ((noted.rows (ops.full none_noted)).trans (by rw [ops.size none_noted]))
  refine ⟨fun none_noted => (spans none_noted).1, fun none_noted => ?_,
    fun none_noted row column within unnoted => ?_, fun none_noted => ?_, fun none_noted => ?_,
    fun none_noted => ?_, fun none_noted => ?_⟩
  · exact (ops.size none_noted).trans (noted.size (ops.full none_noted))
  · obtain ⟨before_unnoted, same⟩ := (spans none_noted).2 row column within unnoted
    have width : later.cells.width = shown.state.cells.width :=
      congrArg Size.width (ops.size none_noted)
    have earlier := noted.cells (ops.full none_noted) row column (width ▸ within) before_unnoted
    rw [← width] at earlier
    exact same.trans earlier
  · obtain ⟨before_noted, same⟩ := ops.cursor none_noted
    exact same.trans (noted.cursor before_noted)
  · obtain ⟨before_noted, same⟩ := ops.modes none_noted
    exact same.trans (noted.modes before_noted)
  · obtain ⟨before_noted, same⟩ := ops.title none_noted
    exact same.trans (noted.title before_noted)
  · exact noted.rasters (ops.rasters none_noted)

/-- A delta is taken with what it changes noted, or refused with nothing drawn otherwise. -/
theorem Noted.apply {before shown : ShownMirror} (noted : Noted before shown) (delta : GridDelta) :
    Noted before (shown.apply delta).2 := by
  rw [ShownMirror.apply, TerminalMirror.apply]
  by_cases next : delta.seq = shown.mirror.sequence + 1
  · rw [if_neg (not_not.mpr next)]
    cases taken : applyDelta delta.ops shown.mirror.state with
    | none => exact ⟨noted.rows, noted.size, noted.cells, noted.cursor, noted.modes, noted.title,
        noted.rasters⟩
    | some state =>
        dsimp only
        rw [applyDelta] at taken
        split at taken
        · cases taken
        · rename_i sized
          split at taken
          · cases taken
          · rename_i checked
            cases taken
            have ops := @NotedOps.ops _ (delta.ops.foldl performOp shown.mirror.state).cells _ _ _
              (not_not.mp sized) checked shown.damage
            exact noted.ops ops
  · rw [if_pos next]
    exact ⟨noted.rows, noted.size, noted.cells, noted.cursor, noted.modes, noted.title,
      noted.rasters⟩

/-! #### Everything else -/

/-- A snapshot adopted has all of it noted. -/
theorem Noted.adopt {before shown : ShownMirror} (noted : Noted before shown)
    (said : Proto.TerminalState) : Noted before (shown.adopt said).2 := by
  by_cases large : said.columns.toNat > Proto.kMaxGridColumns ∨ said.rows.toNat > Proto.kMaxGridRows
  · rw [ShownMirror.adopt, TerminalMirror.adopt, if_pos large]
    exact ⟨noted.rows, noted.size, noted.cells, noted.cursor, noted.modes, noted.title,
      noted.rasters⟩
  · rw [ShownMirror.adopt, TerminalMirror.adopt, if_neg large]
    exact .of_all rfl rfl rfl rfl rfl

omit [CkVision] in
/-- What is said of a terminal is noted. -/
theorem Noted.applyMeta {before shown : ShownMirror} (noted : Noted before shown)
    (said : TermMeta) : Noted before (shown.applyMeta said) := by
  rw [ShownMirror.applyMeta]
  split
  · exact ⟨noted.rows, noted.size, noted.cells, noted.cursor, noted.modes,
      fun none_noted => (by cases none_noted), noted.rasters⟩
  · rename_i same
    exact ⟨noted.rows, noted.size, noted.cells, noted.cursor, noted.modes,
      fun none_noted => (not_not.mp same).trans (noted.title none_noted), noted.rasters⟩

omit [CkVision] in
/-- A terminal's end is noted. -/
theorem Noted.applyClosed {before shown : ShownMirror} (noted : Noted before shown)
    (closed : TermClosed) : Noted before (shown.applyClosed closed) := by
  refine ⟨fun none_noted => ?_, noted.size, fun none_noted row column within unnoted => ?_,
    noted.cursor, noted.modes, noted.title, noted.rasters⟩
  · exact (noteRows_reports 0 _ (noted.rows none_noted) (by omega)).1
  · refine noted.cells none_noted row column within fun reported => unnoted ?_
    exact (noteRows_reports 0 _ (noted.rows none_noted) (by omega)).2 row column within
      (.inl reported)

omit [CkVision] in
/-- A picture that is not there and has no pixels stays away. -/
theorem placeImage_away {id : WireId} {cells : Proto.Rect} {placed : List PlacedImage}
    (away : ∀ held ∈ placed, held.id ≠ id) : placeImage id none cells placed = placed := by
  induction placed with
  | nil => rfl
  | cons held others ih =>
      rw [placeImage, if_neg (away held List.mem_cons_self),
        ih fun other listed => away other (List.mem_cons_of_mem _ listed)]

omit [CkVision] in
/-- An image that is placed is noted. -/
theorem Noted.placeImage {before shown : ShownMirror} (noted : Noted before shown) (id : WireId)
    (image : Option Picture) (cells : Proto.Rect) :
    Noted before (shown.placeImage id image cells) := by
  rw [ShownMirror.placeImage]
  split
  · exact ⟨noted.rows, noted.size, noted.cells, noted.cursor, noted.modes, noted.title,
      fun none_noted => (by cases none_noted)⟩
  · rename_i unplaced
    rw [not_or, Bool.not_eq_true, Option.not_isSome_iff_eq_none, List.any_eq_false] at unplaced
    refine ⟨noted.rows, noted.size, noted.cells, noted.cursor, noted.modes, noted.title,
      fun none_noted => ?_⟩
    rw [unplaced.2, placeImage_away fun held listed => by simpa using unplaced.1 held listed]
    exact noted.rasters none_noted

omit [CkVision] in
/-- An image that is taken away is noted. -/
theorem Noted.removeImage {before shown : ShownMirror} (noted : Noted before shown) (id : WireId) :
    Noted before (shown.removeImage id) := by
  rw [ShownMirror.removeImage]
  split
  · exact ⟨noted.rows, noted.size, noted.cells, noted.cursor, noted.modes, noted.title,
      fun none_noted => (by cases none_noted)⟩
  · rename_i away
    rw [Bool.not_eq_true, List.any_eq_false] at away
    refine ⟨noted.rows, noted.size, noted.cells, noted.cursor, noted.modes, noted.title,
      fun none_noted => ?_⟩
    have still : Ckmux.removeImage id shown.pictures = shown.pictures := List.eraseP_of_forall_not away
    rw [still]
    exact noted.rasters none_noted

end

/-- What happens to a mirror between two looks of its view. -/
inductive MirrorStep where
  | delta (delta : GridDelta)
  | adopt (said : Proto.TerminalState)
  | opened (cells : Size)
  | named (said : TermMeta)
  | closed (closed : TermClosed)
  | placed (id : WireId) (image : Option Picture) (cells : Proto.Rect)
  | removed (id : WireId)

/-- A snapshot or another program behind the mirror. -/
def MirrorStep.Replaces : MirrorStep → Prop
  | .adopt _ => True
  | .opened _ => True
  | _ => False

section

variable [CkVision]

namespace ShownMirror

/-- Each step carried out. -/
def step (shown : ShownMirror) : MirrorStep → ShownMirror
  | .delta delta => (shown.apply delta).2
  | .adopt said => (shown.adopt said).2
  | .opened cells => shown.opened cells
  | .named said => shown.applyMeta said
  | .closed closed => shown.applyClosed closed
  | .placed id image cells => shown.placeImage id image cells
  | .removed id => shown.removeImage id

/-- The lines of history an operation states. -/
def statedBy : GridOp → Nat
  | .scrollbackPush op => op.lines.length
  | _ => 0

/-- The lines of history that a delta states, if it is taken. -/
def takenLines (shown : ShownMirror) : MirrorStep → Nat
  | .delta delta => if (shown.apply delta).1 then (delta.ops.map statedBy).sum else 0
  | _ => 0

/-- The lines of history that the deltas taken along some steps state. -/
def statedLines (shown : ShownMirror) : List MirrorStep → Nat
  | [] => 0
  | event :: events => shown.takenLines event + (shown.step event).statedLines events

end ShownMirror

/-- Whatever a step changes is noted. -/
theorem Noted.step {before shown : ShownMirror} (noted : Noted before shown) (event : MirrorStep) :
    Noted before (shown.step event) := by
  cases event with
  | delta delta => exact noted.apply delta
  | adopt said => exact noted.adopt said
  | opened cells => exact .of_all rfl rfl rfl rfl rfl
  | named said => exact noted.applyMeta said
  | closed closed => exact noted.applyClosed closed
  | placed id image cells => exact noted.placeImage id image cells
  | removed id => exact noted.removeImage id

/-- Whatever some steps change is noted. -/
theorem Noted.run {before shown : ShownMirror} (noted : Noted before shown)
    (events : List MirrorStep) : Noted before (events.foldl ShownMirror.step shown) := by
  induction events generalizing shown with
  | nil => exact noted
  | cons event events ih => exact ih (noted.step event)

/-! ### Lines counted -/

omit [CkVision] in
/-- Noting a delta counts the lines it states. -/
theorem foldl_noteOp_pushed (cells : Size) (damage : MirrorDamage) (ops : List GridOp) :
    (ops.foldl (noteOp cells) damage).scrollbackPushed =
      damage.scrollbackPushed + (ops.map ShownMirror.statedBy).sum := by
  induction ops generalizing damage with
  | nil => rfl
  | cons op ops ih =>
      have first : (noteOp cells damage op).scrollbackPushed =
          damage.scrollbackPushed + ShownMirror.statedBy op := by
        cases op <;> rfl
      rw [List.foldl_cons, ih, first, List.map_cons, List.sum_cons, Nat.add_assoc]

/-- A step that replaces nothing counts the lines of a delta that is taken. -/
theorem step_pushed (shown : ShownMirror) {event : MirrorStep} (keeps : ¬event.Replaces) :
    (shown.step event).damage.scrollbackPushed =
      shown.damage.scrollbackPushed + shown.takenLines event := by
  cases event with
  | delta delta =>
      rw [ShownMirror.step, ShownMirror.takenLines, ShownMirror.apply]
      rcases shown.mirror.apply delta with ⟨_ | _, mirror⟩
      · rfl
      · exact foldl_noteOp_pushed ..
  | adopt said => exact absurd trivial keeps
  | opened cells => exact absurd trivial keeps
  | named said =>
      rw [ShownMirror.step, ShownMirror.applyMeta]
      split <;> rfl
  | closed closed => rfl
  | placed id image cells =>
      rw [ShownMirror.step, ShownMirror.placeImage]
      split <;> rfl
  | removed id =>
      rw [ShownMirror.step, ShownMirror.removeImage]
      split <;> rfl

/-- Lines that entered the history are counted, each once. -/
theorem run_pushed (shown : ShownMirror) {events : List MirrorStep}
    (keep : ∀ event ∈ events, ¬event.Replaces) :
    (events.foldl ShownMirror.step shown).damage.scrollbackPushed =
      shown.damage.scrollbackPushed + shown.statedLines events := by
  induction events generalizing shown with
  | nil => rfl
  | cons event events ih =>
      rw [List.foldl_cons, ih _ fun other listed => keep other (List.mem_cons_of_mem _ listed),
        step_pushed shown (keep event List.mem_cons_self), ShownMirror.statedLines, Nat.add_assoc]

/-- Whatever happens to a mirror since its view caught up, nothing that has changed goes
unnoted: not a cell, nor the cursor, the modes, the title or the pictures. As long as nothing
replaces it, the lines counted are the lines stated. -/
theorem damage_covers_changes (mirror : ShownMirror) (events : List MirrorStep) :
    let before := mirror.clearDamage
    let after := events.foldl ShownMirror.step before
    (after.damage.full = false →
      after.state.cells = before.state.cells ∧
        ∀ row column, column < after.state.cells.width →
          ¬Spanned after.damage.rows row column →
            after.state.grid[row * after.state.cells.width + column]? =
              before.state.grid[row * before.state.cells.width + column]?) ∧
      (after.state.cursor ≠ before.state.cursor → after.damage.cursor = true) ∧
      (after.state.modes ≠ before.state.modes → after.damage.modes = true) ∧
      (after.state.title ≠ before.state.title → after.damage.title = true) ∧
      (after.pictures ≠ before.pictures → after.damage.rasters = true) ∧
      ((∀ event ∈ events, ¬event.Replaces) →
        after.damage.scrollbackPushed = before.statedLines events) := by
  have noted := (Noted.cleared mirror).run events
  refine ⟨fun none_noted => ⟨noted.size none_noted, noted.cells none_noted⟩, fun differs => ?_,
    fun differs => ?_, fun differs => ?_, fun differs => ?_, fun keep => ?_⟩
  · by_contra unnoted
    exact differs (noted.cursor (Bool.eq_false_iff.mpr unnoted))
  · by_contra unnoted
    exact differs (noted.modes (Bool.eq_false_iff.mpr unnoted))
  · by_contra unnoted
    exact differs (noted.title (Bool.eq_false_iff.mpr unnoted))
  · by_contra unnoted
    exact differs (noted.rasters (Bool.eq_false_iff.mpr unnoted))
  · rw [run_pushed _ keep]
    exact Nat.zero_add _

end

end Ckmux
