import Mathlib
import Ckmux.Data.Bridging
import Ckmux.Grid.Spans

/-!
# The cheapest way to bring a row up to date

A changed row may be sent as one operation, as one for each changed cell, or as anything in
between. Each operation costs its header, and each run of identical cells it touches costs
that run's bytes, however many cells of it are sent. What is sent is the cheapest: an
unchanged gap is carried when its runs cost no more than another header would.
-/

namespace Ckmux

open Data (slice Block least least_some_le_none least_none_le least_gap_le)
open Proto (CellRun CellsOp encodedRuns expand sameCell sameCell_iff toRuns toRunsFrom totalLength)

/-! ### What the cells of a row cost -/

/-- What the runs of some cells cost, behind a cell that is already paid for. -/
def headBytes : Option Cell → List Cell → Nat
  | _, [] => 0
  | paid, cell :: cells =>
      (if paid = some cell then 0 else 16 + cell.grapheme.length) + headBytes (some cell) cells

/-- What runs cost goes on where a list goes on, with no new run for the cell that ended it. -/
theorem headBytes_append (paid : Option Cell) (front back : List Cell) :
    headBytes paid (front ++ back) = headBytes paid front + headBytes (front.getLast?.or paid) back := by
  induction front generalizing paid with
  | nil => simp [headBytes]
  | cons cell front ih =>
      rw [List.cons_append, headBytes, headBytes, ih, Nat.add_assoc]
      congr 2
      cases front with
      | nil => rfl
      | cons next front =>
          rw [List.getLast?_cons_cons]
          cases last : (next :: front).getLast? with
          | none => simp at last
          | some cell => rfl

/-- Identical cells cost as much as one of them. -/
theorem headBytes_replicate (paid : Option Cell) (count : Nat) (cell : Cell) :
    headBytes paid (List.replicate count cell) =
      if count = 0 ∨ paid = some cell then 0 else 16 + cell.grapheme.length := by
  induction count generalizing paid with
  | zero => rfl
  | succ count ih =>
      rw [List.replicate_succ, headBytes, ih]
      by_cases same : paid = some cell
      · simp [same]
      · simp [same]

/-- Runs cost at least what the cells they stand for do. -/
theorem headBytes_expand_le (runs : List CellRun) (paid : Option Cell) :
    4 + headBytes paid (expand runs) ≤ encodedRuns runs := by
  have sum : headBytes paid (expand runs) ≤ (runs.map CellRun.encodedSize).sum := by
    induction runs generalizing paid with
    | nil => exact le_refl _
    | cons run runs ih =>
        have first : headBytes paid (List.replicate run.runLength.toNat run.cell) ≤
            run.encodedSize := by
          rw [headBytes_replicate]
          split
          · exact Nat.zero_le _
          · exact le_refl _
        have rest := ih ((List.replicate run.runLength.toNat run.cell).getLast?.or paid)
        have split_runs : expand (run :: runs) =
            List.replicate run.runLength.toNat run.cell ++ expand runs := rfl
        rw [split_runs, headBytes_append, List.map_cons, List.sum_cons]
        omega
  rw [encodedRuns]
  omega

/-- The runs made from cells that one run could count cost just what the cells do. -/
theorem encodedRuns_toRunsFrom (last : CellRun) (cells : List Cell)
    (few : last.runLength.toNat + cells.length ≤ 0xFFFF) :
    ((toRunsFrom last cells).map CellRun.encodedSize).sum =
      16 + last.cell.grapheme.length + headBytes (some last.cell) cells := by
  induction cells generalizing last with
  | nil => simp [toRunsFrom, headBytes, CellRun.encodedSize]
  | cons cell cells ih =>
      rw [List.length_cons] at few
      have room : last.runLength < 0xFFFF := by
        rw [UInt16.lt_iff_toNat_lt]
        change _ < 65535
        omega
      rw [toRunsFrom, headBytes]
      by_cases same : sameCell last.cell cell = true
      · have cells_same := sameCell_iff.mp same
        have more : (last.runLength + 1).toNat = last.runLength.toNat + 1 := by
          rw [UInt16.toNat_add]
          have one : UInt16.toNat 1 = 1 := rfl
          omega
        rw [if_pos ⟨room, same⟩, ih _ (by dsimp only; omega), if_pos (congrArg some cells_same),
          Nat.zero_add, cells_same]
      · have differ : last.cell ≠ cell := fun equal => same (sameCell_iff.mpr equal)
        have one : UInt16.toNat 1 = 1 := rfl
        rw [if_neg (fun grows => same grows.2), List.map_cons, List.sum_cons,
          ih _ (by dsimp only; omega), if_neg (by simpa using differ), CellRun.encodedSize]

/-- Cells in runs take a count, and a head for each cell that begins a run. -/
theorem encodedRuns_toRuns {cells : List Cell} (few : cells.length ≤ 0xFFFF) :
    encodedRuns (toRuns cells) = 4 + headBytes none cells := by
  cases cells with
  | nil => rfl
  | cons cell cells =>
      have one : UInt16.toNat 1 = 1 := rfl
      rw [List.length_cons] at few
      rw [encodedRuns, toRuns, encodedRuns_toRunsFrom _ _ (by dsimp only; omega), headBytes]
      simp

/-! ### What a span of a row costs -/

/-- What the cells from one column up to another cost, on their own. -/
def spanBytes (wanted : List Cell) (first last : Nat) : Nat := headBytes none (slice wanted first last)

/-- A span of no columns takes nothing. -/
theorem spanBytes_of_le {wanted : List Cell} {first last : Nat} (empty : last ≤ first) :
    spanBytes wanted first last = 0 := by
  rw [spanBytes, slice, Nat.sub_eq_zero_of_le empty, List.take_zero]
  rfl

/-- A cell that is not the one already paid for is paid for. -/
theorem headBytes_another {paid : Cell} {cells : List Cell} (another : cells.head? ≠ some paid) :
    headBytes (some paid) cells = headBytes none cells := by
  cases cells with
  | nil => rfl
  | cons cell cells =>
      have differ : (some paid : Option Cell) ≠ some cell := fun equal => another equal.symm
      rw [headBytes, headBytes, if_neg differ, if_neg (by simp)]

section

variable {wanted : List Cell} {first : Nat}

/-- From any cell of a run on there are the cells of the run, and behind them another. -/
theorem drop_run (begins : first < wanted.length) {column : Nat} (after : first ≤ column)
    (before : column < runEnd wanted first begins) :
    wanted.drop column = List.replicate (runEnd wanted first begins - column) wanted[first] ++
        wanted.drop (runEnd wanted first begins) ∧
      (wanted.drop (runEnd wanted first begins)).head? ≠ some wanted[first] := by
  have parts := List.takeWhile_append_dropWhile
    (p := sameCell wanted[first]) (l := wanted.drop (first + 1))
  have same : (wanted.drop (first + 1)).takeWhile (sameCell wanted[first]) =
      List.replicate ((wanted.drop (first + 1)).takeWhile (sameCell wanted[first])).length
        wanted[first] := by
    refine List.eq_replicate_of_mem fun cell listed => ?_
    exact (sameCell_iff.mp (List.mem_takeWhile_imp listed)).symm
  have another := List.head?_dropWhile_not (sameCell wanted[first]) (wanted.drop (first + 1))
  have length : runEnd wanted first begins = first + 1 +
      ((wanted.drop (first + 1)).takeWhile (sameCell wanted[first])).length := rfl
  generalize (wanted.drop (first + 1)).takeWhile (sameCell wanted[first]) = run at *
  generalize (wanted.drop (first + 1)).dropWhile (sameCell wanted[first]) = rest at *
  have whole : wanted.drop first = List.replicate (run.length + 1) wanted[first] ++ rest := by
    rw [List.drop_eq_getElem_cons begins, ← parts, List.replicate_succ, ← same]
    rfl
  have behind : wanted.drop (runEnd wanted first begins) = rest := by
    have reached : runEnd wanted first begins = first + (run.length + 1) := by omega
    rw [reached, ← List.drop_drop, whole, List.drop_left' (List.length_replicate ..)]
  constructor
  · have reached : column = first + (column - first) := by omega
    rw [behind, reached, ← List.drop_drop, whole, List.drop_append_of_le_length (by
      rw [List.length_replicate]; omega), List.drop_replicate]
    congr 2
    omega
  · rw [behind]
    intro head
    rw [head] at another
    exact Bool.false_ne_true (another.symm.trans (sameCell_iff.mpr rfl))

/-- From any cell of a run on, the run is paid for once. -/
theorem spanBytes_run (begins : first < wanted.length) {column last : Nat} (after : first ≤ column)
    (before : column < runEnd wanted first begins) (reaches : column < last) :
    spanBytes wanted column last =
      16 + wanted[first].grapheme.length + spanBytes wanted (runEnd wanted first begins) last := by
  obtain ⟨cells, another⟩ := drop_run begins after before
  have count : min (last - column) (runEnd wanted first begins - column) ≠ 0 := by omega
  have sliced : slice wanted column last =
      List.replicate (min (last - column) (runEnd wanted first begins - column)) wanted[first] ++
        slice wanted (runEnd wanted first begins) last := by
    have left : last - column - (runEnd wanted first begins - column) =
        last - runEnd wanted first begins := by omega
    rw [slice, cells, List.take_append, List.take_replicate, List.length_replicate, left]
    rfl
  have still : (slice wanted (runEnd wanted first begins) last).head? ≠ some wanted[first] := by
    rw [slice, List.head?_take]
    split
    · simp
    · exact another
  have paid : (List.replicate (min (last - column) (runEnd wanted first begins - column))
      wanted[first]).getLast? = some wanted[first] := by
    rw [List.getLast?_replicate, if_neg count]
  rw [spanBytes, sliced, headBytes_append, headBytes_replicate, if_neg (by simp [count]), paid,
    Option.some_or, headBytes_another still, spanBytes]

end

/-! ### The runs as blocks -/

/-- The runs of a row from a column on: what each costs, and whether a cell of it has changed. -/
def runBlocks (mirror wanted : List Cell) (runFirst : Nat) : List Block :=
  if begins : runFirst < wanted.length then
    let runLast := runEnd wanted runFirst begins
    { cost := 16 + wanted[runFirst].grapheme.length
      needed := (changedColumns mirror wanted
        (List.range' runFirst (runLast - runFirst))).isSome } :: runBlocks mirror wanted runLast
  else []
termination_by wanted.length - runFirst
decreasing_by
  have later := runEnd_gt begins
  omega

/-- What a cells operation costs before there is a cell in it. -/
def cellsHeader : Nat := CellsOp.encodedSize {}

/-- What a cells operation takes beside its runs. -/
theorem cellsHeader_eq : cellsHeader = 9 := rfl

/-- What one span costs, sent as an operation of its own. -/
def spanCost (wanted : List Cell) (span : Nat × Nat) : Nat :=
  cellsHeader + spanBytes wanted span.1 span.2

/-- What an open span and the runs from a column on come to. -/
def openCost (mirror wanted : List Cell) (runFirst gapBytes : Nat) : Option (Nat × Nat) → Nat
  | none => least cellsHeader none (runBlocks mirror wanted runFirst)
  | some opened =>
      spanCost wanted opened + least cellsHeader (some gapBytes) (runBlocks mirror wanted runFirst)

/-- The open span has paid for the runs it reaches into, and the gap is what the runs behind it
cost up to the column reached. -/
def Carries (wanted : List Cell) (runFirst gapBytes : Nat) (span : Nat × Nat) : Prop :=
  ∀ last, runFirst ≤ last →
    spanBytes wanted span.1 last =
      spanBytes wanted span.1 span.2 + gapBytes + spanBytes wanted runFirst last

section

variable {mirror wanted : List Cell}

/-- The columns found changed in a run lie in it. -/
theorem changedColumns_run {runFirst : Nat} (begins : runFirst < wanted.length) :
    ChangedBetween mirror wanted runFirst (runEnd wanted runFirst begins)
      (changedColumns mirror wanted
        (List.range' runFirst (runEnd wanted runFirst begins - runFirst))) := by
  have found := changedColumns_between mirror wanted runFirst
    (runEnd wanted runFirst begins - runFirst)
  rwa [Nat.add_sub_cancel' (runEnd_gt begins).le] at found

/-- Columns are only found changed where one of them is. -/
theorem changedColumns_same {columns : List Nat}
    (same : ∀ column ∈ columns, mirror[column]? = wanted[column]?) :
    changedColumns mirror wanted columns = none := by
  rw [changedColumns]
  induction columns with
  | nil => rfl
  | cons column columns ih =>
      rw [List.foldl_cons, if_pos (same column List.mem_cons_self)]
      exact ih fun other listed => same other (List.mem_cons_of_mem _ listed)

/-- Where a run begins, its block costs the run. -/
theorem runBlocks_begins {runFirst : Nat} (begins : runFirst < wanted.length) :
    runBlocks mirror wanted runFirst =
      { cost := 16 + wanted[runFirst].grapheme.length
        needed := (changedColumns mirror wanted
          (List.range' runFirst (runEnd wanted runFirst begins - runFirst))).isSome } ::
        runBlocks mirror wanted (runEnd wanted runFirst begins) := by
  rw [runBlocks, dif_pos begins]

/-- A changed run opens a span that has paid for it. -/
theorem Carries.start {runFirst : Nat} (begins : runFirst < wanted.length) {changed : Nat × Nat}
    (between : ChangedBetween mirror wanted runFirst (runEnd wanted runFirst begins) (some changed)) :
    spanBytes wanted changed.1 changed.2 = 16 + wanted[runFirst].grapheme.length ∧
      Carries wanted (runEnd wanted runFirst begins) 0 changed := by
  obtain ⟨left, ordered, right, _⟩ := between
  have own := spanBytes_run begins left (by omega) ordered
  rw [spanBytes_of_le right] at own
  refine ⟨own, fun last reaches => ?_⟩
  rw [own, spanBytes_run begins left (by omega) (by omega)]
  omega

/-- An unchanged run joins the gap. -/
theorem Carries.skip {runFirst gapBytes : Nat} {span : Nat × Nat}
    (carries : Carries wanted runFirst gapBytes span) (begins : runFirst < wanted.length) :
    Carries wanted (runEnd wanted runFirst begins)
      (gapBytes + (16 + wanted[runFirst].grapheme.length)) span := by
  have later := runEnd_gt begins
  intro last reaches
  rw [carries last (by omega), spanBytes_run begins (le_refl _) later (by omega)]
  omega

/-- A changed run carried by the open span. -/
theorem Carries.extend {runFirst gapBytes : Nat} {span changed : Nat × Nat}
    (carries : Carries wanted runFirst gapBytes span) (begins : runFirst < wanted.length)
    (between : ChangedBetween mirror wanted runFirst (runEnd wanted runFirst begins) (some changed)) :
    spanBytes wanted span.1 changed.2 = spanBytes wanted span.1 span.2 + gapBytes +
        (16 + wanted[runFirst].grapheme.length) ∧
      Carries wanted (runEnd wanted runFirst begins) 0 (span.1, changed.2) := by
  obtain ⟨left, ordered, right, _⟩ := between
  have later := runEnd_gt begins
  have own : spanBytes wanted runFirst changed.2 = 16 + wanted[runFirst].grapheme.length := by
    rw [spanBytes_run begins (le_refl _) later (by omega), spanBytes_of_le right, Nat.add_zero]
  have reached := carries changed.2 (by omega)
  rw [own] at reached
  refine ⟨reached, fun last reaches => ?_⟩
  dsimp only
  rw [reached, carries last (by omega), spanBytes_run begins (le_refl _) later (by omega)]
  omega

/-- What the spans cost that are sent from a column on. The induction is the one of the
search, and the open span carries what it has passed. -/
theorem changedSpansFrom_cost (runFirst : Nat) (span : Option (Nat × Nat)) (gapBytes : Nat)
    (carries : ∀ opened ∈ span, Carries wanted runFirst gapBytes opened) :
    ((changedSpansFrom mirror wanted runFirst span gapBytes).map (spanCost wanted)).sum =
      openCost mirror wanted runFirst gapBytes span := by
  induction runFirst, span, gapBytes using changedSpansFrom.induct mirror wanted with
  | case1 runFirst span gapBytes begins runLast unchanged gap ih =>
      rw [changedSpansFrom, dif_pos begins]
      dsimp only
      rw [unchanged]
      cases span with
      | none =>
          refine (ih fun opened none_open => by cases none_open).trans ?_
          rw [openCost, openCost, runBlocks_begins begins, unchanged]
          rfl
      | some opened =>
          refine (ih fun other same => ?_).trans ?_
          · cases same
            exact (carries opened rfl).skip begins
          · rw [openCost, openCost, runBlocks_begins begins, unchanged]
            rfl
  | case2 runFirst gapBytes begins runLast firstChanged lastChanged changed ih =>
      have found := @changedColumns_run mirror _ _ begins
      rw [changed] at found
      obtain ⟨cost, opens⟩ := Carries.start begins found
      rw [changedSpansFrom, dif_pos begins]
      dsimp only
      rw [changed]
      refine (ih fun other same => by cases same; exact opens).trans ?_
      rw [openCost, openCost, spanCost, cost, runBlocks_begins begins, changed]
      rfl
  | case3 runFirst gapBytes begins runLast firstChanged lastChanged changed spanFirst spanLast dear
      ih =>
      have found := @changedColumns_run mirror _ _ begins
      rw [changed] at found
      obtain ⟨cost, opens⟩ := Carries.start begins found
      rw [changedSpansFrom, dif_pos begins]
      dsimp only
      rw [changed]
      dsimp only
      have rest := ih fun other same => by cases same; exact opens
      rw [openCost, spanCost, cost] at rest
      have dearer : min cellsHeader gapBytes = cellsHeader := Nat.min_eq_left (Nat.le_of_lt dear)
      rw [if_pos dear, List.map_cons, List.sum_cons, rest, openCost, runBlocks_begins begins, changed,
        least, if_pos Option.isSome_some, dearer]
  | case4 runFirst gapBytes begins runLast firstChanged lastChanged changed spanFirst spanLast cheap
      ih =>
      have found := @changedColumns_run mirror _ _ begins
      rw [changed] at found
      obtain ⟨cost, reaches⟩ := (carries _ rfl).extend begins found
      rw [changedSpansFrom, dif_pos begins]
      dsimp only
      rw [changed]
      dsimp only
      have rest := ih fun other same => by cases same; exact reaches
      have under : min cellsHeader gapBytes = gapBytes := Nat.min_eq_right (Nat.not_lt.mp cheap)
      rw [openCost, spanCost] at rest
      dsimp only at rest cost
      rw [if_neg cheap, rest, openCost, spanCost, cost, runBlocks_begins begins, changed, least,
        if_pos Option.isSome_some, under]
      change _ + least _ _ (runBlocks mirror wanted (runEnd wanted runFirst begins)) = _
      dsimp only
      omega
  | case5 runFirst span gapBytes ends =>
      rw [changedSpansFrom, dif_neg ends]
      cases span with
      | none =>
          rw [openCost, runBlocks, dif_neg ends]
          rfl
      | some opened =>
          rw [openCost, runBlocks, dif_neg ends]
          rfl

/-! ### No way is cheaper -/

/-- What is left to pay of a span from a column on, if it was paid for up to there. -/
def restCost (wanted : List Cell) (runFirst : Nat) (span : Nat × Nat) : Nat :=
  (if runFirst ≤ span.1 then cellsHeader else 0) + spanBytes wanted (max span.1 runFirst) span.2

/-- What some spans cost from a column on. -/
def restCosts (wanted : List Cell) (runFirst : Nat) (spans : List (Nat × Nat)) : Nat :=
  (spans.map (restCost wanted runFirst)).sum

/-- A run paid for is no longer left to pay: nor is the header of a span that begins in it. -/
theorem restCost_run {runFirst : Nat} (begins : runFirst < wanted.length) (span : Nat × Nat) :
    restCost wanted (runEnd wanted runFirst begins) span +
        (if span.1 < runEnd wanted runFirst begins ∧ max span.1 runFirst < span.2 then
          (if runFirst ≤ span.1 then cellsHeader else 0) + (16 + wanted[runFirst].grapheme.length)
        else 0) ≤ restCost wanted runFirst span := by
  have later := runEnd_gt begins
  rw [restCost, restCost]
  by_cases before : span.1 < runEnd wanted runFirst begins
  · have reached : max span.1 (runEnd wanted runFirst begins) = runEnd wanted runFirst begins := by
      omega
    rw [if_neg (Nat.not_le.mpr before), reached]
    by_cases touches : max span.1 runFirst < span.2
    · rw [if_pos ⟨before, touches⟩, spanBytes_run begins (by omega) (by omega) touches]
      omega
    · rw [if_neg (fun both => touches both.2),
        spanBytes_of_le (show span.2 ≤ runEnd wanted runFirst begins by omega)]
      omega
  · have reached : max span.1 (runEnd wanted runFirst begins) = max span.1 runFirst := by omega
    have starts : runEnd wanted runFirst begins ≤ span.1 := Nat.not_lt.mp before
    have untouched : ¬(span.1 < runEnd wanted runFirst begins ∧ max span.1 runFirst < span.2) :=
      fun both => before both.1
    rw [if_neg untouched, reached, if_pos starts, if_pos (later.le.trans starts), Nat.add_zero]

/-- What all spans have left to pay covers, a run on, what one of them pays for the run. -/
theorem restCosts_run {runFirst : Nat} (begins : runFirst < wanted.length)
    (spans : List (Nat × Nat)) :
    restCosts wanted (runEnd wanted runFirst begins) spans ≤ restCosts wanted runFirst spans ∧
      ∀ span ∈ spans, span.1 < runEnd wanted runFirst begins → max span.1 runFirst < span.2 →
        restCosts wanted (runEnd wanted runFirst begins) spans +
            ((if runFirst ≤ span.1 then cellsHeader else 0) +
              (16 + wanted[runFirst].grapheme.length)) ≤ restCosts wanted runFirst spans := by
  induction spans with
  | nil => exact ⟨le_refl _, fun span listed => by cases listed⟩
  | cons other spans ih =>
      have own := restCost_run begins other
      obtain ⟨fewer, paid⟩ := ih
      simp only [restCosts, List.map_cons, List.sum_cons] at fewer paid ⊢
      refine ⟨by omega, fun span listed before touches => ?_⟩
      rcases List.mem_cons.mp listed with rfl | later
      · rw [if_pos ⟨before, touches⟩] at own
        omega
      · have rest := paid span later before touches
        omega

/-- A span that reaches over a column from before it. -/
def Crosses (column : Nat) (span : Nat × Nat) : Prop := span.1 < column ∧ column < span.2

/-- Whatever spans cover what has changed, from a run on they have at least as much left to pay
as the cheapest: with a piece open, if one of them reaches into the run. The induction is on
the runs that are left. -/
theorem least_le_restCosts {spans : List (Nat × Nat)}
    (covers : ∀ column < wanted.length, mirror[column]? ≠ wanted[column]? → Covered spans column)
    (runFirst : Nat) :
    ((∀ span ∈ spans, ¬Crosses runFirst span) →
        least cellsHeader none (runBlocks mirror wanted runFirst) ≤ restCosts wanted runFirst spans) ∧
      ((∃ span ∈ spans, Crosses runFirst span) →
        least cellsHeader (some 0) (runBlocks mirror wanted runFirst) ≤
          restCosts wanted runFirst spans) := by
  induction runFirst using runBlocks.induct wanted with
  | case2 runFirst ends =>
      rw [runBlocks, dif_neg ends]
      exact ⟨fun _ => Nat.zero_le _, fun _ => Nat.zero_le _⟩
  | case1 runFirst begins runLast ih =>
      have later : runFirst < runLast := runEnd_gt begins
      obtain ⟨fewer, paid⟩ := restCosts_run begins spans
      have open_pays : least cellsHeader (some 0) (runBlocks mirror wanted runLast) ≤
          restCosts wanted runLast spans := by
        by_cases crossed : ∃ span ∈ spans, Crosses runLast span
        · exact ih.2 crossed
        · refine (least_some_le_none 0 _).trans (ih.1 fun span listed crosses => ?_)
          exact crossed ⟨span, listed, crosses⟩
      have crossing : ∀ span ∈ spans, Crosses runFirst span →
          restCosts wanted runLast spans + (16 + wanted[runFirst].grapheme.length) ≤
            restCosts wanted runFirst spans := by
        intro span listed crosses
        have most := paid span listed (crosses.1.trans later) (by
          rw [Nat.max_eq_right crosses.1.le]; exact crosses.2)
        rwa [if_neg (Nat.not_le.mpr crosses.1), Nat.zero_add] at most
      have starting : ∀ span ∈ spans, runFirst ≤ span.1 → span.1 < runLast → span.1 < span.2 →
          restCosts wanted runLast spans + (cellsHeader + (16 + wanted[runFirst].grapheme.length)) ≤
            restCosts wanted runFirst spans := by
        intro span listed after before filled
        have most := paid span listed before (by rwa [Nat.max_eq_left after])
        rwa [if_pos after] at most
      rw [runBlocks_begins begins, least, least]
      have found := @changedColumns_run mirror _ _ begins
      cases changed : changedColumns mirror wanted
          (List.range' runFirst (runEnd wanted runFirst begins - runFirst)) with
      | none =>
          rw [if_neg (by simp), if_neg (by simp)]
          refine ⟨fun none_cross => ?_, fun some_crosses => ?_⟩
          · -- a span that reaches behind the run begins in it, and pays a header for that
            by_cases crossed : ∃ span ∈ spans, Crosses runLast span
            · obtain ⟨span, listed, crosses⟩ := crossed
              have after : runFirst ≤ span.1 := by
                by_contra early
                exact none_cross span listed ⟨by omega, later.trans crosses.2⟩
              have pays := starting span listed after crosses.1 (crosses.1.trans crosses.2)
              have cheaper := ih.2 ⟨span, listed, crosses⟩
              have opens := @least_none_le cellsHeader 0 (runBlocks mirror wanted runLast)
              change least _ none (runBlocks mirror wanted runLast) ≤ _
              omega
            · exact (ih.1 fun span listed crosses => crossed ⟨span, listed, crosses⟩).trans fewer
          · obtain ⟨span, listed, crosses⟩ := some_crosses
            have pays := crossing span listed crosses
            have passed := @least_gap_le cellsHeader (16 + wanted[runFirst].grapheme.length) 0
              (runBlocks mirror wanted runLast)
            rw [Nat.add_comm 0]
            change least _ (some (16 + wanted[runFirst].grapheme.length + 0))
              (runBlocks mirror wanted runLast) ≤ _
            omega
      | some ends =>
          rw [changed] at found
          obtain ⟨left, ordered, right, _⟩ := found
          rw [if_pos Option.isSome_some, if_pos Option.isSome_some, Nat.min_zero, Nat.zero_add]
          refine ⟨fun none_cross => ?_, fun some_crosses => ?_⟩
          · -- a changed cell of the run lies in a span, which then begins in the run
            have differs : ∃ column, runFirst ≤ column ∧ column < runLast ∧
                mirror[column]? ≠ wanted[column]? := by
              by_contra all_same
              push Not at all_same
              rw [changedColumns_same fun column listed => ?_] at changed
              · cases changed
              · obtain ⟨after, before⟩ := List.mem_range'_1.mp listed
                exact all_same column after (by change column < runEnd _ _ _; omega)
            obtain ⟨column, after, before, differs⟩ := differs
            have inside : runLast ≤ wanted.length := runEnd_le begins
            obtain ⟨span, listed, reached, covered⟩ := covers column (by omega) differs
            have begun : runFirst ≤ span.1 := by
              by_contra early
              exact none_cross span listed ⟨by omega, by omega⟩
            have pays := starting span listed begun (by omega) (by omega)
            change _ + least _ (some 0) (runBlocks mirror wanted runLast) ≤ _
            dsimp only
            omega
          · obtain ⟨span, listed, crosses⟩ := some_crosses
            have pays := crossing span listed crosses
            change _ + least _ (some 0) (runBlocks mirror wanted runLast) ≤ _
            dsimp only
            omega

/-- What the spans sent come to is what no spans that cover what has changed come under. -/
theorem changedSpansFrom_least {spans : List (Nat × Nat)}
    (covers : ∀ column < wanted.length, mirror[column]? ≠ wanted[column]? → Covered spans column) :
    ((changedSpansFrom mirror wanted 0 none 0).map (spanCost wanted)).sum ≤
      (spans.map (spanCost wanted)).sum := by
  rw [changedSpansFrom_cost 0 none 0 fun opened none_open => by cases none_open]
  have cheapest := (least_le_restCosts covers 0).1 fun span _ crosses => Nat.not_lt_zero _ crosses.1
  have whole (span : Nat × Nat) : restCost wanted 0 span = spanCost wanted span := by
    rw [restCost, if_pos (Nat.zero_le _), Nat.max_zero, spanCost]
  rw [restCosts, List.map_congr_left fun span _ => whole span] at cheapest
  exact cheapest

/-! ### The spans sent lie apart -/

/-- Two spans without a column in common. -/
def Apart (one other : Nat × Nat) : Prop := one.2 ≤ other.1 ∨ other.2 ≤ one.1

/-- Where the first span sent from a column on may begin: at the open one, if there is one. -/
def firstColumn (runFirst : Nat) : Option (Nat × Nat) → Nat
  | none => runFirst
  | some opened => opened.1

/-- The spans sent follow one another. -/
theorem changedSpansFrom_apart (runFirst : Nat) (span : Option (Nat × Nat)) (gapBytes : Nat)
    (opened : OpenBefore runFirst span) :
    (changedSpansFrom mirror wanted runFirst span gapBytes).Pairwise Apart ∧
      ∀ other ∈ changedSpansFrom mirror wanted runFirst span gapBytes,
        firstColumn runFirst span ≤ other.1 := by
  induction runFirst, span, gapBytes using changedSpansFrom.induct mirror wanted with
  | case1 runFirst span gapBytes begins runLast unchanged gap ih =>
      have later : runFirst < runLast := runEnd_gt begins
      rw [changedSpansFrom, dif_pos begins]
      dsimp only
      rw [unchanged]
      cases span with
      | none =>
          obtain ⟨apart, behind⟩ := ih trivial
          exact ⟨apart, fun other listed => later.le.trans (behind other listed)⟩
      | some span => exact ih ⟨opened.1, opened.2.trans later.le⟩
  | case2 runFirst gapBytes begins runLast firstChanged lastChanged changed ih =>
      have found := @changedColumns_run mirror _ _ begins
      rw [changed] at found
      obtain ⟨apart, behind⟩ := ih ⟨found.2.1.le, found.2.2.1⟩
      rw [changedSpansFrom, dif_pos begins]
      dsimp only
      rw [changed]
      exact ⟨apart, fun other listed => found.1.trans (behind other listed)⟩
  | case3 runFirst gapBytes begins runLast firstChanged lastChanged changed spanFirst spanLast dear
      ih =>
      have found := @changedColumns_run mirror _ _ begins
      rw [changed] at found
      obtain ⟨apart, behind⟩ := ih ⟨found.2.1.le, found.2.2.1⟩
      have starts : spanFirst ≤ spanLast := opened.1
      have ends : spanLast ≤ firstChanged := opened.2.trans found.1
      rw [changedSpansFrom, dif_pos begins]
      dsimp only
      rw [changed]
      dsimp only
      rw [if_pos dear]
      refine ⟨.cons (fun other listed => .inl (ends.trans (behind other listed))) apart,
        fun other listed => ?_⟩
      rcases List.mem_cons.mp listed with rfl | listed
      · exact le_refl _
      · exact (starts.trans ends).trans (behind other listed)
  | case4 runFirst gapBytes begins runLast firstChanged lastChanged changed spanFirst spanLast cheap
      ih =>
      have found := @changedColumns_run mirror _ _ begins
      rw [changed] at found
      have starts : spanFirst ≤ spanLast := opened.1
      have ends : spanLast ≤ firstChanged := opened.2.trans found.1
      rw [changedSpansFrom, dif_pos begins]
      dsimp only
      rw [changed]
      dsimp only
      rw [if_neg cheap]
      exact ih ⟨(starts.trans ends).trans found.2.1.le, found.2.2.1⟩
  | case5 runFirst span gapBytes ends =>
      rw [changedSpansFrom, dif_neg ends]
      cases span with
      | none => exact ⟨.nil, fun other listed => by cases listed⟩
      | some span =>
          refine ⟨List.pairwise_singleton _ _, fun other listed => ?_⟩
          rw [List.mem_singleton.mp listed]
          exact le_refl _

end

/-! ### The operations -/

/-- The columns an operation writes to. -/
def writtenSpan (op : CellsOp) : Nat × Nat :=
  (op.column.toNat, op.column.toNat + (expand op.runs).length)

/-- Operations on one row that do not overlap, write only wanted cells of it and reach
every cell that has changed. -/
structure Repaints (index : Nat) (mirror wanted : List Cell) (ops : List CellsOp) : Prop where
  row : ∀ op ∈ ops, op.row = UInt16.ofNat index
  fit : Fit wanted.length (ops.map writtenSpan)
  apart : (ops.map writtenSpan).Pairwise Apart
  write : ∀ op ∈ ops, expand op.runs = slice wanted (writtenSpan op).1 (writtenSpan op).2
  covers : ∀ column < wanted.length, mirror[column]? ≠ wanted[column]? →
    Covered (ops.map writtenSpan) column

/-- What some operations take together. -/
def totalSize (ops : List CellsOp) : Nat := (ops.map CellsOp.encodedSize).sum

/-- An operation that writes wanted cells costs at least what they do. -/
theorem spanCost_le {wanted : List Cell} {op : CellsOp}
    (write : expand op.runs = slice wanted (writtenSpan op).1 (writtenSpan op).2) :
    spanCost wanted (writtenSpan op) ≤ op.encodedSize := by
  have cells := headBytes_expand_le op.runs none
  rw [write] at cells
  rw [spanCost, spanBytes, cellsHeader_eq, CellsOp.encodedSize]
  omega

section

variable {mirror wanted : List Cell} {index : Nat}

/-- The operation sent for a span. -/
def spanOp (index : Nat) (wanted : List Cell) (span : Nat × Nat) : CellsOp :=
  ⟨UInt16.ofNat index, UInt16.ofNat span.1, toRuns (slice wanted span.1 span.2)⟩

/-- A span's operation takes what the span costs. -/
theorem spanOp_encodedSize (span : Nat × Nat) (few : wanted.length ≤ 0xFFFF) :
    (spanOp index wanted span).encodedSize = spanCost wanted span := by
  have shorter : (slice wanted span.1 span.2).length ≤ 0xFFFF := by
    rw [slice, List.length_take, List.length_drop]
    omega
  rw [CellsOp.encodedSize, spanOp, encodedRuns_toRuns shorter, spanCost, cellsHeader_eq, spanBytes]
  omega

/-- A span's operation writes that span. -/
theorem writtenSpan_spanOp {span : Nat × Nat} (fits : span.1 ≤ span.2 ∧ span.2 ≤ wanted.length)
    (few : wanted.length ≤ 0xFFFF) : writtenSpan (spanOp index wanted span) = span := by
  have column : (UInt16.ofNat span.1).toNat = span.1 := UInt16.toNat_ofNat_of_lt (by
    rw [UInt16.size]; omega)
  rw [writtenSpan, spanOp, Proto.expand_toRuns, Data.length_slice fits.1 fits.2, column,
    Nat.add_sub_cancel' fits.1]

/-- What is sent for a changed row repaints it. -/
theorem repaints_changedSpans (few : wanted.length ≤ 0xFFFF) :
    Repaints index mirror wanted
      ((changedSpansFrom mirror wanted 0 none 0).map (spanOp index wanted)) := by
  have spans := changedSpansFrom_spans mirror wanted 0 none 0 trivial (Nat.zero_le _)
  have written : ((changedSpansFrom mirror wanted 0 none 0).map (spanOp index wanted)).map
      writtenSpan = changedSpansFrom mirror wanted 0 none 0 := by
    rw [List.map_map]
    refine (List.map_congr_left fun span listed => ?_).trans (List.map_id _)
    exact writtenSpan_spanOp (spans.fit span listed) few
  constructor
  · intro op listed
    obtain ⟨span, _, rfl⟩ := List.mem_map.mp listed
    rfl
  · rw [written]
    exact spans.fit
  · rw [written]
    exact (changedSpansFrom_apart 0 none 0 trivial).1
  · intro op listed
    obtain ⟨span, named, rfl⟩ := List.mem_map.mp listed
    rw [writtenSpan_spanOp (spans.fit span named) few]
    exact Proto.expand_toRuns _
  · rw [written]
    exact fun column => spans.covers column (Nat.zero_le _)

/-- What repaints a row comes to at least what is sent for it. -/
theorem changedSpans_totalSize_le (few : wanted.length ≤ 0xFFFF) {ops : List CellsOp}
    (repaints : Repaints index mirror wanted ops) :
    totalSize ((changedSpansFrom mirror wanted 0 none 0).map (spanOp index wanted)) ≤
      totalSize ops := by
  have sent : totalSize ((changedSpansFrom mirror wanted 0 none 0).map (spanOp index wanted)) =
      ((changedSpansFrom mirror wanted 0 none 0).map (spanCost wanted)).sum := by
    rw [totalSize, List.map_map]
    exact congrArg List.sum (List.map_congr_left fun span _ => spanOp_encodedSize span few)
  rw [sent, totalSize]
  refine (changedSpansFrom_least repaints.covers).trans ?_
  rw [List.map_map]
  exact List.sum_le_sum fun op listed => spanCost_le (repaints.write op listed)

/-- Nothing repaints a row in which nothing has changed. -/
theorem repaints_nil_iff (widths : mirror.length = wanted.length) :
    Repaints index mirror wanted [] ↔ mirror = wanted := by
  constructor
  · intro repaints
    refine List.ext_getElem? fun column => ?_
    by_cases inside : column < wanted.length
    · by_contra differs
      obtain ⟨_, listed, _⟩ := repaints.covers column inside differs
      cases listed
    · rw [List.getElem?_eq_none (by omega), List.getElem?_eq_none (by omega)]
  · rintro rfl
    exact ⟨(fun _ listed => by cases listed), (fun _ listed => by cases listed), .nil,
      (fun _ listed => by cases listed), fun _ _ differs => absurd rfl differs⟩

end

/-- **A changed row is sent in the fewest bytes**: of all operations on it that do not overlap,
write only wanted cells and reach every changed one, none come to less than those emitted; and
none are emitted exactly when no cell has changed. -/
theorem emitChangedRow_cheapest {index : Nat} {mirror wanted : List Cell}
    (widths : mirror.length = wanted.length) (columns : wanted.length ≤ Proto.kMaxGridColumns) :
    ∃ emitted : List CellsOp,
      emitChangedRow index mirror wanted = emitted.map .cells ∧
      Repaints index mirror wanted emitted ∧
      (∀ ops, Repaints index mirror wanted ops → totalSize emitted ≤ totalSize ops) ∧
      (emitted = [] ↔ mirror = wanted) := by
  have few : wanted.length ≤ 0xFFFF := columns.trans (by decide)
  refine ⟨(changedSpansFrom mirror wanted 0 none 0).map (spanOp index wanted), ?_,
    repaints_changedSpans few, fun ops => changedSpans_totalSize_le few, fun none_sent => ?_,
    fun same => ?_⟩
  · rw [emitChangedRow]
    split
    · rename_i empty
      have no_cells : wanted = [] := empty.resolve_left fun differ => differ widths
      subst no_cells
      have ends : ¬0 < ([] : List Cell).length := Nat.lt_irrefl 0
      rw [changedSpansFrom, dif_neg ends]
      rfl
    · rw [List.map_map]
      rfl
  · exact (repaints_nil_iff widths).mp (none_sent ▸ repaints_changedSpans few)
  · -- every operation costs its header, and none at all cost nothing
    have nothing := changedSpans_totalSize_le few ((@repaints_nil_iff _ _ index widths).mpr same)
    cases sent : (changedSpansFrom mirror wanted 0 none 0).map (spanOp index wanted) with
    | nil => rfl
    | cons op ops =>
        rw [sent, totalSize, totalSize, List.map_cons, List.sum_cons, CellsOp.encodedSize] at nothing
        simp only [List.map_nil, List.sum_nil] at nothing
        omega

/-- With the outer two of three letters changed. -/
theorem emitChangedRow_cheapest_letters :
    let letter (code : UInt8) : Cell := ⟨[code], 1, {}⟩
    ∃ emitted : List CellsOp,
      emitChangedRow 0 [letter 97, letter 98, letter 99] [letter 120, letter 98, letter 121] =
        emitted.map .cells ∧
      Repaints 0 [letter 97, letter 98, letter 99] [letter 120, letter 98, letter 121] emitted ∧
      (∀ ops, Repaints 0 [letter 97, letter 98, letter 99] [letter 120, letter 98, letter 121] ops →
        totalSize emitted ≤ totalSize ops) ∧
      (emitted = [] ↔
        [letter 97, letter 98, letter 99] = [letter 120, letter 98, letter 121]) := by
  intro letter
  exact emitChangedRow_cheapest rfl (by decide)

end Ckmux
