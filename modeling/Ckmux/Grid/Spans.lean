import Mathlib
import Ckmux.Grid.Delta

/-!
# The spans a changed row is sent as

Which spans are sent is a question of bytes. What a mirror needs of them is less:
each lies in the row, and between them they name every column that differs.
-/

namespace Ckmux

open Data (row splice slice Within)
open Proto (sameCell)

/-- A column one of some spans names. -/
def Covered (spans : List (Nat × Nat)) (column : Nat) : Prop :=
  ∃ span ∈ spans, span.1 ≤ column ∧ column < span.2

/-- A column that is covered stays so with a span more. -/
theorem Covered.tail {span : Nat × Nat} {spans : List (Nat × Nat)} {column : Nat}
    (covered : Covered spans column) : Covered (span :: spans) column := by
  obtain ⟨other, listed, inside⟩ := covered
  exact ⟨other, List.mem_cons_of_mem _ listed, inside⟩

/-- Spans that lie in a row of some width. -/
def Fit (width : Nat) (spans : List (Nat × Nat)) : Prop :=
  ∀ span ∈ spans, span.1 ≤ span.2 ∧ span.2 ≤ width

/-! ### Finding them -/

/-- A run ends with the row, if not before. -/
theorem runEnd_le {wanted : List Cell} {first : Nat} (begins : first < wanted.length) :
    runEnd wanted first begins ≤ wanted.length := by
  have length_le := (List.takeWhile_sublist (sameCell wanted[first])
    (l := wanted.drop (first + 1))).length_le
  rw [List.length_drop] at length_le
  rw [runEnd]
  omega

/-- What `changedColumns` says of some adjacent columns. -/
def ChangedBetween (mirror wanted : List Cell) (first last : Nat) : Option (Nat × Nat) → Prop
  | none => ∀ column, first ≤ column → column < last → mirror[column]? = wanted[column]?
  | some (firstChanged, lastChanged) =>
      first ≤ firstChanged ∧ firstChanged < lastChanged ∧ lastChanged ≤ last ∧
        ∀ column, first ≤ column → column < last → mirror[column]? ≠ wanted[column]? →
          firstChanged ≤ column ∧ column < lastChanged

/-- What is found changed reaches from the first changed column to the last. -/
theorem changedColumns_between (mirror wanted : List Cell) (first count : Nat) :
    ChangedBetween mirror wanted first (first + count)
      (changedColumns mirror wanted (List.range' first count)) := by
  induction count with
  | zero =>
      intro column _ _
      omega
  | succ count ih =>
      rw [List.range'_1_concat, changedColumns, List.foldl_append, List.foldl_cons, List.foldl_nil]
      change ChangedBetween _ _ _ _ (if _ then changedColumns mirror wanted (List.range' first count)
        else match changedColumns mirror wanted (List.range' first count) with
          | none => _
          | some (firstChanged, _) => _)
      revert ih
      generalize changedColumns mirror wanted (List.range' first count) = changed
      intro ih
      by_cases same : mirror[first + count]? = wanted[first + count]?
      · rw [if_pos same]
        cases changed with
        | none =>
            intro column after before
            rcases Nat.lt_or_ge column (first + count) with earlier | last
            · exact ih column after earlier
            · have here : column = first + count := by omega
              rw [here, same]
        | some changed =>
            obtain ⟨begins, ordered, ends, covers⟩ := ih
            refine ⟨begins, ordered, by omega, fun column after before differs => ?_⟩
            refine covers column after ?_ differs
            by_contra late
            have here : column = first + count := by omega
            exact differs (here ▸ same)
      · rw [if_neg same]
        cases changed with
        | none =>
            refine ⟨by omega, by omega, by omega, fun column after before differs => ?_⟩
            rcases Nat.lt_or_ge column (first + count) with earlier | last
            · exact absurd (ih column after earlier) differs
            · omega
        | some changed =>
            obtain ⟨begins, ordered, ends, covers⟩ := ih
            refine ⟨begins, by omega, by omega, fun column after before differs => ?_⟩
            rcases Nat.lt_or_ge column (first + count) with earlier | last
            · have inside := covers column after earlier differs
              omega
            · omega

/-- The open span lies in what was already read. -/
def OpenBefore (runFirst : Nat) : Option (Nat × Nat) → Prop
  | none => True
  | some span => span.1 ≤ span.2 ∧ span.2 ≤ runFirst

/-- What the spans from a column on must satisfy: they fit, they keep the open span
and they name every column from there on that differs. -/
structure Spans (mirror wanted : List Cell) (runFirst : Nat) (span : Option (Nat × Nat))
    (spans : List (Nat × Nat)) : Prop where
  fit : Fit wanted.length spans
  keeps : ∀ opened ∈ span, ∀ column, opened.1 ≤ column → column < opened.2 → Covered spans column
  covers : ∀ column, runFirst ≤ column → column < wanted.length →
    mirror[column]? ≠ wanted[column]? → Covered spans column

namespace Spans

variable {mirror wanted : List Cell} {runFirst runLast : Nat} {spans : List (Nat × Nat)}

/-- A run that has not changed names nothing. -/
theorem skip {span : Option (Nat × Nat)} (unchanged : ChangedBetween mirror wanted runFirst runLast none)
    (rest : Spans mirror wanted runLast span spans) : Spans mirror wanted runFirst span spans where
  fit := rest.fit
  keeps := rest.keeps
  covers column after inside differs := by
    rcases Nat.lt_or_ge column runLast with here | later
    · exact absurd (unchanged column after here) differs
    · exact rest.covers column later inside differs

/-- A changed run is named once the spans from its end on keep what changed in it. -/
theorem covers_run {changed span : Nat × Nat}
    (between : ChangedBetween mirror wanted runFirst runLast (some changed))
    (rest : Spans mirror wanted runLast (some span) spans) (widens : span.1 ≤ changed.1)
    (reaches : changed.2 ≤ span.2) (column : Nat) (after : runFirst ≤ column)
    (inside : column < wanted.length) (differs : mirror[column]? ≠ wanted[column]?) :
    Covered spans column := by
  rcases Nat.lt_or_ge column runLast with here | later
  · have named := between.2.2.2 column after here differs
    exact rest.keeps span rfl column (by omega) (by omega)
  · exact rest.covers column later inside differs

/-- A first changed run opens a span. -/
theorem start {changed : Nat × Nat}
    (between : ChangedBetween mirror wanted runFirst runLast (some changed))
    (rest : Spans mirror wanted runLast (some changed) spans) :
    Spans mirror wanted runFirst none spans where
  fit := rest.fit
  keeps _ none_open := by cases none_open
  covers := rest.covers_run between (le_refl _) (le_refl _)

/-- A changed run that is too far away ends the span and opens another. -/
theorem emit {changed span : Nat × Nat}
    (between : ChangedBetween mirror wanted runFirst runLast (some changed))
    (rest : Spans mirror wanted runLast (some changed) spans) (ordered : span.1 ≤ span.2)
    (inside : span.2 ≤ wanted.length) :
    Spans mirror wanted runFirst (some span) (span :: spans) where
  fit := by
    intro other listed
    rcases List.mem_cons.mp listed with rfl | listed
    · exact ⟨ordered, inside⟩
    · exact rest.fit other listed
  keeps := by
    rintro opened ⟨⟩ column left right
    exact ⟨span, List.mem_cons_self, left, right⟩
  covers column after inside differs :=
    (rest.covers_run between (le_refl _) (le_refl _) column after inside differs).tail

/-- A changed run that is near enough is taken into the span. -/
theorem extend {changed span : Nat × Nat}
    (between : ChangedBetween mirror wanted runFirst runLast (some changed))
    (rest : Spans mirror wanted runLast (some (span.1, changed.2)) spans)
    (ordered : span.1 ≤ span.2) (before : span.2 ≤ runFirst) :
    Spans mirror wanted runFirst (some span) spans where
  fit := rest.fit
  keeps := by
    rintro opened ⟨⟩ column left right
    have begins := between.1
    have proper := between.2.1
    exact rest.keeps _ rfl column left (by dsimp only; omega)
  covers := by
    have begins := between.1
    exact rest.covers_run between (by dsimp only; omega) (le_refl _)

end Spans

/-- The spans sent from a column on. The induction is the one of the search; the
open span lies behind the column reached. -/
theorem changedSpansFrom_spans (mirror wanted : List Cell) (runFirst : Nat)
    (span : Option (Nat × Nat)) (gapBytes : Nat) (opened : OpenBefore runFirst span)
    (inside : runFirst ≤ wanted.length) :
    Spans mirror wanted runFirst span (changedSpansFrom mirror wanted runFirst span gapBytes) := by
  have between (first : Nat) (begins : first < wanted.length) :
      ChangedBetween mirror wanted first (runEnd wanted first begins)
        (changedColumns mirror wanted (List.range' first (runEnd wanted first begins - first))) := by
    have found := changedColumns_between mirror wanted first (runEnd wanted first begins - first)
    rwa [Nat.add_sub_cancel' (runEnd_gt begins).le] at found
  induction runFirst, span, gapBytes using changedSpansFrom.induct mirror wanted with
  | case1 runFirst span gapBytes begins runLast unchanged gap ih =>
      have later : runFirst < runLast := runEnd_gt begins
      have still : OpenBefore runLast span := by
        cases span with
        | none => trivial
        | some span => exact ⟨opened.1, by have := opened.2; omega⟩
      have rest := ih still (runEnd_le begins)
      rw [changedSpansFrom, dif_pos begins]
      dsimp only
      rw [unchanged]
      exact rest.skip (unchanged ▸ between runFirst begins)
  | case2 runFirst gapBytes begins runLast firstChanged lastChanged changed ih =>
      have found := between runFirst begins
      rw [changed] at found
      have rest := ih ⟨found.2.1.le, found.2.2.1⟩ (runEnd_le begins)
      rw [changedSpansFrom, dif_pos begins]
      dsimp only
      rw [changed]
      exact rest.start found
  | case3 runFirst gapBytes begins runLast firstChanged lastChanged changed spanFirst spanLast dear
      ih =>
      have found := between runFirst begins
      rw [changed] at found
      have rest := ih ⟨found.2.1.le, found.2.2.1⟩ (runEnd_le begins)
      rw [changedSpansFrom, dif_pos begins]
      dsimp only
      rw [changed]
      dsimp only
      rw [if_pos dear]
      exact rest.emit found opened.1 (by have := opened.2; omega)
  | case4 runFirst gapBytes begins runLast firstChanged lastChanged changed spanFirst spanLast cheap
      ih =>
      have found := between runFirst begins
      rw [changed] at found
      have rest := ih
        ⟨by have := opened.1; have := opened.2; have := found.1; have := found.2.1; omega, found.2.2.1⟩
        (runEnd_le begins)
      rw [changedSpansFrom, dif_pos begins]
      dsimp only
      rw [changed]
      dsimp only
      rw [if_neg cheap]
      exact @Spans.extend _ _ _ _ _ _ (spanFirst, spanLast) found rest opened.1 opened.2
  | case5 runFirst span gapBytes ends =>
      rw [changedSpansFrom, dif_neg ends]
      refine ⟨fun other listed => ?_, fun other listed column left right => ?_,
        fun column after before _ => absurd after (by omega)⟩
      · rw [Option.mem_toList] at listed
        cases listed
        exact ⟨opened.1, by have := opened.2; omega⟩
      · exact ⟨other, Option.mem_toList.mpr listed, left, right⟩

/-! ### Painting a row -/

/-- The wanted cells written over a buffer from `offset` on, where the spans say. -/
def paint (offset : Nat) (wanted : List Cell) (spans : List (Nat × Nat)) (grid : List Cell) :
    List Cell :=
  spans.foldl (fun grid span => splice grid (offset + span.1) (slice wanted span.1 span.2)) grid

/-- Spans that fit the row change nothing outside of it. -/
theorem paint_within {offset : Nat} {wanted grid : List Cell} {spans : List (Nat × Nat)}
    (fit : Fit wanted.length spans) (room : offset + wanted.length ≤ grid.length) :
    Within offset (offset + wanted.length) grid (paint offset wanted spans grid) := by
  induction spans generalizing grid with
  | nil => exact .refl ..
  | cons span spans ih =>
      have this_fits := fit span List.mem_cons_self
      have first : Within offset (offset + wanted.length) grid
          (splice grid (offset + span.1) (slice wanted span.1 span.2)) := by
        refine .splice (by omega) ?_ room
        rw [Data.length_slice this_fits.1 this_fits.2]
        omega
      refine first.trans (ih (fun other listed => fit other (List.mem_cons_of_mem _ listed)) ?_)
      rw [first.1]
      exact room

/-- A column is as wanted once it is painted, and stays so. -/
theorem getElem?_paint {offset : Nat} {wanted grid : List Cell} {spans : List (Nat × Nat)}
    (fit : Fit wanted.length spans) (room : offset + wanted.length ≤ grid.length) {column : Nat}
    (settled : Covered spans column ∨ grid[offset + column]? = wanted[column]?) :
    (paint offset wanted spans grid)[offset + column]? = wanted[column]? := by
  induction spans generalizing grid with
  | nil =>
      rcases settled with ⟨_, listed, _⟩ | equal
      · cases listed
      · exact equal
  | cons span spans ih =>
      have this_fits := fit span List.mem_cons_self
      have painted : (slice wanted span.1 span.2).length = span.2 - span.1 :=
        Data.length_slice this_fits.1 this_fits.2
      have fitted : offset + span.1 + (slice wanted span.1 span.2).length ≤ grid.length := by omega
      apply ih (fun other listed => fit other (List.mem_cons_of_mem _ listed))
      · rw [Data.length_splice fitted]
        exact room
      · rw [Data.getElem?_splice fitted]
        by_cases here : span.1 ≤ column ∧ column < span.2
        · right
          rw [if_pos (by omega), Data.getElem?_slice (by omega)]
          congr 1
          omega
        · rw [if_neg (by omega)]
          rcases settled with ⟨other, listed, inside⟩ | equal
          · rcases List.mem_cons.mp listed with rfl | listed
            · exact absurd inside here
            · exact .inl ⟨other, listed, inside⟩
          · exact .inr equal

end Ckmux
