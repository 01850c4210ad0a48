import Mathlib
import Ckmux.Client.CopyMode
import Ckmux.Data.Cyclic

/-!
# Searching in copy mode

A search goes on from where the reader is, round the whole document, and finds the column that a
match begins in. A query without a capital does not care about them. The blanks that a line is
filled up with are not searched.
-/

namespace Ckmux

open Data (CyclicNext Finds RowsBefore Searches cyclicSearch rowPlaces)
open Grammar (Bytes)

/-- A letter without its case, of the ASCII letters only. -/
def folded (byte : UInt8) : UInt8 :=
  if 0x41 ≤ byte ∧ byte ≤ 0x5A then byte - 0x41 + 0x61 else byte

/-- Whether a query has a capital letter in it. -/
def hasUpper (text : Bytes) : Bool := text.any fun byte => 0x41 ≤ byte ∧ byte ≤ 0x5A

/-- A line as text, and the column that each byte of it came from. -/
structure SearchableLine where
  text : Bytes
  columns : List Nat

/-- The bytes of a line, each with its column. -/
def lineBytes (line : CopyLine) (fold : Bool) : List (UInt8 × Nat) :=
  line.zipIdx.flatMap fun grapheme =>
    grapheme.1.map fun byte => (if fold then folded byte else byte, grapheme.2)

/-- A line as it is searched: its bytes without the blanks at the end, and the column of each. -/
def searchable (line : CopyLine) (fold : Bool) : SearchableLine :=
  let kept := (lineBytes line fold).rdropWhile fun byte => byte.1 = 0x20
  { text := kept.map Prod.fst, columns := kept.map Prod.snd }

/-- Where a text is found in another, from the left. -/
def offsets (needle text : Bytes) : List Nat :=
  (List.range text.length).filter fun offset => needle.isPrefixOf (text.drop offset)

/-- The columns that a needle is found in, from the left. -/
def SearchableLine.found (line : SearchableLine) (needle : Bytes) : List Int :=
  (offsets needle line.text).map fun offset => (line.columns.getD offset 0 : Nat)

/-- The first of some columns in a window that is open to the right where there is no highest. -/
def firstWithin (lowest : Int) (highest : Option Int) : List Int → Option Int
  | [] => none
  | column :: columns =>
      if highest.any (column > ·) then none
      else if column ≥ lowest then some column
      else firstWithin lowest highest columns

/-- The first of some columns, from the right, in a window. -/
def lastWithin (lowest : Int) (highest : Option Int) : List Int → Option Int
  | [] => none
  | column :: columns =>
      if column < lowest then none
      else if highest.all (column ≤ ·) then some column
      else lastWithin lowest highest columns

/-- The first match that begins in a window, or the last one. -/
def matchIn (line : SearchableLine) (needle : Bytes) (forwards : Bool) (lowest : Int)
    (highest : Option Int) : Option Int :=
  if highest.any (· < lowest) ∨ needle = [] ∨ needle.length > line.text.length then none
  else if forwards then firstWithin lowest highest (line.found needle)
  else lastWithin lowest highest (line.found needle).reverse

/-- Where the next match is: in the row behind the cursor, in the rows after it and around, and at
last before the cursor. -/
def findMatch (lines : List CopyLine) (query : Bytes) (start : Point) (forwards : Bool) :
    Option Point :=
  if query = [] ∨ lines = [] then none
  else
    let count : Int := lines.length
    let row := clampTo start.y 0 (count - 1)
    let startLine := lines.getD row.toNat []
    let column := clampTo start.x 0 startLine.length
    -- a query without a capital does not care about them
    let fold := !hasUpper query
    let needle := if fold then query.map folded else query
    let begun := searchable startLine fold
    let behind :=
      if forwards then matchIn begun needle true (column + 1) none
      else matchIn begun needle false 0 (some (column - 1))
    match behind with
    | some hit => some ⟨hit, row⟩
    | none =>
        let around := (List.range' 1 (lines.length - 1)).findSome? fun step : Nat =>
          let index :=
            if forwards then (row + step).tmod count
            else ((row - step).tmod count + count).tmod count
          (matchIn (searchable (lines.getD index.toNat []) fold) needle forwards 0 none).map
            fun hit => (⟨hit, index⟩ : Point)
        match around with
        | some hit => some hit
        | none =>
            -- the side of the starting line that the search began past
            let before :=
              if forwards then matchIn begun needle true 0 (some column)
              else matchIn begun needle false column none
            before.map fun hit => ⟨hit, row⟩

/-! ### What a line is searched as -/

/-- A text as a query is compared with it: with its case where the query has a capital. -/
def smartCase (query text : Bytes) : Bytes := if hasUpper query then text else text.map folded

/-- A byte of a line lies in a column. -/
def ColumnOf (line : CopyLine) (offset column : Nat) : Prop :=
  (line.take column).flatten.length ≤ offset ∧ offset < (line.take (column + 1)).flatten.length

/-- A query begins in a column of a line. -/
def BeginsIn (line : CopyLine) (query : Bytes) (column : Nat) : Prop :=
  ∃ offset, smartCase query query <+: (trimBlanks (smartCase query line.flatten)).drop offset ∧
    ColumnOf line offset column ∧ offset < (trimBlanks (smartCase query line.flatten)).length

/-- Renaming makes no difference to what is dropped at the end. -/
theorem rdropWhile_map {A B : Type} (rename : A → B) (drops : B → Bool) (list : List A) :
    (list.map rename).rdropWhile drops = (list.rdropWhile (drops ∘ rename)).map rename := by
  simp only [List.rdropWhile, ← List.map_reverse, List.dropWhile_map]

/-- A line's bytes are its text, in small letters if case is ignored. -/
theorem lineBytes_text (line : CopyLine) (fold : Bool) :
    (lineBytes line fold).map Prod.fst =
      if fold then line.flatten.map folded else line.flatten := by
  have each (letter : UInt8 → UInt8) (start : Nat) :
      ((line.zipIdx start).flatMap fun grapheme =>
        grapheme.1.map fun byte => (letter byte, grapheme.2)).map Prod.fst =
          line.flatten.map letter := by
    induction line generalizing start with
    | nil => rfl
    | cons grapheme line ih =>
        rw [List.zipIdx_cons, List.flatMap_cons, List.map_append, ih, List.flatten_cons,
          List.map_append, List.map_map]
        rfl
  rw [lineBytes]
  cases fold with
  | true => exact each folded 0
  | false => exact (each id 0).trans (List.map_id _)

/-- What is searched is the line's text without its blanks at the end. -/
theorem searchable_text (line : CopyLine) (query : Bytes) :
    (searchable line (!hasUpper query)).text = trimBlanks (smartCase query line.flatten) := by
  rw [searchable, smartCase]
  dsimp only
  have trimmed := rdropWhile_map Prod.fst (fun byte : UInt8 => decide (byte = 0x20))
    (lineBytes line (!hasUpper query))
  rw [lineBytes_text] at trimmed
  rw [trimBlanks]
  cases upper : hasUpper query <;> simp_all [Function.comp_def]

/-- The first column has the first grapheme's bytes. -/
theorem columnOf_zero {grapheme : Bytes} {line : CopyLine} {offset : Nat} :
    ColumnOf (grapheme :: line) offset 0 ↔ offset < grapheme.length := by
  simp [ColumnOf]

/-- A later column has the bytes behind the graphemes before it. -/
theorem columnOf_succ {grapheme : Bytes} {line : CopyLine} {offset column : Nat} :
    ColumnOf (grapheme :: line) offset (column + 1) ↔
      grapheme.length ≤ offset ∧ ColumnOf line (offset - grapheme.length) column := by
  simp only [ColumnOf, List.take_succ_cons, List.flatten_cons, List.length_append]
  omega

/-- The column kept beside a byte is the one it is drawn in. -/
theorem lineBytes_column (line : CopyLine) (fold : Bool) {offset column : Nat} :
    ((lineBytes line fold).map Prod.snd)[offset]? = some column ↔ ColumnOf line offset column := by
  have each (letter : UInt8 → UInt8) (start offset column : Nat) :
      (((line.zipIdx start).flatMap fun grapheme =>
        grapheme.1.map fun byte => (letter byte, grapheme.2)).map Prod.snd)[offset]? =
          some (start + column) ↔ ColumnOf line offset column := by
    induction line generalizing start offset column with
    | nil => simp [ColumnOf]
    | cons grapheme line ih =>
        have columns_eq : (grapheme.map fun byte => (letter byte, start)).map Prod.snd =
            List.replicate grapheme.length start := by
          rw [List.map_map]
          exact List.map_const ..
        rw [List.zipIdx_cons, List.flatMap_cons, List.map_append, columns_eq]
        by_cases here : offset < grapheme.length
        · rw [List.getElem?_append_left (by simpa using here), List.getElem?_replicate_of_lt here]
          cases column with
          | zero => simp [columnOf_zero, here]
          | succ column => simp [columnOf_succ, here]
        · rw [List.getElem?_append_right (by simpa using here), List.length_replicate]
          cases column with
          | zero =>
              simp only [columnOf_zero, here, iff_false]
              intro there
              obtain ⟨_, byte, column_eq⟩ := List.mem_map.mp (List.mem_of_getElem? there)
              obtain ⟨_, listed, byte⟩ := List.mem_flatMap.mp byte
              obtain ⟨_, _, rfl⟩ := List.mem_map.mp byte
              have after := List.le_snd_of_mem_zipIdx listed
              dsimp only at column_eq
              omega
          | succ column =>
              rw [columnOf_succ, ← ih (start + 1)]
              simp only [not_lt.mp here, true_and, Nat.add_comm 1, Nat.add_assoc]
  have zero := each (if fold then folded else id) 0 offset column
  rw [Nat.zero_add] at zero
  rw [← zero, lineBytes]
  cases fold <;> rfl

/-! ### The columns that a query is found in -/

/-- The columns are those of the bytes that are searched. -/
theorem searchable_column {line : CopyLine} {fold : Bool} {offset column : Nat}
    (inside : offset < (searchable line fold).text.length) :
    (searchable line fold).columns.getD offset 0 = column ↔ ColumnOf line offset column := by
  have kept : (searchable line fold).columns <+: (lineBytes line fold).map Prod.snd :=
    (List.rdropWhile_prefix _ _).map _
  have length_eq : (searchable line fold).columns.length = (searchable line fold).text.length := by
    simp [searchable]
  have there : offset < (searchable line fold).columns.length := by omega
  rw [← lineBytes_column line fold, List.getD_eq_getElem _ _ there, kept.getElem there,
    List.getElem?_eq_getElem (there.trans_le kept.length_le), Option.some_inj]

/-- An offset is listed if the needle is there. -/
theorem mem_offsets {needle text : Bytes} {offset : Nat} :
    offset ∈ offsets needle text ↔ offset < text.length ∧ needle <+: text.drop offset := by
  rw [offsets, List.mem_filter, List.mem_range, List.isPrefixOf_iff_prefix]

/-- A column is found if a match begins in it. -/
theorem mem_found {line : CopyLine} {query : Bytes} {column : Int} :
    column ∈ (searchable line (!hasUpper query)).found (smartCase query query) ↔
      ∃ begins : Nat, column = begins ∧ BeginsIn line query begins := by
  simp only [SearchableLine.found, List.mem_map, mem_offsets, ← searchable_text, BeginsIn]
  constructor
  · rintro ⟨offset, ⟨inside, starts⟩, rfl⟩
    exact ⟨_, rfl, offset, starts, (searchable_column inside).mp rfl, inside⟩
  · rintro ⟨begins, rfl, offset, starts, lies, inside⟩
    exact ⟨offset, ⟨inside, starts⟩, congrArg Nat.cast ((searchable_column inside).mpr lies)⟩

/-- More graphemes have no fewer bytes. -/
theorem flatten_take_le (line : CopyLine) {fewer more : Nat} (le : fewer ≤ more) :
    (line.take fewer).flatten.length ≤ (line.take more).flatten.length := by
  obtain ⟨rest, rfl⟩ := Nat.exists_eq_add_of_le le
  rw [List.take_add, List.flatten_append, List.length_append]
  exact Nat.le_add_right ..

/-- Later bytes lie in no earlier columns. -/
theorem ColumnOf.le {line : CopyLine} {offset other column later : Nat}
    (lies : ColumnOf line offset column) (follows : ColumnOf line other later)
    (after : offset ≤ other) : column ≤ later := by
  by_contra before
  have fewer := flatten_take_le line (show later + 1 ≤ column by omega)
  have := lies.1
  have := follows.2
  omega

/-- Matches are found from left to right. -/
theorem found_sorted (line : CopyLine) (fold : Bool) (needle : Bytes) :
    ((searchable line fold).found needle).Pairwise (· ≤ ·) := by
  have increasing : (offsets needle (searchable line fold).text).Pairwise (· < ·) :=
    List.pairwise_lt_range.filter _
  rw [SearchableLine.found, List.pairwise_map]
  refine increasing.imp_of_mem fun first_in second_in before => ?_
  have first_lies := (searchable_column (mem_offsets.mp first_in).1).mp rfl
  have second_lies := (searchable_column (mem_offsets.mp second_in).1).mp rfl
  exact Nat.cast_le.mpr (first_lies.le second_lies before.le)

/-! ### The match that a window has -/

/-- A column lies in a window. -/
def InWindow (lowest : Int) (highest : Option Int) (column : Int) : Prop :=
  lowest ≤ column ∧ ∀ bound ∈ highest, column ≤ bound

/-- A column not beyond the window's end is in it. -/
theorem within_above {lowest column : Int} {highest : Option Int} (above : lowest ≤ column)
    (inside : ¬highest.any (column > ·) = true) : InWindow lowest highest column := by
  refine ⟨above, fun bound has => ?_⟩
  rw [Option.mem_def.mp has, Option.any_some, decide_eq_true_eq] at inside
  exact not_lt.mp inside

/-- Right of the window's end nothing is in it. -/
theorem not_within_beyond {lowest column other : Int} {highest : Option Int}
    (beyond : highest.any (column > ·) = true) (right : column ≤ other) :
    ¬InWindow lowest highest other := by
  rintro ⟨_, inside⟩
  cases bounded : highest with
  | none => rw [bounded] at beyond; cases beyond
  | some bound =>
      rw [bounded, Option.any_some, decide_eq_true_eq] at beyond
      have := inside bound bounded
      omega

/-- From the left, the first column in a window is its least. -/
theorem firstWithin_finds (lowest : Int) (highest : Option Int) {columns : List Int}
    (sorted : columns.Pairwise (· ≤ ·)) :
    Finds {column | column ∈ columns} (InWindow lowest highest)
      (firstWithin lowest highest columns) := by
  induction columns with
  | nil => exact .nothing fun _ listed => by cases listed
  | cons column columns ih =>
      obtain ⟨least, sorted⟩ := List.pairwise_cons.mp sorted
      have first : ∀ other ∈ column :: columns, column ≤ other :=
        List.forall_mem_cons.mpr ⟨le_refl _, least⟩
      rw [firstWithin]
      split
      · rename_i beyond
        exact .nothing fun other listed => not_within_beyond beyond (first other listed)
      · rename_i inside
        split
        · rename_i reached
          exact .least List.mem_cons_self (within_above reached inside)
            fun other listed _ => first other listed
        · rename_i before
          refine (ih sorted).congr fun other within => List.mem_cons.trans (or_iff_right ?_)
          rintro rfl
          exact before within.1

/-- From the right, the first column in a window is its greatest. -/
theorem lastWithin_finds (lowest : Int) (highest : Option Int) {columns : List Int}
    (sorted : columns.Pairwise (· ≥ ·)) :
    Finds {column | -column ∈ columns} (fun column => InWindow lowest highest (-column))
      ((lastWithin lowest highest columns).map Neg.neg) := by
  induction columns with
  | nil => exact .nothing fun _ listed => by cases listed
  | cons column columns ih =>
      obtain ⟨greatest, sorted⟩ := List.pairwise_cons.mp sorted
      have first : ∀ other ∈ column :: columns, other ≤ column :=
        List.forall_mem_cons.mpr ⟨le_refl _, greatest⟩
      rw [lastWithin]
      split
      · rename_i below
        refine .nothing fun other listed within => ?_
        exact absurd (within.1.trans (first _ listed)) (not_le.mpr below)
      · rename_i above
        split
        · rename_i inside
          rw [Option.map_some]
          refine .least (show - -column ∈ column :: columns by simp) ⟨?_, fun bound has => ?_⟩ ?_
          · rw [neg_neg]
            exact not_lt.mp above
          · rw [neg_neg]
            rw [Option.mem_def.mp has] at inside
            exact of_decide_eq_true inside
          · intro other listed _
            have := first _ listed
            omega
        · rename_i beyond
          refine (ih sorted).congr fun other within => List.mem_cons.trans (or_iff_right ?_)
          intro same
          rw [same] at within
          apply beyond
          cases bounded : highest with
          | none => rfl
          | some bound => exact decide_eq_true (within.2 bound bounded)

/-- A needle longer than the text is not in it. -/
theorem found_nil {line : SearchableLine} {needle : Bytes} (longer : needle.length > line.text.length) :
    line.found needle = [] := by
  rw [SearchableLine.found, List.map_eq_nil_iff, List.eq_nil_iff_forall_not_mem]
  intro offset listed
  have fits := (mem_offsets.mp listed).2.length_le
  rw [List.length_drop] at fits
  omega

section

variable {line : SearchableLine} {needle : Bytes} {lowest : Int} {highest : Option Int}

/-- Where the search of a window is left at once, there is nothing in it. -/
theorem guarded_nothing (filled : needle ≠ [])
    (guarded : highest.any (· < lowest) = true ∨ needle = [] ∨ needle.length > line.text.length) :
    ∀ other ∈ line.found needle, ¬InWindow lowest highest other := by
  rintro other listed ⟨above, below⟩
  rcases guarded with empty | none_asked | longer
  · cases bounded : highest with
    | none => rw [bounded] at empty; cases empty
    | some bound =>
        rw [bounded, Option.any_some, decide_eq_true_eq] at empty
        have := below bound bounded
        omega
  · exact filled none_asked
  · rw [found_nil longer] at listed
    cases listed

/-- Forwards, the match found in a window is its leftmost. -/
theorem matchIn_forwards (filled : needle ≠ []) (sorted : (line.found needle).Pairwise (· ≤ ·)) :
    Finds {column | column ∈ line.found needle} (InWindow lowest highest)
      (matchIn line needle true lowest highest) := by
  rw [matchIn]
  split
  · rename_i guarded
    exact .nothing (guarded_nothing filled guarded)
  · exact firstWithin_finds lowest highest sorted

/-- Backwards, it is the rightmost. -/
theorem matchIn_backwards (filled : needle ≠ []) (sorted : (line.found needle).Pairwise (· ≤ ·)) :
    Finds {column | -column ∈ line.found needle} (fun column => InWindow lowest highest (-column))
      ((matchIn line needle false lowest highest).map Neg.neg) := by
  rw [matchIn]
  split
  · rename_i guarded
    exact .nothing fun other listed => guarded_nothing filled guarded _ listed
  · refine (lastWithin_finds lowest highest (List.pairwise_reverse.mpr sorted)).congr ?_
    exact fun column _ => List.mem_reverse.symm

end

/-! ### The matches of a document -/

/-- On an earlier line, or further left on the same. -/
def Point.Before (first second : Point) : Prop :=
  first.y < second.y ∨ first.y = second.y ∧ first.x < second.x

/-- One point is met before another, in a direction. -/
def Point.Meets (forwards : Bool) (first second : Point) : Prop :=
  if forwards then first.Before second else second.Before first

instance (forwards : Bool) : IsStrictTotalOrder Point (Point.Meets forwards) where
  trichotomous first second apart back := by
    cases first
    cases second
    simp only [Point.Meets, Point.Before, Point.mk.injEq] at *
    split at apart <;> simp_all <;> omega
  irrefl point meets := by
    simp only [Point.Meets, Point.Before] at meets
    split at meets <;> omega
  trans first second third meets again := by
    simp only [Point.Meets, Point.Before] at *
    split at meets <;> simp_all <;> omega

/-- Where a query begins in a document. -/
def matchStarts (lines : List CopyLine) (query : Bytes) : Set Point :=
  {place | 0 ≤ place.y ∧ place.y < lines.length ∧ ∃ begins : Nat, place.x = begins ∧
    BeginsIn (lines.getD place.y.toNat []) query begins}

/-- Where a search begins: on a line of the document, and no further right than behind its end. -/
def clampedStart (lines : List CopyLine) (start : Point) : Point :=
  let row := clampTo start.y 0 (lines.length - 1)
  ⟨clampTo start.x 0 (lines.getD row.toNat []).length, row⟩

/-- The columns that a query begins in, on a line of the document. -/
def foundIn (lines : List CopyLine) (query : Bytes) (row : Int) : List Int :=
  (searchable (lines.getD row.toNat []) (!hasUpper query)).found (smartCase query query)

/-- The rows and columns of a document, counted in the direction that is searched in. -/
def rank (forwards : Bool) (count : Int) (place : Point) : Int × Int :=
  if forwards then (place.y, place.x) else (count - 1 - place.y, -place.x)

/-- A place again, by its rank. -/
def unrank (forwards : Bool) (count : Int) (place : Int × Int) : Point :=
  if forwards then ⟨place.2, place.1⟩ else ⟨-place.2, count - 1 - place.1⟩

/-- The columns of a row where a query begins, both counted in the direction searched in. -/
def rankColumns (forwards : Bool) (lines : List CopyLine) (query : Bytes) (row : Int) : Set Int :=
  {column | (unrank forwards lines.length (row, column)).x ∈
    foundIn lines query (unrank forwards lines.length (row, column)).y}

section

variable {forwards : Bool} {lines : List CopyLine} {query : Bytes} {count : Int}

/-- A place is the rank of what has that rank. -/
@[simp] theorem rank_unrank (place : Int × Int) :
    rank forwards count (unrank forwards count place) = place := by
  cases forwards <;> simp [rank, unrank]

/-- A place is had back from its rank. -/
@[simp] theorem unrank_rank (place : Point) :
    unrank forwards count (rank forwards count place) = place := by
  cases forwards <;> simp [rank, unrank]

/-- Ranks go up in the order places are met. -/
theorem rank_before (first second : Point) :
    RowsBefore (rank forwards count first) (rank forwards count second) ↔
      first.Meets forwards second := by
  cases forwards
  · simp [RowsBefore, rank, Point.Meets, Point.Before]
    omega
  · simp [RowsBefore, rank, Point.Meets, Point.Before]

/-- A place is among the ranked ones if a match starts there. -/
theorem mem_rankPlaces (place : Point) :
    rank forwards lines.length place ∈
        rowPlaces lines.length (rankColumns forwards lines query) ↔
      place ∈ matchStarts lines query := by
  have columns : (rank forwards lines.length place).2 ∈
      rankColumns forwards lines query (rank forwards lines.length place).1 ↔
        ∃ begins : Nat, place.x = begins ∧
          BeginsIn (lines.getD place.y.toNat []) query begins := by
    rw [rankColumns, Set.mem_ofPred_eq, Prod.mk.eta, unrank_rank, foundIn, mem_found]
  rw [rowPlaces, Set.mem_ofPred_eq, columns, matchStarts, Set.mem_ofPred_eq, ← and_assoc, ← and_assoc]
  refine and_congr_left fun _ => ?_
  cases forwards
  · simp only [rank]
    simp only [Bool.false_eq_true, if_false]
    omega
  · simp [rank]

/-- Where what is found in ranks comes next, so does what is found. -/
theorem cyclicNext_of_rank {start next : Point}
    (goes : CyclicNext RowsBefore (rowPlaces lines.length (rankColumns forwards lines query))
      (rank forwards lines.length start) (rank forwards lines.length next)) :
    CyclicNext (Point.Meets forwards) (matchStarts lines query) start next :=
  goes.comap rank_before mem_rankPlaces fun place _ => ⟨unrank forwards _ place, rank_unrank place⟩

end

/-! ### What a search finds -/

/-- What is searched of one row, its columns counted in the direction that is searched in. -/
def rankMatch (forwards : Bool) (lines : List CopyLine) (query : Bytes) (row : Int) (lowest : Int)
    (highest : Option Int) : Option Int :=
  let hit := matchIn (searchable (lines.getD (unrank forwards lines.length (row, 0)).y.toNat [])
    (!hasUpper query)) (smartCase query query) forwards lowest highest
  if forwards then hit else hit.map Neg.neg

section

variable {lines : List CopyLine} {query : Bytes} {lowest : Int} {highest : Option Int}

/-- A query is not made empty by ignoring case. -/
theorem smartCase_ne_nil (filled : query ≠ []) : smartCase query query ≠ [] := by
  rw [smartCase]
  split
  · exact filled
  · simpa using filled

/-- No match begins before the first column. -/
theorem found_nonneg {line : SearchableLine} {needle : Bytes} {column : Int}
    (listed : column ∈ line.found needle) : 0 ≤ column := by
  obtain ⟨offset, _, rfl⟩ := List.mem_map.mp listed
  exact Int.natCast_nonneg _

/-- In a row, the least rank in a window is found. -/
theorem rankMatch_finds (filled : query ≠ []) (forwards : Bool) (row : Int) :
    Finds (rankColumns forwards lines query row)
      (fun column => InWindow lowest highest (if forwards then column else -column))
      (rankMatch forwards lines query row lowest highest) := by
  have sorted := found_sorted (lines.getD (unrank forwards lines.length (row, 0)).y.toNat [])
    (!hasUpper query) (smartCase query query)
  cases forwards with
  | true => exact matchIn_forwards (smartCase_ne_nil filled) sorted
  | false =>
      have finds := @matchIn_backwards _ _ lowest highest (smartCase_ne_nil filled) sorted
      simp only [rankMatch, Bool.false_eq_true, if_false]
      exact finds

/-- The row that is looked at is the one that the rank names, whichever way the search goes. -/
theorem tmod_rank {row step count : Int} (first : 0 ≤ row) (last : row < count) :
    ((row - step).tmod count + count).tmod count = (row - step) % count ∧
      (count - 1 - row + step) % count = count - 1 - (row - step) % count := by
  have positive : 0 < count := by omega
  have below := Int.tmod_lt_of_pos (row - step) positive
  have above := Int.lt_tmod_of_pos (row - step) positive
  constructor
  · rw [Int.tmod_eq_emod_of_nonneg (by omega), Int.add_emod_right, Int.tmod_def, sub_eq_add_neg,
      ← mul_neg, Int.add_mul_emod_self_left]
  · have small := Int.emod_lt_of_pos (row - step) positive
    have nonneg := Int.emod_nonneg (row - step) positive.ne'
    have parts := Int.emod_add_mul_ediv (row - step) count
    have moved : count - 1 - row + step =
        (count - 1 - (row - step) % count) + count * -((row - step) / count) := by
      rw [mul_neg]
      omega
    rw [moved, Int.add_mul_emod_self_left, Int.emod_eq_of_lt (by omega) (by omega)]

/-- A search looks at its own row first, then at the others in turn, then at its own again. -/
theorem findMatch_or (filled : query ≠ []) (written : lines ≠ []) (start place : Point)
    (clamped : clampedStart lines start = place) (forwards : Bool) :
    findMatch lines query start forwards =
      ((if forwards then
          matchIn (searchable (lines.getD place.y.toNat []) (!hasUpper query))
            (smartCase query query) true (place.x + 1) none
        else
          matchIn (searchable (lines.getD place.y.toNat []) (!hasUpper query))
            (smartCase query query) false 0 (some (place.x - 1))).map
              fun hit => (⟨hit, place.y⟩ : Point)).or
      (((List.range' 1 (lines.length - 1)).findSome? fun step : Nat =>
          let index :=
            if forwards then (place.y + step).tmod lines.length
            else ((place.y - step).tmod lines.length + lines.length).tmod lines.length
          (matchIn (searchable (lines.getD index.toNat []) (!hasUpper query))
            (smartCase query query) forwards 0 none).map fun hit => (⟨hit, index⟩ : Point)).or
        ((if forwards then
            matchIn (searchable (lines.getD place.y.toNat []) (!hasUpper query))
              (smartCase query query) true 0 (some place.x)
          else
            matchIn (searchable (lines.getD place.y.toNat []) (!hasUpper query))
              (smartCase query query) false place.x none).map
                fun hit => (⟨hit, place.y⟩ : Point))) := by
  have needle_eq : (if (!hasUpper query) = true then query.map folded else query) =
      smartCase query query := by
    rw [smartCase]
    cases hasUpper query <;> rfl
  obtain ⟨column, row⟩ := place
  obtain ⟨rfl, rfl⟩ := Point.mk.inj clamped
  rw [findMatch, if_neg (not_or.mpr ⟨filled, written⟩)]
  dsimp only
  rw [needle_eq]
  split
  · rename_i hit found
    rw [found]
    rfl
  · rename_i missed
    rw [missed]
    split
    · rename_i hit found
      rw [found]
      rfl
    · rename_i missed
      rw [missed]
      rfl

/-- What is found in a row, taken back to the document. -/
theorem unrank_rankMatch (forwards : Bool) (row : Int) :
    ((rankMatch forwards lines query row lowest highest).map fun hit =>
        unrank forwards lines.length (row, hit)) =
      (matchIn (searchable (lines.getD (unrank forwards lines.length (row, 0)).y.toNat [])
        (!hasUpper query)) (smartCase query query) forwards lowest highest).map fun hit =>
          ⟨hit, (unrank forwards lines.length (row, 0)).y⟩ := by
  cases forwards with
  | true => rfl
  | false =>
      simp only [rankMatch, Bool.false_eq_true, if_false, Option.map_map]
      congr 1
      funext hit
      simp [unrank]

/-- Counted in the direction that is searched in, a search goes from row to row. -/
theorem findMatch_rank (filled : query ≠ []) {start place : Point}
    (clamped : clampedStart lines start = place) (first : 0 ≤ place.y)
    (last : place.y < lines.length) (forwards : Bool) :
    let row := (rank forwards lines.length place).1
    findMatch lines query start forwards =
      (cyclicSearch lines.length row
        (rankMatch forwards lines query row (if forwards then place.x + 1 else 0)
          (if forwards then none else some (place.x - 1)))
        (fun step => rankMatch forwards lines query ((row + step) % lines.length) 0 none)
        (rankMatch forwards lines query row (if forwards then 0 else place.x)
          (if forwards then some place.x else none))).map (unrank forwards lines.length) := by
  have written : lines ≠ [] := by
    rintro rfl
    rw [List.length_nil] at last
    omega
  intro row
  have back : (unrank forwards lines.length (row, 0)).y = place.y := by
    cases forwards <;> simp [row, rank, unrank]
  have stepped (step : Nat) : (if forwards then (place.y + step).tmod lines.length
      else ((place.y - step).tmod lines.length + lines.length).tmod lines.length) =
        (unrank forwards lines.length ((row + step) % lines.length, 0)).y := by
    cases forwards with
    | true => exact Int.tmod_eq_emod_of_nonneg (by omega)
    | false =>
        obtain ⟨code, ranked⟩ := @tmod_rank place.y step lines.length first last
        simp only [row, rank, unrank, Bool.false_eq_true, if_false, code, ranked]
        omega
  have within := @unrank_rankMatch lines query
  rw [findMatch_or filled written start place clamped, cyclicSearch, Option.map_or, Option.map_or,
    Option.map_map, Option.map_map, List.map_findSome?]
  simp only [stepped, Option.map_map, Function.comp_def, within, back]
  cases forwards <;> rfl

/-- Going backwards columns are counted below nought. -/
theorem rankColumns_nonneg {forwards : Bool} {row column : Int}
    (there : column ∈ rankColumns forwards lines query row) :
    0 ≤ if forwards then column else -column := by
  cases forwards with
  | true => exact found_nonneg there
  | false => exact found_nonneg there

/-- What a search looks at is every row in the order of the ranks. -/
theorem rank_searches (filled : query ≠ []) {place : Point} (first : 0 ≤ place.y)
    (last : place.y < lines.length) (forwards : Bool) :
    let row := (rank forwards lines.length place).1
    Searches lines.length row (rank forwards lines.length place).2 (rankColumns forwards lines query)
      (rankMatch forwards lines query row (if forwards then place.x + 1 else 0)
        (if forwards then none else some (place.x - 1)))
      (fun step => rankMatch forwards lines query ((row + step) % lines.length) 0 none)
      (rankMatch forwards lines query row (if forwards then 0 else place.x)
        (if forwards then some place.x else none)) := by
  intro row
  constructor
  case first =>
    cases forwards with
    | true => exact first
    | false => simp [row, rank]; omega
  case last =>
    cases forwards with
    | true => exact last
    | false => simp [row, rank]; omega
  case behind =>
    refine (rankMatch_finds filled forwards row).congr_window fun column there => ?_
    have nonneg := rankColumns_nonneg there
    cases forwards with
    | true => simp [rank, InWindow]
    | false => simp [rank, InWindow] at nonneg ⊢; omega
  case around =>
    intro step _ _
    refine (rankMatch_finds filled forwards _).congr_window fun column there => ?_
    simpa [InWindow] using rankColumns_nonneg there
  case before =>
    refine (rankMatch_finds filled forwards row).congr_window fun column there => ?_
    have nonneg := rankColumns_nonneg there
    cases forwards with
    | true => simpa [rank, InWindow] using fun _ => nonneg
    | false => simp [rank, InWindow]; omega

/-- A search begins in a row that is there. -/
theorem clampedStart_within (written : lines ≠ []) (start : Point) :
    0 ≤ (clampedStart lines start).y ∧ (clampedStart lines start).y < lines.length := by
  have positive := List.length_pos_iff.mpr written
  simp only [clampedStart, clampTo]
  omega

/-- What is found is the next match, round the document. -/
theorem findMatch_next (filled : query ≠ []) {start place : Point} {forwards : Bool}
    (found : findMatch lines query start forwards = some place) :
    CyclicNext (Point.Meets forwards) (matchStarts lines query) (clampedStart lines start) place := by
  have written : lines ≠ [] := by
    rintro rfl
    rw [findMatch, if_pos (.inr rfl)] at found
    cases found
  obtain ⟨first, last⟩ := clampedStart_within written start
  rw [findMatch_rank filled rfl first last] at found
  obtain ⟨ranked, searched, rfl⟩ := Option.map_eq_some_iff.mp found
  have goes := (rank_searches filled first last forwards).cyclicNext searched
  refine cyclicNext_of_rank ?_
  rw [rank_unrank]
  exact goes

/-- Nothing is found where nothing matches. -/
theorem findMatch_none (filled : query ≠ []) {start : Point} {forwards : Bool}
    (missed : findMatch lines query start forwards = none) : matchStarts lines query = ∅ := by
  refine Set.eq_empty_iff_forall_notMem.mpr fun place there => ?_
  have written : lines ≠ [] := by
    rintro rfl
    have := there.2.1
    have := there.1
    rw [List.length_nil] at *
    omega
  obtain ⟨first, last⟩ := clampedStart_within written start
  rw [findMatch_rank filled rfl first last, Option.map_eq_none_iff] at missed
  have empty := (rank_searches filled first last forwards).nothing missed
  have ranked : rank forwards lines.length place ∈ _ := (mem_rankPlaces place).mpr there
  rw [empty] at ranked
  exact ranked

/-! ### Going on from match to match -/

/-- A byte's column is one of the line's. -/
theorem ColumnOf.lt_length {line : CopyLine} {offset column : Nat}
    (lies : ColumnOf line offset column) : column < line.length := by
  by_contra beyond
  obtain ⟨left, right⟩ := lies
  rw [List.take_of_length_le (by omega)] at left right
  omega

/-- A match is on the document already. -/
theorem clampedStart_match {place : Point} (there : place ∈ matchStarts lines query) :
    clampedStart lines place = place := by
  obtain ⟨first, last, begins, x_eq, offset, _, lies, _⟩ := there
  have inside := lies.lt_length
  obtain ⟨x, y⟩ := place
  dsimp only at first last x_eq inside
  have row_eq : clampTo y 0 (lines.length - 1) = y := by
    simp only [clampTo]
    omega
  have column_eq : clampTo x 0 (lines.getD y.toNat []).length = x := by
    simp only [clampTo]
    omega
  simp only [clampedStart, row_eq, column_eq]

/-- There are finitely many matches. -/
theorem matchStarts_finite (lines : List CopyLine) (query : Bytes) :
    (matchStarts lines query).Finite := by
  have listed : matchStarts lines query ⊆ {place | place ∈ (List.range lines.length).flatMap
      fun row : Nat => (foundIn lines query row).map fun column => ⟨column, row⟩} := by
    rintro ⟨x, y⟩ ⟨first, last, begins⟩
    dsimp only at first last begins
    have small : y.toNat < lines.length := by omega
    refine List.mem_flatMap.mpr ⟨y.toNat, List.mem_range.mpr small,
      List.mem_map.mpr ⟨x, mem_found.mpr ?_, ?_⟩⟩
    · simpa [Int.toNat_of_nonneg first] using begins
    · rw [Int.toNat_of_nonneg first]
  exact (List.finite_toSet _).subset listed

/-- A query begins in a line that contains it, and in no other. -/
theorem begins_iff_contained {line : CopyLine} (filled : query ≠ []) :
    (∃ column, BeginsIn line query column) ↔
      smartCase query query <:+: trimBlanks (smartCase query line.flatten) := by
  rw [List.infix_iff_prefix_suffix]
  constructor
  · rintro ⟨column, offset, starts, _, _⟩
    exact ⟨_, starts, List.drop_suffix ..⟩
  · rintro ⟨rest, starts, ends⟩
    have inside := List.length_pos_iff.mpr (smartCase_ne_nil filled)
    have fits := starts.length_le
    have shorter := ends.length_le
    rw [List.suffix_iff_eq_drop.mp ends] at starts
    have before : (trimBlanks (smartCase query line.flatten)).length - rest.length <
        (trimBlanks (smartCase query line.flatten)).length := by omega
    have inside := before
    rw [← searchable_text] at inside
    have lies := (searchable_column inside).mp rfl
    rw [searchable_text] at lies
    exact ⟨_, _, starts, lies, before⟩

/-- There is a match exactly if some line's text has the query in it. -/
theorem matchStarts_nonempty (filled : query ≠ []) :
    (matchStarts lines query).Nonempty ↔
      ∃ line ∈ lines, smartCase query query <:+: trimBlanks (smartCase query line.flatten) := by
  constructor
  · rintro ⟨place, first, last, begins, _, there⟩
    refine ⟨_, ?_, (begins_iff_contained filled).mp ⟨begins, there⟩⟩
    rw [List.getD_eq_getElem _ _ (by omega)]
    exact List.getElem_mem _
  · rintro ⟨line, listed, contains⟩
    obtain ⟨begins, there⟩ := (begins_iff_contained filled).mpr contains
    obtain ⟨row, small, rfl⟩ := List.getElem_of_mem listed
    refine ⟨⟨begins, row⟩, Int.natCast_nonneg _, Nat.cast_lt.mpr small, begins, rfl, ?_⟩
    dsimp only
    rwa [Int.toNat_natCast, List.getD_eq_getElem _ _ small]

/-- Something is found where there is something. -/
theorem findMatch_isSome (filled : query ≠ []) (start : Point) (forwards : Bool) :
    (findMatch lines query start forwards).isSome ↔ (matchStarts lines query).Nonempty := by
  constructor
  · intro found
    obtain ⟨place, found⟩ := Option.isSome_iff_exists.mp found
    exact ⟨place, (findMatch_next filled found).mem⟩
  · rintro ⟨place, there⟩
    by_contra missed
    rw [Option.not_isSome_iff_eq_none] at missed
    rw [findMatch_none filled missed] at there
    exact there

end

/-- The match that a search from here goes to. -/
def nextMatch (lines : List CopyLine) (query : Bytes) (forwards : Bool) (place : Point) : Point :=
  (findMatch lines query place forwards).getD place

end Ckmux
