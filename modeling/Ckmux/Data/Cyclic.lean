import Mathlib

/-!
# Going round in circles

Places that lie before and behind each other are visited in turn, and after the last the first
comes again. Whoever goes from each to the next visits all of them once and is back.
-/

namespace Ckmux

namespace Data

variable {A B : Type}

/-- The first place behind a start, or the first of all where there is none behind it. -/
structure CyclicNext (before : A → A → Prop) (places : Set A) (start next : A) : Prop where
  mem : next ∈ places
  after : (∃ place ∈ places, before start place) →
    before start next ∧ ∀ place ∈ places, before start place → ¬before place next
  wraps : (¬∃ place ∈ places, before start place) → ∀ place ∈ places, ¬before place next

namespace CyclicNext

variable {before : A → A → Prop}

/-- Places may be renamed, as long as they lie before and behind each other as they did. -/
theorem comap {other : B → B → Prop} {rename : A → B} {places : Set A} {renamed : Set B}
    {start next : A} (order : ∀ first second, other (rename first) (rename second) ↔
      before first second) (same : ∀ place, rename place ∈ renamed ↔ place ∈ places)
    (onto : ∀ place ∈ renamed, ∃ old, rename old = place)
    (goes : CyclicNext other renamed (rename start) (rename next)) :
    CyclicNext before places start next := by
  have behind : (∃ place ∈ renamed, other (rename start) place) ↔
      ∃ place ∈ places, before start place := by
    constructor
    · rintro ⟨place, there, later⟩
      obtain ⟨old, rfl⟩ := onto place there
      exact ⟨old, (same old).mp there, (order ..).mp later⟩
    · rintro ⟨place, there, later⟩
      exact ⟨rename place, (same place).mpr there, (order ..).mpr later⟩
  constructor
  case mem => exact (same next).mp goes.mem
  case after =>
    intro some_behind
    obtain ⟨later, least⟩ := goes.after (behind.mpr some_behind)
    refine ⟨(order ..).mp later, fun place there behind_start earlier => ?_⟩
    exact least _ ((same place).mpr there) ((order ..).mpr behind_start) ((order ..).mpr earlier)
  case wraps =>
    intro none_behind place there earlier
    exact goes.wraps (fun some_behind => none_behind (behind.mp some_behind)) _
      ((same place).mpr there) ((order ..).mpr earlier)

section

variable [IsStrictTotalOrder A before] {places : Finset A} {go : A → A}

/-- In their order, a place is followed by the next one, and the last by the first. -/
theorem go_enum (goes : ∀ place ∈ places, CyclicNext before places place (go place)) :
    ∃ enum : Fin places.card → A, Function.Injective enum ∧
      (∀ place, place ∈ places ↔ ∃ index, enum index = place) ∧
      ∀ index, go (enum index) =
        enum ⟨(index + 1) % places.card, Nat.mod_lt _ (Nat.zero_lt_of_lt index.isLt)⟩ := by
  classical
  let order_of : LinearOrder A := linearOrderOfSTO before
  have lt_iff (first second : A) : first < second ↔ before first second := Iff.rfl
  let enum := places.orderIsoOfFin rfl
  refine ⟨fun index => enum index, ?_, ?_, ?_⟩
  · exact fun first second same => enum.injective (Subtype.ext same)
  · intro place
    constructor
    · intro there
      exact ⟨enum.symm ⟨place, there⟩, congrArg Subtype.val (enum.apply_symm_apply _)⟩
    · rintro ⟨index, rfl⟩
      exact (enum index).2
  · intro index
    have goes := goes (enum index) (enum index).2
    obtain ⟨next, next_eq⟩ : ∃ next, (enum next : A) = go (enum index) :=
      ⟨enum.symm ⟨_, goes.mem⟩, congrArg Subtype.val (enum.apply_symm_apply _)⟩
    have order (first second : Fin places.card) :
        before (enum first) (enum second) ↔ first < second := by
      rw [← lt_iff, Subtype.coe_lt_coe, OrderIso.lt_iff_lt]
    rw [← next_eq] at goes ⊢
    congr 2
    apply Fin.ext
    have small := index.isLt
    by_cases last : index.val + 1 = places.card
    · have none_behind : ¬∃ place ∈ (places : Set A), before (enum index) place := by
        rintro ⟨place, there, later⟩
        obtain ⟨other, rfl⟩ : ∃ other, (enum other : A) = place :=
          ⟨enum.symm ⟨place, there⟩, congrArg Subtype.val (enum.apply_symm_apply _)⟩
        have later := Fin.lt_def.mp ((order ..).mp later)
        omega
      have first := goes.wraps none_behind (enum ⟨0, by omega⟩) (enum _).2
      rw [order, Fin.lt_def] at first
      dsimp only at first ⊢
      rw [last, Nat.mod_self]
      omega
    · have behind : before (enum index) (enum ⟨index + 1, by omega⟩) := by
        rw [order, Fin.lt_def]
        exact Nat.lt_succ_self index
      obtain ⟨later, least⟩ := goes.after ⟨_, (enum _).2, behind⟩
      have least := least _ (enum ⟨index + 1, by omega⟩).2 behind
      rw [order, Fin.lt_def] at later least
      dsimp only at least ⊢
      rw [Nat.mod_eq_of_lt (by omega)]
      omega

/-- Going on from a place visits every place once, and is then back. -/
theorem visits (goes : ∀ place ∈ places, CyclicNext before places place (go place)) {start : A}
    (there : start ∈ places) :
    go^[places.card] start = start ∧
      ∀ place ∈ places, ∃! steps, steps < places.card ∧ go^[steps] start = place := by
  obtain ⟨enum, injective, onto, next⟩ := go_enum goes
  obtain ⟨first, rfl⟩ := (onto start).mp there
  have positive : 0 < places.card := Nat.zero_lt_of_lt first.isLt
  have walks (steps : Nat) :
      go^[steps] (enum first) = enum ⟨(first + steps) % places.card, Nat.mod_lt _ positive⟩ := by
    induction steps with
    | zero =>
        rw [Function.iterate_zero_apply]
        congr 1
        exact Fin.ext (Nat.mod_eq_of_lt first.isLt).symm
    | succ steps ih =>
        rw [Function.iterate_succ_apply', ih, next]
        congr 1
        apply Fin.ext
        dsimp only
        rw [Nat.mod_add_mod, Nat.add_assoc]
  constructor
  · rw [walks]
    congr 1
    apply Fin.ext
    dsimp only
    rw [Nat.add_mod_right, Nat.mod_eq_of_lt first.isLt]
  · intro place listed
    obtain ⟨index, rfl⟩ := (onto place).mp listed
    have reaches (steps : Nat) :
        go^[steps] (enum first) = enum index ↔ (first + steps) % places.card = index := by
      rw [walks, injective.eq_iff, Fin.ext_iff]
    have first_lt := first.isLt
    have index_lt := index.isLt
    refine ⟨(index + (places.card - first)) % places.card, ⟨Nat.mod_lt _ positive, ?_⟩, ?_⟩
    · rw [reaches, Nat.add_mod_mod]
      have round : first.val + (index.val + (places.card - first.val)) =
          index.val + places.card := by omega
      rw [round, Nat.add_mod_right, Nat.mod_eq_of_lt index_lt]
    · rintro steps ⟨few, arrives⟩
      rw [reaches] at arrives
      rw [← arrives, Nat.mod_add_mod]
      have round : first.val + steps + (places.card - first.val) = steps + places.card := by omega
      rw [round, Nat.add_mod_right, Nat.mod_eq_of_lt few]

end

end CyclicNext

/-! ### Row by row -/

/-- In an earlier row, or in the same and at an earlier column. -/
def RowsBefore (first second : Int × Int) : Prop :=
  first.1 < second.1 ∨ first.1 = second.1 ∧ first.2 < second.2

/-- The places of so many rows, some columns in each of them. -/
def rowPlaces (count : Int) (columns : Int → Set Int) : Set (Int × Int) :=
  {place | 0 ≤ place.1 ∧ place.1 < count ∧ place.2 ∈ columns place.1}

section

variable {count row column hit : Int} {columns : Int → Set Int}

/-- A column behind the start in its own row comes first. -/
theorem CyclicNext.in_row (first : 0 ≤ row) (last : row < count) (found : hit ∈ columns row)
    (behind : column < hit) (least : ∀ other ∈ columns row, column < other → hit ≤ other) :
    CyclicNext RowsBefore (rowPlaces count columns) (row, column) (row, hit) := by
  have placed : (row, hit) ∈ rowPlaces count columns := ⟨first, last, found⟩
  have later : RowsBefore (row, column) (row, hit) := .inr ⟨rfl, behind⟩
  constructor
  case mem => exact placed
  case after =>
    refine fun _ => ⟨later, ?_⟩
    rintro ⟨at_row, at_column⟩ ⟨_, _, there⟩ (below | ⟨same, right⟩) (above | ⟨_, left⟩)
    · exact absurd (below.trans above) (lt_irrefl _)
    · dsimp only at *
      omega
    · dsimp only at *
      omega
    · dsimp only at same right left there
      subst same
      have := least at_column there right
      omega
  case wraps => exact fun none_behind => absurd ⟨_, placed, later⟩ none_behind

/-- Beyond the last row the first comes again. -/
theorem row_wraps {step : Int} (last : row < count) (inside : step ≤ count)
    (beyond : count ≤ row + step) : (row + step) % count = row + step - count := by
  have moved : row + step = row + step - count + count := by omega
  rw [moved, Int.add_emod_right, Int.emod_eq_of_lt (by omega) (by omega)]
  omega

/-- Otherwise it is the first column of the next row that has any, the start's own at last. -/
theorem CyclicNext.in_step {step : Int} (first : 0 ≤ row) (last : row < count)
    (exhausted : ∀ other ∈ columns row, ¬column < other) (forward : 1 ≤ step) (inside : step ≤ count)
    (skipped : ∀ earlier, 1 ≤ earlier → earlier < step → columns ((row + earlier) % count) = ∅)
    (found : hit ∈ columns ((row + step) % count))
    (least : ∀ other ∈ columns ((row + step) % count), hit ≤ other) :
    CyclicNext RowsBefore (rowPlaces count columns) (row, column) ((row + step) % count, hit) := by
  have positive : 0 < count := by omega
  have placed : ((row + step) % count, hit) ∈ rowPlaces count columns :=
    ⟨Int.emod_nonneg _ (by omega), Int.emod_lt_of_pos _ positive, found⟩
  -- what lies behind the start lies in a row that many steps on
  have reached : ∀ place ∈ rowPlaces count columns, RowsBefore (row, column) place →
      row + step ≤ place.1 := by
    rintro ⟨at_row, at_column⟩ ⟨_, below, there⟩ (down | ⟨same, right⟩)
    · dsimp only at *
      by_contra early
      have none_there := skipped (at_row - row) (by omega) (by omega)
      have same : row + (at_row - row) = at_row := by omega
      rw [same, Int.emod_eq_of_lt (by omega) below] at none_there
      rw [none_there] at there
      exact there
    · dsimp only at same right there
      subst same
      exact absurd right (exhausted at_column there)
  by_cases wraps : row + step < count
  · have at_step : (row + step) % count = row + step := Int.emod_eq_of_lt (by omega) wraps
    rw [at_step] at placed found least ⊢
    have later : RowsBefore (row, column) (row + step, hit) := .inl (by dsimp only; omega)
    constructor
    case mem => exact placed
    case after =>
      refine fun _ => ⟨later, ?_⟩
      rintro ⟨at_row, at_column⟩ there behind (above | ⟨same, left⟩)
      · have := reached _ there behind
        dsimp only at *
        omega
      · dsimp only at same left
        subst same
        have := least at_column there.2.2
        omega
    case wraps => exact fun none_behind => absurd ⟨_, placed, later⟩ none_behind
  · have at_step := row_wraps last inside (by omega)
    rw [at_step] at placed found least ⊢
    constructor
    case mem => exact placed
    case after =>
      rintro ⟨place, there, behind⟩
      have := reached place there behind
      have := there.2.1
      omega
    case wraps =>
      rintro _ ⟨at_row, at_column⟩ ⟨above, below, there⟩ (up | ⟨same, left⟩)
      · dsimp only at *
        have none_there := skipped (at_row + count - row) (by omega) (by omega)
        rw [row_wraps last (by omega) (by omega)] at none_there
        have same : row + (at_row + count - row) - count = at_row := by omega
        rw [same] at none_there
        rw [none_there] at there
        exact there
      · dsimp only at same left there
        subst same
        have := least at_column there
        omega

end

/-! ### Searching row by row -/

/-- The least of some columns in a window, or nothing where there is none. -/
structure Finds (columns : Set Int) (window : Int → Prop) (result : Option Int) : Prop where
  found : ∀ hit, result = some hit →
    hit ∈ columns ∧ window hit ∧ ∀ other ∈ columns, window other → hit ≤ other
  missed : result = none → ∀ other ∈ columns, ¬window other

namespace Finds

variable {columns others : Set Int} {window : Int → Prop} {result : Option Int}

/-- Where no column is in the window there is nothing to find. -/
theorem nothing (outside : ∀ other ∈ columns, ¬window other) : Finds columns window none where
  found _ same := by cases same
  missed _ := outside

/-- The least column in the window is what is found. -/
theorem least {hit : Int} (there : hit ∈ columns) (inside : window hit)
    (least : ∀ other ∈ columns, window other → hit ≤ other) : Finds columns window (some hit) where
  found other same := by
    obtain rfl := Option.some.inj same
    exact ⟨there, inside, least⟩
  missed same := by cases same

/-- Columns outside the window do not count. -/
theorem congr (finds : Finds columns window result)
    (same : ∀ column, window column → (column ∈ others ↔ column ∈ columns)) :
    Finds others window result where
  found hit given := by
    obtain ⟨there, inside, least⟩ := finds.found hit given
    exact ⟨(same hit inside).mpr there, inside,
      fun other listed within => least other ((same other within).mp listed) within⟩
  missed given other listed within :=
    finds.missed given other ((same other within).mp listed) within

/-- A window may be said otherwise, as far as there are columns. -/
theorem congr_window {window' : Int → Prop} (finds : Finds columns window result)
    (same : ∀ column ∈ columns, window' column ↔ window column) :
    Finds columns window' result where
  found hit given := by
    obtain ⟨there, inside, least⟩ := finds.found hit given
    exact ⟨there, (same hit there).mpr inside,
      fun other listed within => least other listed ((same other listed).mp within)⟩
  missed given other listed within := finds.missed given other listed ((same other listed).mp within)

end Finds

/-- What is behind the start in its row, else the next row that has anything, else what is before
the start in its row. -/
def cyclicSearch (count : Nat) (row : Int) (behind : Option Int) (around : Nat → Option Int)
    (before : Option Int) : Option (Int × Int) :=
  (behind.map fun hit => (row, hit)).or
    (((List.range' 1 (count - 1)).findSome? fun step =>
      (around step).map fun hit => ((row + step) % count, hit)).or
        (before.map fun hit => (row, hit)))

variable {count : Nat} {row column : Int} {columns : Int → Set Int} {behind before : Option Int}
  {around : Nat → Option Int}

/-- The first of a range that has anything. -/
theorem findSome?_range'_some {start length : Nat} {give : Nat → Option B} {value : B}
    (found : (List.range' start length).findSome? give = some value) :
    ∃ number, start ≤ number ∧ number < start + length ∧ give number = some value ∧
      ∀ earlier, start ≤ earlier → earlier < number → give earlier = none := by
  induction length generalizing start with
  | zero => cases found
  | succ length ih =>
      rw [List.range'_succ, List.findSome?_cons] at found
      cases given : give start with
      | some first =>
          rw [given] at found
          obtain rfl := Option.some.inj found
          exact ⟨start, le_refl start, by omega, given, fun earlier after before => by omega⟩
      | none =>
          rw [given] at found
          obtain ⟨number, after, inside, gives, missed⟩ := ih found
          refine ⟨number, by omega, by omega, gives, fun earlier later before => ?_⟩
          by_cases first : earlier = start
          · exact first ▸ given
          · exact missed earlier (by omega) before

/-- The columns behind the start, of the rows around, and before the start are searched. -/
structure Searches (count : Nat) (row column : Int) (columns : Int → Set Int) (behind : Option Int)
    (around : Nat → Option Int) (before : Option Int) : Prop where
  first : 0 ≤ row
  last : row < count
  behind : Finds (columns row) (column < ·) behind
  around : ∀ step, 1 ≤ step → step < count →
    Finds (columns ((row + step) % count)) (fun _ => True) (around step)
  before : Finds (columns row) (· ≤ column) before

namespace Searches

variable (searches : Searches count row column columns behind around before)

include searches

/-- A row the search has passed over holds nothing. -/
theorem skipped {step : Nat} (forward : 1 ≤ step) (inside : step < count)
    (missed : around step = none) : columns ((row + step) % count) = ∅ :=
  Set.eq_empty_iff_forall_notMem.mpr fun other there =>
    (searches.around step forward inside).missed missed other there trivial

/-- What is found is what comes next. -/
theorem cyclicNext {place : Int × Int}
    (found : cyclicSearch count row behind around before = some place) :
    CyclicNext RowsBefore (rowPlaces count columns) (row, column) place := by
  rw [cyclicSearch] at found
  cases behind_eq : behind with
  | some hit =>
      rw [behind_eq, Option.map_some, Option.some_or] at found
      obtain rfl := Option.some.inj found
      obtain ⟨there, later, least⟩ := searches.behind.found hit behind_eq
      exact .in_row searches.first searches.last there later least
  | none =>
      have exhausted := searches.behind.missed behind_eq
      rw [behind_eq, Option.map_none, Option.none_or] at found
      cases around_eq : (List.range' 1 (count - 1)).findSome? fun step =>
          (around step).map fun hit => ((row + step) % (count : Int), hit) with
      | some other =>
          rw [around_eq, Option.some_or] at found
          obtain rfl := Option.some.inj found
          obtain ⟨step, forward, inside, hits, missed⟩ := findSome?_range'_some around_eq
          obtain ⟨hit, step_hits, rfl⟩ := Option.map_eq_some_iff.mp hits
          obtain ⟨there, _, least⟩ :=
            (searches.around step forward (by omega)).found hit step_hits
          refine .in_step searches.first searches.last exhausted (by omega) (by omega) ?_ there
            fun other listed => least other listed trivial
          intro earlier after sooner
          obtain ⟨earlier, rfl⟩ := Int.eq_ofNat_of_zero_le (by omega : 0 ≤ earlier)
          exact searches.skipped (by omega) (by omega)
            (Option.map_eq_none_iff.mp (missed earlier (by omega) (by omega)))
      | none =>
          rw [around_eq, Option.none_or] at found
          obtain ⟨hit, before_eq, rfl⟩ := Option.map_eq_some_iff.mp found
          obtain ⟨there, _, least⟩ := searches.before.found hit before_eq
          have last := searches.last
          have round : (row + count) % (count : Int) = row := by
            rw [Int.add_emod_right, Int.emod_eq_of_lt searches.first last]
          have all : ∀ other ∈ columns row, hit ≤ other :=
            fun other listed => least other listed (not_lt.mp (exhausted other listed))
          have goes := CyclicNext.in_step searches.first last exhausted
            (by have := searches.first; omega : (1 : Int) ≤ count) (le_refl _) (fun earlier after sooner => by
              obtain ⟨earlier, rfl⟩ := Int.eq_ofNat_of_zero_le (by omega : 0 ≤ earlier)
              exact searches.skipped (by omega) (by omega) (Option.map_eq_none_iff.mp
                (List.findSome?_eq_none_iff.mp around_eq earlier
                  (List.mem_range'_1.mpr ⟨by omega, by omega⟩))))
            (round.symm ▸ there) (round.symm ▸ all)
          rwa [round] at goes

/-- Where nothing is found, there is nothing. -/
theorem nothing (missed : cyclicSearch count row behind around before = none) :
    rowPlaces count columns = ∅ := by
  rw [cyclicSearch, Option.or_eq_none_iff, Option.or_eq_none_iff, Option.map_eq_none_iff,
    Option.map_eq_none_iff] at missed
  obtain ⟨none_behind, none_around, none_before⟩ := missed
  refine Set.eq_empty_iff_forall_notMem.mpr ?_
  rintro ⟨at_row, at_column⟩ ⟨above, below, there⟩
  have first := searches.first
  have last := searches.last
  dsimp only at above below there
  have skipped (step : Nat) (forward : 1 ≤ step) (inside : step < count) :
      columns ((row + step) % count) = ∅ :=
    searches.skipped forward inside (Option.map_eq_none_iff.mp
      (List.findSome?_eq_none_iff.mp none_around step
        (List.mem_range'_1.mpr ⟨forward, by omega⟩)))
  rcases lt_trichotomy at_row row with up | rfl | down
  · have empty := skipped (at_row + count - row).toNat (by omega) (by omega)
    rw [Int.toNat_of_nonneg (by omega), row_wraps last (by omega) (by omega)] at empty
    have same : row + (at_row + count - row) - count = at_row := by omega
    rw [same] at empty
    rw [empty] at there
    exact there
  · rcases lt_or_ge column at_column with right | left
    · exact searches.behind.missed none_behind at_column there right
    · exact searches.before.missed none_before at_column there left
  · have empty := skipped (at_row - row).toNat (by omega) (by omega)
    have same : row + (at_row - row) = at_row := by omega
    rw [Int.toNat_of_nonneg (by omega), same, Int.emod_eq_of_lt above below] at empty
    rw [empty] at there
    exact there

end Searches

end Data

end Ckmux
