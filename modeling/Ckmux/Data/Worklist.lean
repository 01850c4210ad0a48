import Mathlib

/-!
# Worklists

What can be reached from a place by following edges is found by keeping those places that have
been seen and not left yet. The edges may run in circles, and the same edge may be there more
than once: a place is only kept when it is first seen, so it is left only once, and the places
that edges run to are finitely many.
-/

namespace Ckmux

namespace Data

variable {A : Type} [DecidableEq A]

/-- The places seen, those of them not left yet with the latest first, and those left in order. -/
structure Worklist (A : Type) where
  visited : List A
  frontier : List A
  result : List A

namespace Worklist

/-- A place is seen. -/
def see (list : Worklist A) (place : A) : Worklist A :=
  if place ∈ list.visited then list
  else { list with visited := place :: list.visited, frontier := place :: list.frontier }

/-- A place is left for those that its edges run to. -/
def leave (next : A → List A) (list : Worklist A) (place : A) (rest : List A) : Worklist A :=
  (next place).foldl see { list with frontier := rest, result := list.result ++ [place] }

/-- Places are left until there are none, or until the fuel ends. -/
def run (next : A → List A) : Nat → Worklist A → Option (List A)
  | fuel, list =>
      match list.frontier with
      | [] => some list.result
      | place :: rest =>
          match fuel with
          | 0 => none
          | fuel + 1 => run next fuel (leave next list place rest)

/-- Where an edge runs. -/
def Edge (next : A → List A) (place other : A) : Prop := other ∈ next place

/-! ### What is seen -/

/-- Seeing a place finishes none. -/
@[simp] theorem see_result (list : Worklist A) (place : A) :
    (list.see place).result = list.result := by
  rw [see]
  split <;> rfl

/-- A place that is seen is the only one more. -/
theorem mem_see {list : Worklist A} {place other : A} :
    other ∈ (list.see place).visited ↔ other ∈ list.visited ∨ other = place := by
  rw [see]
  split
  · rename_i seen
    exact ⟨.inl, fun either => either.elim id fun same => same ▸ seen⟩
  · rw [List.mem_cons, or_comm]

/-- No place is seen twice. -/
theorem see_distinct {list : Worklist A} (distinct : list.visited.Nodup) (place : A) :
    (list.see place).visited.Nodup := by
  rw [see]
  split
  · exact distinct
  · rename_i unseen
    exact List.nodup_cons.mpr ⟨unseen, distinct⟩

/-- What is seen is still to be done or is done. -/
theorem see_parts {list : Worklist A} (parts : (list.frontier ++ list.result).Perm list.visited)
    (place : A) : ((list.see place).frontier ++ (list.see place).result).Perm
      (list.see place).visited := by
  rw [see]
  split
  · exact parts
  · exact parts.cons place

/-- Seeing places finishes none. -/
@[simp] theorem foldl_see_result (list : Worklist A) (places : List A) :
    (places.foldl see list).result = list.result := by
  induction places generalizing list with
  | nil => rfl
  | cons place places ih => rw [List.foldl_cons, ih, see_result]

/-- Places that are seen are the only ones more. -/
theorem mem_foldl_see {list : Worklist A} {places : List A} {other : A} :
    other ∈ (places.foldl see list).visited ↔ other ∈ list.visited ∨ other ∈ places := by
  induction places generalizing list with
  | nil => simp
  | cons place places ih => rw [List.foldl_cons, ih, mem_see, List.mem_cons, or_assoc]

/-- No place of some is seen twice. -/
theorem foldl_see_distinct {list : Worklist A} (distinct : list.visited.Nodup) (places : List A) :
    (places.foldl see list).visited.Nodup := by
  induction places generalizing list with
  | nil => exact distinct
  | cons place places ih => exact ih (see_distinct distinct place)

/-- What some places add is still to be done. -/
theorem foldl_see_parts {list : Worklist A}
    (parts : (list.frontier ++ list.result).Perm list.visited) (places : List A) :
    ((places.foldl see list).frontier ++ (places.foldl see list).result).Perm
      (places.foldl see list).visited := by
  induction places generalizing list with
  | nil => exact parts
  | cons place places ih => exact ih (see_parts parts place)

/-! ### What is reached -/

/-- Only what can be reached is seen, and once; what has been seen is on the frontier or left; and
whatever an edge runs to from a place that was left has been seen. -/
structure Explores (next : A → List A) (root : A) (list : Worklist A) : Prop where
  distinct : list.visited.Nodup
  parts : (list.frontier ++ list.result).Perm list.visited
  begun : root ∈ list.visited
  reached : ∀ place ∈ list.visited, Relation.ReflTransGen (Edge next) root place
  followed : ∀ place ∈ list.result, ∀ other ∈ next place, other ∈ list.visited

variable {next : A → List A} {root : A}

omit [DecidableEq A] in
/-- Where it begins: with the root alone. -/
theorem Explores.start (next : A → List A) (root : A) :
    Explores next root { visited := [root], frontier := [root], result := [] } where
  distinct := List.nodup_singleton root
  parts := .refl _
  begun := List.mem_singleton_self root
  reached place seen := List.mem_singleton.mp seen ▸ .refl
  followed _ left := by cases left

/-- A place is done when all it leads to is seen. -/
theorem Explores.leave {list : Worklist A} (explores : Explores next root list) {place : A}
    {rest : List A} (first : list.frontier = place :: rest) :
    Explores next root (list.leave next place rest) := by
  have moved : (rest ++ (list.result ++ [place])).Perm list.visited := by
    refine List.Perm.trans ?_ explores.parts
    rw [first, ← List.append_assoc]
    exact List.perm_append_singleton place _
  let moving : Worklist A :=
    { list with frontier := rest, result := list.result ++ [place] }
  have visited : place ∈ list.visited :=
    explores.parts.subset (List.mem_append_left _ (first ▸ List.mem_cons_self))
  constructor
  case distinct => exact @foldl_see_distinct _ _ moving explores.distinct (next place)
  case parts => exact @foldl_see_parts _ _ moving moved (next place)
  case begun => exact mem_foldl_see.mpr (.inl explores.begun)
  case reached =>
    intro other seen
    rcases mem_foldl_see.mp seen with before | edge
    · exact explores.reached other before
    · exact (explores.reached place visited).tail edge
  case followed =>
    intro left gone other edge
    rw [Worklist.leave, foldl_see_result, List.mem_append, List.mem_singleton] at gone
    refine mem_foldl_see.mpr ?_
    rcases gone with before | rfl
    · exact .inl (explores.followed left before other edge)
    · exact .inr edge

omit [DecidableEq A] in
/-- Once nothing is on the frontier, all that can be reached has been left. -/
theorem Explores.mem_result_iff {list : Worklist A} (explores : Explores next root list)
    (done : list.frontier = []) {place : A} :
    place ∈ list.result ↔ Relation.ReflTransGen (Edge next) root place := by
  have parts := explores.parts
  rw [done, List.nil_append] at parts
  constructor
  · exact fun left => explores.reached place (parts.subset left)
  · intro path
    induction path with
    | refl => exact parts.symm.subset explores.begun
    | tail _ edge left => exact parts.symm.subset (explores.followed _ left _ edge)

/-- Where edges only run to some places, as many steps as there are places reach the end. -/
theorem run_reaches {places : List A} (root_place : root ∈ places)
    (closed : ∀ place, ∀ other ∈ next place, other ∈ places) {fuel : Nat} {list : Worklist A}
    (explores : Explores next root list) (enough : places.length ≤ list.result.length + fuel) :
    ∃ result, run next fuel list = some result ∧ result.Nodup ∧
      ∀ place, place ∈ result ↔ Relation.ReflTransGen (Edge next) root place := by
  induction fuel generalizing list with
  | zero =>
      have inside : list.visited ⊆ places := by
        intro place seen
        cases explores.reached place seen with
        | refl => exact root_place
        | tail _ edge => exact closed _ _ edge
      have few : list.visited.length ≤ places.length :=
        (explores.distinct.subperm inside).length_le
      have parts := explores.parts.length_eq
      rw [List.length_append] at parts
      have done : list.frontier = [] := List.length_eq_zero_iff.mp (by omega)
      refine ⟨list.result, by rw [run, done], ?_, fun _ => explores.mem_result_iff done⟩
      have same := explores.parts
      rw [done, List.nil_append] at same
      exact same.nodup_iff.mpr explores.distinct
  | succ fuel ih =>
      cases first : list.frontier with
      | nil =>
          have same := explores.parts
          rw [first, List.nil_append] at same
          exact ⟨list.result, by rw [run, first], same.nodup_iff.mpr explores.distinct,
            fun _ => explores.mem_result_iff first⟩
      | cons place rest =>
          have longer : (list.leave next place rest).result.length = list.result.length + 1 := by
            rw [leave, foldl_see_result, List.length_append, List.length_singleton]
          rw [run, first]
          exact ih (explores.leave first) (by omega)

/-- More steps than are needed change nothing. -/
theorem run_more {fuel : Nat} {list : Worklist A} {result : List A}
    (ends : run next fuel list = some result) (extra : Nat) :
    run next (fuel + extra) list = some result := by
  induction fuel generalizing list with
  | zero =>
      rw [run] at ends ⊢
      split at ends
      · exact ends
      · cases ends
  | succ fuel ih =>
      rw [Nat.succ_add]
      rw [run] at ends ⊢
      split at ends
      · exact ends
      · exact ih ends

end Worklist

end Data

end Ckmux
