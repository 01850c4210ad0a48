import Mathlib

/-!
# Things found by their keys

A list of things, each found under its key: the first there is, or the only one. Keys are
given out in turn by a counter of 64 bits.
-/

namespace Ckmux.Data

variable {Held Key : Type} [DecidableEq Key] {key : Held → Key}

/-- Something found by its key is found again once one of its kind has changed. -/
theorem find_change {id other : Key} {change : Held → Held}
    (kept : ∀ held, key (change held) = key held) (held : List Held) :
    ((held.map fun each => if key each = id then change each else each).find?
        fun each => key each = other) =
      if other = id then (held.find? fun each => key each = other).map change
      else held.find? fun each => key each = other := by
  induction held with
  | nil => simp
  | cons first rest ih =>
      rw [List.map_cons, List.find?_cons, List.find?_cons, ih]
      by_cases asked : key first = other
      · subst asked
        by_cases changed : key first = id
        · simp [changed, kept]
        · simp [changed]
      · have still : key (if key first = id then change first else first) ≠ other := by
          split
          · rwa [kept]
          · exact asked
        simp [asked, still]

/-- Something whose key nothing else has is what is found under it. -/
theorem find_of_mem {held : List Held} (distinct : (held.map key).Nodup) {each : Held}
    (there : each ∈ held) :
    (held.find? fun other => key other = key each) = some each := by
  induction held with
  | nil => cases there
  | cons first rest ih =>
      obtain ⟨another, distinct⟩ := List.nodup_cons.mp distinct
      rcases List.mem_cons.mp there with rfl | later
      · simp
      · have differs : key first ≠ key each := fun same =>
          another (same ▸ List.mem_map_of_mem later)
        rw [List.find?_cons_of_neg (by simpa using differs), ih distinct later]

/-! ### Lists changed one by one -/

section

variable {becomes earlier later : Held → Held → Prop} {before middle after : List Held}

/-- What has become of each thing, after two rounds of changes. -/
theorem paired_trans (composes : ∀ first second third, earlier first second →
    later second third → becomes first third) (first : List.Forall₂ earlier before middle)
    (second : List.Forall₂ later middle after) : List.Forall₂ becomes before after := by
  induction first generalizing after with
  | nil =>
      cases second
      exact .nil
  | cons here _ ih =>
      cases second with
      | cons there rest => exact .cons (composes _ _ _ here there) (ih rest)

/-- What each becomes, it becomes at its own place. -/
theorem paired_map {change : Held → Held} {held : List Held}
    (each : ∀ one ∈ held, becomes one (change one)) :
    List.Forall₂ becomes held (held.map change) :=
  List.forall₂_map_right_iff.mpr (List.forall₂_same.mpr each)

/-- Whatever is there afterwards has become of something that was there. -/
theorem paired_before (paired : List.Forall₂ becomes before after) {each : Held}
    (there : each ∈ after) : ∃ one ∈ before, becomes one each := by
  induction paired with
  | nil => cases there
  | cons here _ ih =>
      rcases List.mem_cons.mp there with rfl | among
      · exact ⟨_, List.mem_cons_self, here⟩
      · obtain ⟨one, was, became⟩ := ih among
        exact ⟨one, List.mem_cons_of_mem _ was, became⟩

/-- Something has become of whatever was there. -/
theorem paired_after (paired : List.Forall₂ becomes before after) {one : Held}
    (there : one ∈ before) : ∃ each ∈ after, becomes one each := by
  induction paired with
  | nil => cases there
  | cons here _ ih =>
      rcases List.mem_cons.mp there with rfl | among
      · exact ⟨_, List.mem_cons_self, here⟩
      · obtain ⟨each, is, became⟩ := ih among
        exact ⟨each, List.mem_cons_of_mem _ is, became⟩

/-- What no change touches is the same all along the list. -/
theorem paired_same {Kept : Type} {view : Held → Kept}
    (kept : ∀ one each, becomes one each → view each = view one)
    (paired : List.Forall₂ becomes before after) : after.map view = before.map view := by
  induction paired with
  | nil => rfl
  | cons here _ ih => rw [List.map_cons, List.map_cons, kept _ _ here, ih]

/-- Something is found under its key as it has become. -/
theorem paired_find (kept : ∀ one each, becomes one each → key each = key one)
    (paired : List.Forall₂ becomes before after) (id : Key) :
    Option.Rel becomes (before.find? fun one => key one = id)
      (after.find? fun each => key each = id) := by
  induction paired with
  | nil => exact .none
  | @cons one each _ _ here _ ih =>
      rw [List.find?_cons, List.find?_cons, kept _ _ here]
      by_cases same : key one = id
      · simpa [same] using Option.Rel.some here
      · simpa [same] using ih

end

/-! ### Keys given out in turn -/

/-- What has become of the keys there were, and of the next one to give out: some are gone,
and that one may have been given out. -/
def Issues (next later : UInt64) (before after : List UInt64) : Prop :=
  later = next ∧ after.Sublist before ∨ later = next + 1 ∧ after.Sublist (before ++ [next])

namespace Issues

variable {next later : UInt64} {before after fewer : List UInt64}

/-- Nothing is issued. -/
theorem refl (next : UInt64) (held : List UInt64) : Issues next next held held :=
  .inl ⟨rfl, .refl held⟩

/-- What is lost was issued or was there. -/
theorem lose (issues : Issues next later before after) (some : fewer.Sublist after) :
    Issues next later before fewer :=
  issues.imp (fun issues => ⟨issues.1, some.trans issues.2⟩)
    fun issues => ⟨issues.1, some.trans issues.2⟩

/-- The next key given out, once. -/
theorem give (issues : Issues next later before after) (first : later = next) :
    Issues next (later + 1) before (after ++ [later]) := by
  subst first
  rcases issues with ⟨_, some⟩ | ⟨twice, _⟩
  · exact .inr ⟨rfl, some.append (.refl _)⟩
  · exact absurd (left_eq_add.mp twice) (by decide)

/-- No key is given out that was before, while there are more to come. -/
theorem below (issues : Issues next later before after) (unspent : next.toNat + 1 < 2 ^ 64)
    (early : ∀ key ∈ before, key < next) : next ≤ later ∧ ∀ key ∈ after, key < later := by
  have grown : (next + 1).toNat = next.toNat + 1 := by
    rw [UInt64.toNat_add, UInt64.toNat_one, Nat.mod_eq_of_lt unspent]
  rcases issues with ⟨rfl, some⟩ | ⟨rfl, some⟩
  · exact ⟨UInt64.le_refl _, fun key among => early key (some.subset among)⟩
  · refine ⟨UInt64.le_iff_toNat_le.mpr (grown ▸ Nat.le_succ _), fun key among => ?_⟩
    rw [UInt64.lt_iff_toNat_lt, grown, Nat.lt_succ_iff]
    rcases List.mem_append.mp (some.subset among) with was | only
    · exact Nat.le_of_lt (UInt64.lt_iff_toNat_lt.mp (early key was))
    · rw [List.mem_singleton.mp only]

/-- A key there is, there was, or had not been given out yet. -/
theorem known (issues : Issues next later before after) {key : UInt64} (there : key ∈ after) :
    key ∈ before ∨ key = next := by
  rcases issues with ⟨_, some⟩ | ⟨_, some⟩
  · exact .inl (some.subset there)
  · exact (List.mem_append.mp (some.subset there)).imp_right List.mem_singleton.mp

/-- Nothing is issued twice. -/
theorem distinct (issues : Issues next later before after) (apart : before.Nodup)
    (fresh : next ∉ before) : after.Nodup := by
  rcases issues with ⟨_, some⟩ | ⟨_, some⟩
  · exact apart.sublist some
  · refine (List.nodup_append.mpr ⟨apart, List.nodup_singleton _, ?_⟩).sublist some
    rintro one there _ only rfl
    exact fresh (List.mem_singleton.mp only ▸ there)

end Issues

end Ckmux.Data
