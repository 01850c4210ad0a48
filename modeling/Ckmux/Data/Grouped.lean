import Mathlib

/-!
# Lists in groups

A list is grouped by a key when entries of one key stand together: between two of
them is no entry of another. A list stays grouped when an entry is put behind its
own group, or starts one of its own.
-/

namespace Ckmux.Data

variable {α κ : Type}

/-- Between two entries of one key, every entry has that key. -/
def Grouped (key : α → κ) (entries : List α) : Prop :=
  ∀ before first between last after, entries = before ++ first :: (between ++ last :: after) →
    key first = key last → ∀ entry ∈ between, key entry = key first

/-- Nothing is grouped. -/
theorem Grouped.nil (key : α → κ) : Grouped key [] := by
  intro before first between last after empty
  have lengths := congrArg List.length empty
  simp at lengths

/-- An entry behind its own group, or one that is new. -/
theorem Grouped.append {key : α → κ} {entries : List α} (grouped : Grouped key entries) {entry : α}
    (follows : (∃ front last, entries = front ++ [last] ∧ key last = key entry) ∨
      ∀ other ∈ entries, key other ≠ key entry) : Grouped key (entries ++ [entry]) := by
  intro before first between last after split same
  rcases List.eq_nil_or_concat after with rfl | ⟨after, final, rfl⟩
  · -- The entry ends the stretch.
    have parts : entries ++ [entry] = (before ++ first :: between) ++ [last] := by
      rw [split, List.append_assoc, List.cons_append]
    obtain ⟨rfl, ended⟩ := List.append_inj' parts rfl
    cases ended
    rcases follows with ⟨front, neighbour, ends, alike⟩ | fresh
    · rcases List.eq_nil_or_concat between with rfl | ⟨between, final, rfl⟩
      · intro other listed
        cases listed
      · have inner : before ++ first :: (between ++ [final]) = front ++ [neighbour] := by
          rw [← ends, List.concat_eq_append]
        have pieces : (before ++ first :: between) ++ [final] = front ++ [neighbour] := by
          rw [← inner, List.append_assoc, List.cons_append]
        obtain ⟨_, met⟩ := List.append_inj' pieces rfl
        cases met
        have group := same.trans alike.symm
        have inside := grouped before first between neighbour [] (by rw [List.concat_eq_append]) group
        intro other listed
        rw [List.concat_eq_append, List.mem_append, List.mem_singleton] at listed
        rcases listed with listed | rfl
        · exact inside other listed
        · exact group.symm
    · exact absurd same (fresh first (List.mem_append_right _ List.mem_cons_self))
  · have parts : entries ++ [entry] =
        (before ++ first :: (between ++ last :: after)) ++ [final] := by
      rw [split, List.concat_eq_append, List.append_assoc, List.cons_append, List.append_assoc,
        List.cons_append]
    obtain ⟨rfl, _⟩ := List.append_inj' parts rfl
    exact grouped before first between last after rfl same

end Ckmux.Data
