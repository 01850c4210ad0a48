import Mathlib

/-!
# Labels given out one at a time

Holders have at most one label each, and no label has two holders. A label that is given to somebody
is taken from whoever had it, and somebody who is given a label gives up the one it had. After any
number of moves a label is where the last word on it left it.
-/

namespace Ckmux

namespace Data

/-- Who has which label. -/
@[ext] structure Matching (Holder Label : Type) where
  label : Holder → Option Label
  apart : ∀ first second given, label first = some given → label second = some given →
    first = second

namespace Matching

variable {Holder Label : Type} [DecidableEq Holder] [DecidableEq Label]

/-- A label taken from whoever has it, a holder left without, or both and the label given. -/
inductive Move (Holder Label : Type) where
  | take (given : Label)
  | release (holder : Holder)
  | give (holder : Holder) (given : Label)

variable (matching : Matching Holder Label)

/-- A label taken from whoever has it. -/
def take (given : Label) : Matching Holder Label where
  label other := if matching.label other = some given then none else matching.label other
  apart first second each held also := by
    rw [Option.ite_none_left_eq_some] at held also
    exact matching.apart first second each held.2 also.2

/-- A holder without its label. -/
def release (holder : Holder) : Matching Holder Label where
  label other := if other = holder then none else matching.label other
  apart first second each held also := by
    rw [Option.ite_none_left_eq_some] at held also
    exact matching.apart first second each held.2 also.2

/-- A label given to somebody. -/
def give (holder : Holder) (given : Label) : Matching Holder Label where
  label other := if other = holder then some given else (matching.take given).label other
  apart first second each held also := by
    have gone (other : Holder) : (matching.take given).label other ≠ some given := by
      dsimp only [take]
      split
      · exact Option.some_ne_none given |>.symm
      · assumption
    split at held <;> split at also
    · rename_i mine yours
      exact mine.trans yours.symm
    · cases held
      exact absurd also (gone second)
    · cases also
      exact absurd held (gone first)
    · exact (matching.take given).apart first second each held also

/-- Each move carried out. -/
def step : Move Holder Label → Matching Holder Label
  | .take given => matching.take given
  | .release holder => matching.release holder
  | .give holder given => matching.give holder given

variable {matching}

/-- Whether a move has a say in whether somebody has a label. -/
def Move.Touches (holder : Holder) (given : Label) : Move Holder Label → Prop
  | .take other => other = given
  | .release other => other = holder
  | .give other another => other = holder ∨ another = given

/-- What one move leaves and what it gives. -/
theorem step_label {move : Move Holder Label} {holder : Holder} {given : Label} :
    (matching.step move).label holder = some given ↔
      move = .give holder given ∨
        matching.label holder = some given ∧ ¬move.Touches holder given := by
  cases move with
  | take other =>
      simp only [step, take, Move.Touches, reduceCtorEq, false_or]
      split
      · rename_i had
        simp only [reduceCtorEq, had, Option.some.injEq, false_iff, not_and, not_not, imp_self]
      · rename_i kept
        refine ⟨fun held => ⟨held, fun same => kept (same ▸ held)⟩, And.left⟩
  | release other =>
      simp only [step, release, Move.Touches, reduceCtorEq, false_or]
      split
      · rename_i same
        simp [same]
      · rename_i another
        refine ⟨fun held => ⟨held, fun same => another same.symm⟩, And.left⟩
  | give other another =>
      simp only [step, give, take, Move.Touches, Move.give.injEq]
      split
      · rename_i same
        subst same
        simp
      · rename_i different
        split
        · rename_i had
          simp only [reduceCtorEq, false_iff, not_or, not_and, not_not]
          refine ⟨fun same => absurd same.symm different, fun held _ => ?_⟩
          exact Option.some_injective _ (had.symm.trans held)
        · rename_i kept
          constructor
          · intro held
            refine .inr ⟨held, ?_⟩
            rintro (same | same)
            · exact different same.symm
            · exact kept (same ▸ held)
          · rintro (⟨same, _⟩ | ⟨held, _⟩)
            · exact absurd same.symm different
            · exact held

end Matching

end Data

end Ckmux
