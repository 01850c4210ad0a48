import Mathlib

/-!
# Writing over

Steps run one after the other over a state. Some of them write one part of it, and a state can be
overwritten in that part. Where no other step reads or writes it, it does not matter when the part
is written, as long as it is written last.
-/

namespace Ckmux

namespace Data

variable {State Step : Type}

/-- Overwriting a part makes up for the steps that write it, and passes by all others. -/
structure Overwrites (run : State → Step → State) (writes : Step → Prop) (put : State → State) :
    Prop where
  again : ∀ state, put (put state) = put state
  absorbs : ∀ state step, writes step → put (run state step) = put state
  passes : ∀ state step, ¬writes step → put (run state step) = run (put state) step

namespace Overwrites

variable {run : State → Step → State} {writes : Step → Prop} {put : State → State}
  (overwrites : Overwrites run writes put)

include overwrites

/-- Where nothing is written, the part may be overwritten before or after. -/
theorem foldl_passes {steps : List Step} (others : ∀ step ∈ steps, ¬writes step) (state : State) :
    put (steps.foldl run state) = steps.foldl run (put state) := by
  induction steps generalizing state with
  | nil => rfl
  | cons step steps ih =>
      rw [List.forall_mem_cons] at others
      rw [List.foldl_cons, List.foldl_cons, ih others.2, overwrites.passes state step others.1]

/-- Each step that writes has given way to one that overwrites. -/
def Replaced (run : State → Step → State) (writes : Step → Prop) (put : State → State)
    (step new : Step) : Prop :=
  (writes step ∧ ∀ state, run state new = put state) ∨ (¬writes step ∧ new = step)

/-- After the same steps the part is all that differs, and after one that overwrites it is there. -/
theorem foldl_replaced {steps news : List Step}
    (replaced : List.Forall₂ (Replaced run writes put) steps news) {state other : State}
    (same : put state = put other) :
    put (steps.foldl run state) = put (news.foldl run other) ∧
      ((∃ step ∈ steps, writes step) ∨ put other = other →
        news.foldl run other = put (steps.foldl run state)) := by
  induction replaced generalizing state other with
  | nil =>
      refine ⟨same, ?_⟩
      rintro (⟨step, listed, _⟩ | there)
      · cases listed
      · exact there.symm.trans same.symm
  | @cons step new steps news replaced _ ih =>
      rw [List.foldl_cons, List.foldl_cons]
      rcases replaced with ⟨mine, overwritten⟩ | ⟨not_mine, rfl⟩
      · have after : put (run state step) = put (run other new) := by
          rw [overwrites.absorbs state step mine, overwritten, overwrites.again, same]
        obtain ⟨agree, settled⟩ := ih after
        refine ⟨agree, fun _ => settled (.inr ?_)⟩
        rw [overwritten, overwrites.again]
      · have after : put (run state new) = put (run other new) := by
          rw [overwrites.passes state new not_mine, overwrites.passes other new not_mine, same]
        obtain ⟨agree, settled⟩ := ih after
        refine ⟨agree, fun reason => settled ?_⟩
        rcases reason with ⟨written, listed, mine⟩ | there
        · rcases List.mem_cons.mp listed with rfl | later
          · exact absurd mine not_mine
          · exact .inl ⟨written, later, mine⟩
        · right
          rw [overwrites.passes other new not_mine, there]

/-- One more step that overwrites, with none behind it that writes, settles the part. -/
theorem foldl_inserted {before after : List Step} {new : Step}
    (overwritten : ∀ state, run state new = put state) (others : ∀ step ∈ after, ¬writes step)
    (state : State) :
    (before ++ new :: after).foldl run state = put ((before ++ after).foldl run state) := by
  rw [List.foldl_append, List.foldl_append, List.foldl_cons, overwritten,
    overwrites.foldl_passes others]

end Overwrites

/-- The last word: something holds after some steps if one of them brought it about, or it held
before, and no step since has a say in it. -/
theorem last_word {run : State → Step → State} {holds : State → Prop} {gives touches : Step → Prop}
    (one : ∀ state step, holds (run state step) ↔ gives step ∨ holds state ∧ ¬touches step)
    (steps : List Step) (state : State) :
    holds (steps.foldl run state) ↔
      (∃ before step later, steps = before ++ step :: later ∧ gives step ∧
        ∀ each ∈ later, ¬touches each) ∨
      holds state ∧ ∀ each ∈ steps, ¬touches each := by
  induction steps using List.reverseRecOn with
  | nil => simp
  | append_singleton steps step ih =>
      rw [List.foldl_concat, one, ih]
      constructor
      · rintro (given | ⟨⟨before, giver, later, rfl, given, quiet⟩ | ⟨held, quiet⟩, still⟩)
        · exact .inl ⟨steps, step, [], rfl, given, fun _ among => absurd among List.not_mem_nil⟩
        · refine .inl ⟨before, giver, later ++ [step], by simp, given, ?_⟩
          exact List.forall_mem_append.mpr ⟨quiet, List.forall_mem_singleton.mpr still⟩
        · exact .inr ⟨held, List.forall_mem_append.mpr ⟨quiet, List.forall_mem_singleton.mpr still⟩⟩
      · rintro (⟨before, giver, later, cut, given, quiet⟩ | ⟨held, quiet⟩)
        · rcases List.eq_nil_or_concat later with rfl | ⟨early, last, rfl⟩
          · exact .inl (List.singleton_inj.mp (List.append_inj_right' cut rfl) ▸ given)
          · rw [List.concat_eq_append] at cut quiet
            rw [← List.cons_append, ← List.append_assoc] at cut
            obtain ⟨rfl, same⟩ := List.append_inj' cut rfl
            obtain ⟨before_last, at_last⟩ := List.forall_mem_append.mp quiet
            refine .inr ⟨.inl ⟨before, giver, early, rfl, given, before_last⟩, ?_⟩
            exact List.singleton_inj.mp same ▸ at_last last (List.mem_singleton_self last)
        · obtain ⟨early, last⟩ := List.forall_mem_append.mp quiet
          exact .inr ⟨.inr ⟨held, early⟩, last step (List.mem_singleton_self step)⟩

end Data

end Ckmux
