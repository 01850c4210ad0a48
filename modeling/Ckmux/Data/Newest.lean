import Mathlib

/-!
# The newest entries of a queue

A queue that keeps at most so many entries keeps the newest, `List.rtake`. A copy
of it that lags behind is brought level by resending the newest entries, as many
as it may lack: `level_append` says that it stays so while more entries arrive.
-/

namespace Ckmux.Data

variable {α : Type}

/-- No more are kept than the limit. -/
theorem length_rtake (entries : List α) (limit : Nat) :
    (entries.rtake limit).length = min limit entries.length := by
  rw [List.rtake, List.length_drop]
  omega

/-- Few entries are all kept. -/
theorem rtake_of_length_le {entries : List α} {limit : Nat} (few : entries.length ≤ limit) :
    entries.rtake limit = entries := by
  rw [List.rtake, Nat.sub_eq_zero_of_le few, List.drop_zero]

/-- More entries than are kept decide what is kept. -/
theorem rtake_append_of_le {front back : List α} {limit : Nat} (many : limit ≤ back.length) :
    (front ++ back).rtake limit = back.rtake limit := by
  rw [List.rtake, List.rtake, List.length_append, Nat.add_sub_assoc many, List.drop_length_add_append]

/-- Fewer entries than are kept are kept, behind the newest before them. -/
theorem rtake_append_of_ge {front back : List α} {limit : Nat} (few : back.length ≤ limit) :
    (front ++ back).rtake limit = front.rtake (limit - back.length) ++ back := by
  rw [List.rtake, List.rtake, List.length_append, List.drop_append_of_le_length (by omega)]
  congr 2
  omega

/-- What was dropped before need not be told apart. -/
theorem rtake_rtake_append (front back : List α) (limit : Nat) :
    (front.rtake limit ++ back).rtake limit = (front ++ back).rtake limit := by
  rcases Nat.le_total limit back.length with many | few
  · rw [rtake_append_of_le many, rtake_append_of_le many]
  · rw [rtake_append_of_ge few, rtake_append_of_ge few]
    congr 1
    rw [List.rtake, List.rtake, List.rtake, List.length_drop, List.drop_drop]
    congr 1
    omega

/-- The newest of the newest. -/
theorem rtake_rtake_of_le (entries : List α) {few many : Nat} (ordered : few ≤ many) :
    (entries.rtake many).rtake few = entries.rtake few := by
  rw [List.rtake, List.rtake, List.rtake, List.length_drop, List.drop_drop]
  congr 1
  omega

/-! ### A queue of so many entries -/

/-- A queue and how many entries it may have. -/
structure Recent (α : Type) where
  limit : Nat
  entries : List α
  few : entries.length ≤ limit

namespace Recent

/-- An entry behind the others; the oldest gives way. -/
def push (recent : Recent α) (entry : α) : Recent α where
  limit := recent.limit
  entries := (recent.entries ++ [entry]).rtake recent.limit
  few := by
    rw [length_rtake]
    exact Nat.min_le_left ..

/-- The queue kept to another limit. -/
def keep (recent : Recent α) (limit : Nat) : Recent α where
  limit := limit
  entries := recent.entries.rtake limit
  few := by
    rw [length_rtake]
    exact Nat.min_le_left ..

/-- Every entry changed. -/
def map (recent : Recent α) (change : α → α) : Recent α where
  limit := recent.limit
  entries := recent.entries.map change
  few := by
    rw [List.length_map]
    exact recent.few

end Recent

/-! ### Copies that lag behind -/

/-- A copy that is level once the newest `lacking` entries are sent again. -/
def Level (limit : Nat) (copy kept : List α) (lacking : Nat) : Prop :=
  (copy ++ kept.rtake lacking).rtake limit = kept

instance [DecidableEq α] (limit : Nat) (copy kept : List α) (lacking : Nat) :
    Decidable (Level limit copy kept lacking) :=
  inferInstanceAs (Decidable (_ = _))

/-- A list is level with itself. -/
theorem Level.refl {limit : Nat} {kept : List α} (few : kept.length ≤ limit) :
    Level limit kept kept 0 := by
  rw [Level, List.rtake_zero, List.append_nil, rtake_of_length_le few]

/-- Entries that arrive are so many more to send. -/
theorem Level.append {limit lacking : Nat} {copy kept : List α} (level : Level limit copy kept lacking)
    (enough : min lacking limit ≤ kept.length) (incoming : List α) :
    Level limit copy ((kept ++ incoming).rtake limit) (lacking + incoming.length) := by
  rw [Level] at level ⊢
  rcases Nat.lt_or_ge limit (lacking + incoming.length) with many | few
  · -- All that is kept is sent, and fills the copy.
    have full : ((kept ++ incoming).rtake limit).rtake (lacking + incoming.length) =
        (kept ++ incoming).rtake limit := by
      apply rtake_of_length_le
      rw [length_rtake]
      omega
    rw [full, rtake_append_of_le, rtake_rtake_of_le _ (le_refl _)]
    rw [length_rtake, List.length_append]
    omega
  · rw [rtake_rtake_of_le _ few, rtake_append_of_ge (Nat.le_add_left ..), Nat.add_sub_cancel,
      ← List.append_assoc, ← rtake_rtake_append, level]

end Ckmux.Data
