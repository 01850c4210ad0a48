import Mathlib

/-!
# Ledgers

Items that are kept in homes: each item in exactly one of them, once. Items come into a
home, go from one to another and are taken out, and a home is closed with all it holds.
-/

namespace Ckmux.Data

open scoped List

variable {Item Home : Type}

/-- The items there are, and each home's own list of them. -/
@[ext]
structure Ledger (Item Home : Type) where
  items : List Item
  homes : List (Home × List Item)

/-- A home's list changed. -/
def atHome [DecidableEq Home] (home : Home) (change : List Item → List Item) (homes : List (Home × List Item)) :
    List (Home × List Item) :=
  homes.map fun each => if each.1 = home then (each.1, change each.2) else each

namespace Ledger

variable (ledger : Ledger Item Home)

/-- The items as the homes list them. -/
def listed : List Item := ledger.homes.flatMap Prod.snd

/-- Each item is listed by one home, once, and no home twice. -/
structure Kept : Prop where
  distinct : ledger.items.Nodup
  apart : (ledger.homes.map Prod.fst).Nodup
  held : ledger.listed.Perm ledger.items

/-- A home in which nothing is yet. -/
def settle (home : Home) : Ledger Item Home :=
  { ledger with homes := ledger.homes ++ [(home, [])] }

/-- An item come into a home. -/
def enter [DecidableEq Home] (item : Item) (home : Home) : Ledger Item Home where
  items := ledger.items ++ [item]
  homes := atHome home (fun held => held ++ [item]) ledger.homes

variable [DecidableEq Item] [DecidableEq Home]

/-- An item taken out of a home, and lost. -/
def leave (item : Item) (home : Home) : Ledger Item Home where
  items := ledger.items.erase item
  homes := atHome home (fun held => held.filter fun each => each ≠ item) ledger.homes

/-- An item gone from one home to another. -/
def shift (item : Item) (source target : Home) : Ledger Item Home :=
  { ledger with
    homes := atHome target (fun held => held ++ [item])
      (atHome source (fun held => held.filter fun each => each ≠ item) ledger.homes) }

/-- A home closed, and what it held lost. -/
def close (home : Home) (held : List Item) : Ledger Item Home where
  items := ledger.items.diff held
  homes := ledger.homes.filter fun each => each.1 ≠ home

end Ledger

section

variable [DecidableEq Home]

/-- The homes stay the same whatever one of them holds. -/
@[simp] theorem atHome_keys (home : Home) (change : List Item → List Item)
    (homes : List (Home × List Item)) :
    (atHome home change homes).map Prod.fst = homes.map Prod.fst := by
  simp only [atHome, List.map_map]
  refine List.map_congr_left fun each _ => ?_
  dsimp only [Function.comp_apply]
  split <;> rfl

/-- No home of that name has its list changed. -/
theorem atHome_absent {home : Home} {homes : List (Home × List Item)}
    (absent : home ∉ homes.map Prod.fst) (change : List Item → List Item) :
    atHome home change homes = homes := by
  refine (List.map_congr_left fun each there => ?_).trans (List.map_id _)
  have another : each.1 ≠ home := fun same => absent (same ▸ List.mem_map_of_mem there)
  rw [if_neg another]
  rfl

/-- One home's list told apart from what the others list, whatever becomes of it. -/
theorem told_apart {homes : List (Home × List Item)} (apart : (homes.map Prod.fst).Nodup)
    {home : Home} {held : List Item} (there : (home, held) ∈ homes) :
    ∃ others : List Item, (homes.flatMap Prod.snd).Perm (held ++ others) ∧
      (∀ change, ((atHome home change homes).flatMap Prod.snd).Perm (change held ++ others)) ∧
      ((homes.filter fun each => each.1 ≠ home).flatMap Prod.snd).Perm others := by
  induction homes with
  | nil => cases there
  | cons first rest ih =>
      obtain ⟨another, apart⟩ := List.nodup_cons.mp apart
      rcases List.mem_cons.mp there with rfl | later
      · have kept : (rest.filter fun each => each.1 ≠ home) = rest :=
          List.filter_eq_self.mpr fun each among => decide_eq_true fun same =>
            another (List.mem_map.mpr ⟨each, among, same⟩)
        refine ⟨rest.flatMap Prod.snd, .refl _, fun change => ?_, ?_⟩
        · have same := atHome_absent another change
          simp only [atHome] at same ⊢
          rw [List.map_cons, if_pos rfl, same]
          exact .refl _
        · rw [List.filter_cons_of_neg (by simp), kept]
      · have differs : first.1 ≠ home := fun same =>
          another (List.mem_map.mpr ⟨_, later, same.symm⟩)
        obtain ⟨others, before, changed, closed⟩ := ih apart later
        have swap : ∀ list : List Item, (first.2 ++ (list ++ others)).Perm
            (list ++ (first.2 ++ others)) := fun list => by
          rw [← List.append_assoc, ← List.append_assoc]
          exact List.perm_append_comm.append_right others
        refine ⟨first.2 ++ others, ?_, fun change => ?_, ?_⟩
        · exact (before.append_left first.2).trans (swap held)
        · have here := changed change
          simp only [atHome] at here ⊢
          rw [List.map_cons, if_neg differs]
          exact (here.append_left first.2).trans (swap _)
        · rw [List.filter_cons_of_pos (by simpa using differs)]
          exact closed.append_left first.2

end

namespace Ledger.Kept

variable {ledger : Ledger Item Home}

/-- The order of the items does not matter. -/
theorem of_perm {items : List Item} (kept : ledger.Kept) (same : ledger.items.Perm items) :
    Kept { ledger with items := items } where
  distinct := same.nodup_iff.mp kept.distinct
  apart := kept.apart
  held := kept.held.trans same

/-- A new home holds nothing yet. -/
theorem settle (kept : ledger.Kept) {home : Home} (fresh : home ∉ ledger.homes.map Prod.fst) :
    (ledger.settle home).Kept where
  distinct := kept.distinct
  apart := by
    rw [Ledger.settle, List.map_append, List.nodup_append]
    refine ⟨kept.apart, List.nodup_singleton _, ?_⟩
    intro one there other only same
    obtain rfl : one = home := same.trans (List.mem_singleton.mp only)
    exact fresh there
  held := by
    rw [listed, Ledger.settle, List.flatMap_append, List.flatMap_singleton, List.append_nil]
    exact kept.held

/-- Whatever there is, is in some home. -/
theorem item_home (kept : ledger.Kept) {item : Item} (there : item ∈ ledger.items) :
    ∃ home ∈ ledger.homes, item ∈ home.2 :=
  List.mem_flatMap.mp (kept.held.symm.subset there)

/-- Whatever is in a home, there is. -/
theorem home_item (kept : ledger.Kept) {item : Item} {home : Home × List Item}
    (there : home ∈ ledger.homes) (among : item ∈ home.2) : item ∈ ledger.items :=
  kept.held.subset (List.mem_flatMap.mpr ⟨home, there, among⟩)

/-- What one home holds no other does. -/
theorem same_home (kept : ledger.Kept) {item : Item} {one other : Home × List Item}
    (here : one ∈ ledger.homes) (among : item ∈ one.2) (there : other ∈ ledger.homes)
    (too : item ∈ other.2) : one = other := by
  have nodup : ledger.listed.Nodup := kept.held.nodup_iff.mpr kept.distinct
  have apart := (List.nodup_flatMap.mp nodup).2
  by_contra another
  have symmetric : Std.Symm (Function.onFun List.Disjoint (Prod.snd : Home × List Item → List Item)) :=
    ⟨fun _ _ disjoint => disjoint.symm⟩
  exact apart.forall here there another among too

variable [DecidableEq Home]

/-- A new item goes to one home. -/
theorem enter (kept : ledger.Kept) {item : Item} {home : Home} {held : List Item}
    (there : (home, held) ∈ ledger.homes) (fresh : item ∉ ledger.items) :
    (ledger.enter item home).Kept where
  distinct := List.nodup_append.mpr ⟨kept.distinct, List.nodup_singleton _, by
    rintro one among _ only rfl
    exact fresh (List.mem_singleton.mp only ▸ among)⟩
  apart := by
    rw [Ledger.enter, atHome_keys]
    exact kept.apart
  held := by
    obtain ⟨others, before, changed, _⟩ := told_apart kept.apart there
    have after := changed fun held => held ++ [item]
    calc
      _ ~ (held ++ [item]) ++ others := after
      _ ~ held ++ (others ++ [item]) := by
        rw [List.append_assoc]
        exact List.perm_append_comm.append_left held
      _ = (held ++ others) ++ [item] := (List.append_assoc ..).symm
      _ ~ ledger.items ++ [item] := (before.symm.trans kept.held).append_right [item]

variable [DecidableEq Item]

/-- An item leaves the home it has. -/
theorem leave (kept : ledger.Kept) {item : Item} {home : Home} {held : List Item}
    (there : (home, held) ∈ ledger.homes) (among : item ∈ held) : (ledger.leave item home).Kept where
  distinct := kept.distinct.erase item
  apart := by
    rw [Ledger.leave, atHome_keys]
    exact kept.apart
  held := by
    obtain ⟨others, before, changed, _⟩ := told_apart kept.apart there
    have all := before.symm.trans kept.held
    have own : held.Nodup := (List.nodup_append.mp (all.nodup_iff.mpr kept.distinct)).1
    have after := changed fun held => held.filter fun each => each ≠ item
    calc
      _ ~ (held.filter fun each => each ≠ item) ++ others := after
      _ = held.erase item ++ others := by
        rw [own.erase_eq_filter]
        simp only [bne, beq_eq_decide, decide_not]
      _ = (held ++ others).erase item := (List.erase_append_left others among).symm
      _ ~ ledger.items.erase item := all.erase item

/-- An item goes from its home to another. -/
theorem shift (kept : ledger.Kept) {item : Item} {source target : Home} {held : List Item}
    (there : (source, held) ∈ ledger.homes) (among : item ∈ held)
    (known : target ∈ ledger.homes.map Prod.fst) : (ledger.shift item source target).Kept := by
  have left := kept.leave there among
  have still : target ∈ (ledger.leave item source).homes.map Prod.fst := by
    rw [Ledger.leave, atHome_keys]
    exact known
  obtain ⟨⟨_, list⟩, placed, same⟩ := List.mem_map.mp still
  obtain rfl : _ = target := same
  have gone : item ∉ (ledger.leave item source).items := kept.distinct.not_mem_erase
  have all : (ledger.items.erase item ++ [item]) ~ ledger.items :=
    List.perm_append_comm.trans (List.perm_cons_erase (kept.home_item there among)).symm
  exact (left.enter placed gone).of_perm all

/-- A home goes with all it holds. -/
theorem close (kept : ledger.Kept) {home : Home} {held : List Item}
    (there : (home, held) ∈ ledger.homes) : (ledger.close home held).Kept where
  distinct := kept.distinct.diff
  apart := kept.apart.sublist (List.filter_sublist.map Prod.fst)
  held := by
    obtain ⟨others, before, _, closed⟩ := told_apart kept.apart there
    have all : (↑ledger.items : Multiset Item) = ↑held + ↑others :=
      Quotient.sound (kept.held.symm.trans before)
    have rest : (↑(ledger.items.diff held) : Multiset Item) = ↑others := by
      rw [← Multiset.coe_sub, all, add_tsub_cancel_left]
    exact closed.trans (Multiset.coe_eq_coe.mp rest).symm

end Ledger.Kept

end Ckmux.Data
